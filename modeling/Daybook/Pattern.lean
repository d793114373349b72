/-!
# Line patterns

A small language for the shapes of journal lines.  A `Pattern` is tried at a place in a line; its
alternatives are ordered, and the first way to match decides.  Everything that repeats in a journal
line is a run of single characters, so repetition is built in as `Pattern.run`, and matching
recurses on the pattern alone.

* `Pattern.outcomes`: all ways to match, the preferred one first.  This is the meaning of a pattern.
* `Pattern.scan`: the first outcome that a continuation accepts, without computing the others.
* `Pattern.scan_eq_findSome?`: the two agree.
* `Pattern.match?`, `Pattern.find?`: a match at the start of a text, and the leftmost match in it.
-/

namespace Daybook

/-- Whether a run of characters prefers to be long or short. -/
inductive Preference where
  | longest
  | shortest
deriving DecidableEq, Repr

/-- The shape of a piece of a line, with the parts that are of interest labelled by `γ`. -/
inductive Pattern (γ : Type) where
  /-- The empty text. -/
  | nothing
  /-- One character of a class. -/
  | one (ok : Char → Bool)
  /-- At least `least` and at most `most` characters, each accepted together with what follows
  it. -/
  | run (ok : Char → List Char → Bool) (least : Nat) (most : Option Nat) (prefer : Preference)
  /-- The empty text at a place where the remaining characters pass a test. -/
  | look (test : List Char → Bool)
  /-- One pattern and then another. -/
  | seq (p q : Pattern γ)
  /-- The first pattern or, failing that, the second. -/
  | either (p q : Pattern γ)
  /-- A pattern whose text is recorded under a label. -/
  | group (label : γ) (p : Pattern γ)

/-- A labelled part of a text: its label, its first position and the position after its last. -/
structure Span (γ : Type) where
  label : γ
  start : Nat
  stop : Nat
deriving DecidableEq, Repr

/-- A place in a text: its position, the characters from there on and the parts recorded so far, the
latest first. -/
structure Cursor (γ : Type) where
  pos : Nat
  rest : List Char
  spans : List (Span γ)

namespace Pattern

variable {γ β : Type}

/-- The places that a run of accepted characters can end at, the nearest first. -/
def reach (ok : Char → List Char → Bool) (most : Option Nat) (pos : Nat) :
    List Char → List (Nat × List Char)
  | [] => [(pos, [])]
  | x :: xs =>
    (pos, x :: xs) ::
      if most ≠ some 0 ∧ ok x xs then reach ok (most.map (· - 1)) (pos + 1) xs else []

/-- The cursors that a run can end at, in the order of preference. -/
def runEnds (ok : Char → List Char → Bool) (least : Nat) (most : Option Nat) (prefer : Preference)
    (c : Cursor γ) : List (Cursor γ) :=
  let ends := ((reach ok most c.pos c.rest).drop least).map fun e =>
    { c with pos := e.1, rest := e.2 }
  match prefer with
  | .longest => ends.reverse
  | .shortest => ends

/-- Records the text between two cursors under a label. -/
def record (label : γ) (before after : Cursor γ) : Cursor γ :=
  { after with spans := ⟨label, before.pos, after.pos⟩ :: after.spans }

/-- All ways to match at a cursor, the preferred one first. -/
def outcomes : Pattern γ → Cursor γ → List (Cursor γ)
  | nothing, c => [c]
  | one ok, c =>
    match c.rest with
    | [] => []
    | x :: xs => if ok x then [{ c with pos := c.pos + 1, rest := xs }] else []
  | run ok least most prefer, c => runEnds ok least most prefer c
  | look test, c => if test c.rest then [c] else []
  | seq p q, c => (p.outcomes c).flatMap q.outcomes
  | either p q, c => p.outcomes c ++ q.outcomes c
  | group label p, c => (p.outcomes c).map (record label c)

/-- Tries the ways to match at a cursor in order of preference and gives the first answer of the
continuation `k`. -/
def scan : Pattern γ → Cursor γ → (Cursor γ → Option β) → Option β
  | nothing, c, k => k c
  | one ok, c, k =>
    match c.rest with
    | [] => none
    | x :: xs => if ok x then k { c with pos := c.pos + 1, rest := xs } else none
  | run ok least most prefer, c, k => (runEnds ok least most prefer c).findSome? k
  | look test, c, k => if test c.rest then k c else none
  | seq p q, c, k => p.scan c fun c' => q.scan c' k
  | either p q, c, k =>
    match p.scan c k with
    | some r => some r
    | none => q.scan c k
  | group label p, c, k => p.scan c fun c' => k (record label c c')

/-- Scanning finds the first outcome that the continuation accepts. -/
theorem scan_eq_findSome? (p : Pattern γ) (c : Cursor γ) (k : Cursor γ → Option β) :
    p.scan c k = (p.outcomes c).findSome? k := by
  induction p generalizing c k with
  | nothing => simp [scan, outcomes]
  | one ok =>
    simp only [scan, outcomes]
    cases c.rest with
    | nil => rfl
    | cons x xs => by_cases h : ok x <;> simp [h]
  | run ok least most prefer => rfl
  | look test => by_cases h : test c.rest <;> simp [scan, outcomes, h]
  | seq p q ihp ihq =>
    simp only [scan, outcomes, ihp, ihq]
    induction p.outcomes c with
    | nil => rfl
    | cons a l ih => simp only [List.findSome?_cons, List.flatMap_cons, List.findSome?_append, ih,
        Option.or_eq_orElse]; cases (q.outcomes a).findSome? k <;> rfl
  | either p q ihp ihq =>
    simp only [scan, outcomes, ihp, ihq, List.findSome?_append]
    cases (p.outcomes c).findSome? k <;> rfl
  | group label p ih => simp only [scan, outcomes, ih, List.findSome?_map]; rfl

/-! ## Shorthands -/

/-- A pattern or, failing that, nothing. -/
def opt (p : Pattern γ) : Pattern γ := either p nothing

/-- Several patterns in a row. -/
def all : List (Pattern γ) → Pattern γ
  | [] => nothing
  | [p] => p
  | p :: ps => seq p (all ps)

/-- The given characters. -/
def literal (s : String) : Pattern γ := all (s.toList.map fun x => one (· == x))

/-- As many characters of a class as possible, at least `least`. -/
def many (ok : Char → Bool) (least : Nat) : Pattern γ := run (fun x _ => ok x) least none .longest

/-- As few characters of a class as possible. -/
def few (ok : Char → Bool) : Pattern γ := run (fun x _ => ok x) 0 none .shortest

/-- From `least` to `most` characters of a class, as many as possible. -/
def between (ok : Char → Bool) (least most : Nat) : Pattern γ :=
  run (fun x _ => ok x) least (some most) .longest

/-- The end of a text; a line break that ends the text is left out of account. -/
def atEnd : Pattern γ := look fun rest => rest == [] || rest == ['\n']

/-! ## Matches -/

end Pattern

/-- A match in a text: where it starts and ends, and its labelled parts, the latest first. -/
structure Match (γ : Type) where
  text : List Char
  start : Nat
  stop : Nat
  spans : List (Span γ)

namespace Match

variable {γ : Type} [DecidableEq γ]

/-- The part recorded under a label. -/
def span? (m : Match γ) (label : γ) : Option (Span γ) :=
  m.spans.find? fun s => s.label = label

/-- The characters from `start` up to `stop`. -/
def slice (text : List Char) (start stop : Nat) : List Char :=
  (text.drop start).take (stop - start)

/-- The text of the part recorded under a label. -/
def text? (m : Match γ) (label : γ) : Option (List Char) :=
  (m.span? label).map fun s => slice m.text s.start s.stop

/-- The text of the part recorded under a label, empty if there is none. -/
def textD (m : Match γ) (label : γ) : List Char :=
  (m.text? label).getD []

end Match

namespace Pattern

variable {γ : Type}

/-- A match that starts at position `pos` of `text`, where `rest` is what stands there. -/
def matchAt? (p : Pattern γ) (text : List Char) (pos : Nat) (rest : List Char) :
    Option (Match γ) :=
  p.scan ⟨pos, rest, []⟩ fun c => some ⟨text, pos, c.pos, c.spans⟩

/-- A match at the start of a text. -/
def match? (p : Pattern γ) (text : List Char) : Option (Match γ) :=
  p.matchAt? text 0 text

/-- Whether a text starts with a match. -/
def accepts (p : Pattern γ) (text : List Char) : Bool :=
  (p.match? text).isSome

/-- The leftmost match from position `pos` on. -/
def findFrom? (p : Pattern γ) (text : List Char) (pos : Nat) : List Char → Option (Match γ)
  | [] => p.matchAt? text pos []
  | x :: xs =>
    match p.matchAt? text pos (x :: xs) with
    | some m => some m
    | none => findFrom? p text (pos + 1) xs

/-- The leftmost match in a text. -/
def find? (p : Pattern γ) (text : List Char) : Option (Match γ) :=
  p.findFrom? text 0 text

end Pattern

end Daybook
