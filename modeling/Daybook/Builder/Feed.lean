import Daybook.Builder.Directive

/-!
# Feeding a builder

* `Builder.handleLine`: what the tokens of one line do.
* `Builder.feed`: takes a portion of tokens; `Builder.feedLines`: takes lines.
* `Builder.finish`: closes what is open and gives the snapshot.
* `Builder.Pause`: a build between portions; `Pause.resume`: goes on to the next pause.
* `Snapshot.ofText`, `Snapshot.ofPortions`, `Snapshot.ofTurns`: the snapshot of a text, built in one go,
  some lines at a time, or with pauses in which others have their turn.
-/

namespace Daybook

open Text Journal

namespace Builder

/-- What an indented line does. -/
def handleIndented (head : Token) (rest : List Token) (line : Int) : BuildM Unit := do
  let b ← get
  if head.kind = .directive then directive head.text rest line
  else if b.skipping then pure ()
  else
    match b.openTransaction with
    | none =>
      if head.kind ≠ .comment then modify (·.warn line "indented line outside a transaction")
    | some t =>
      if head.kind = .comment then
        set { b with
          openTransaction := some (OpenTransaction.addTags t (tagPairs (head :: rest))) }
      else
        match b.readPosting (head :: rest) with
        | .error e => throw e
        | .ok none =>
          set { b with openTransaction := some { t with badLines := t.badLines ++ [line] } }
        | .ok (some p) =>
          set { b with openTransaction := some { t with postings := t.postings ++ [p] } }

/-- What a line that is not indented does. -/
def handleFlush (head : Token) (rest : List Token) (line : Int) : BuildM Unit := do
  closeTransaction
  match head.kind with
  | .date => openTransactionAt head.text rest line
  | .directive => directive head.text rest line
  | .text => modify (·.warn line ("unrecognized line: " ++ quoted head.text))
  | _ => pure ()

/-- What the tokens of a line do. -/
def handleLine (tokens : List Token) (line : Int) : BuildM Unit :=
  match tokens with
  | [] => closeTransaction
  | first :: others =>
    if first.kind = .indent then
      match others with
      | [] => closeTransaction
      | head :: rest => handleIndented head rest line
    else handleFlush first others line

/-- A token in the text that tells sequences of tokens apart. -/
def tokenMark (tok : Token) : String :=
  tok.kind.name ++ "\x1f" ++ tok.text ++ "\x1f" ++ toString tok.line ++ "\x1f" ++
    toString tok.column ++ "\x1e"

/-- Takes one token.  A line is handled when it ends. -/
def feedToken (tok : Token) : BuildM Unit := do
  modify fun b => { b with fingerprint := b.fingerprint ++ tokenMark tok }
  if tok.kind = .newline then
    handleLine (← get).pending tok.line
    modify fun b => { b with pending := [] }
  else modify fun b => { b with pending := b.pending ++ [tok] }

/-- Takes tokens one after another. -/
def feedTokens : List Token → BuildM Unit
  | [] => pure ()
  | tok :: rest => do
    feedToken tok
    feedTokens rest

/-- Refuses to go on with a finished build. -/
def checkOpen : BuildM Unit := do
  if (← get).finished then throw .finished

/-- Takes a portion of tokens. -/
def feed (tokens : List Token) : BuildM Unit := do
  checkOpen
  feedTokens tokens

/-- Takes the tokens of lines, up to the first line that falls under no rule. -/
def feedLineTokens (first : Int) : List (List Char) → BuildM Unit
  | [] => pure ()
  | cs :: rest =>
    match lineTokens cs first with
    | .error e => throw (.line e)
    | .ok tokens => do
      feedTokens tokens
      feedLineTokens (first + 1) rest

/-- Takes lines; the first one has number `first`. -/
def feedLines (first : Int) (lines : List (List Char)) : BuildM Unit := do
  checkOpen
  feedLineTokens first lines

/-- Handles an unfinished line, closes the transaction that is being read and gives the snapshot. -/
def finish : BuildM Snapshot := do
  if !(← get).finished then
    match (← get).pending with
    | [] => pure ()
    | tok :: rest =>
      handleLine (tok :: rest) tok.line
      modify fun b => { b with pending := [] }
    closeTransaction
    modify fun b =>
      { b.record fun s => { s with sources := s.sources.insert b.fingerprint } with
        finished := true }
  return (← get).snapshot

/-- Cuts lines into portions of `size` lines, the last of which may be shorter. -/
def portions (size : Nat) : List (List Char) → List (List (List Char))
  | [] => []
  | l :: ls => (l :: ls.take (size - 1)) :: portions size (ls.drop (size - 1))
termination_by lines => lines.length
decreasing_by simp only [List.length_drop, List.length_cons]; omega

/-- Takes portions of lines and gives the number of lines taken after each. -/
def feedPortions (taken : Nat) : List (List (List Char)) → BuildM (List Nat)
  | [] => pure []
  | lines :: rest => do
    feedLines taken lines
    let now := taken + lines.length
    return now :: (← feedPortions now rest)

/-- A build between portions: its state, the number of lines that were taken, and the portions that are
still to come. -/
structure Pause where
  builder : Builder
  taken : Nat
  portions : List (List (List Char))

/-- Goes on with a build to the next pause, or to its snapshot. -/
def Pause.resume (p : Pause) : Except BuildError (Pause ⊕ Snapshot) :=
  match p.portions with
  | [] => (finish.run.run p.builder).1.map .inr
  | lines :: rest =>
    match (feedLines p.taken lines).run.run p.builder with
    | (.error e, _) => .error e
    | (.ok (), b) => .ok (.inl ⟨b, p.taken + lines.length, rest⟩)

theorem Pause.length_portions_of_resume {p p' : Pause} (h : p.resume = .ok (.inl p')) :
    p'.portions.length < p.portions.length := by
  rw [resume] at h
  split at h
  · cases hfinish : (finish.run.run p.builder).1 <;> (rw [hfinish] at h; cases h)
  · rename_i lines rest hportions
    split at h
    · cases h
    · cases h
      rw [hportions]
      exact Nat.lt_succ_self _

/-- Goes on with a build from pause to pause, to its snapshot. -/
def Pause.toEnd (p : Pause) : Except BuildError Snapshot :=
  match _h : p.resume with
  | .error e => .error e
  | .ok (.inr s) => .ok s
  | .ok (.inl next) => next.toEnd
termination_by p.portions.length
decreasing_by exact length_portions_of_resume _h

end Builder

/-- The result of a build. -/
def BuildM.result {α : Type} (m : BuildM α) (options : BuildOptions) : Except BuildError α :=
  (m.run.run (Builder.start options)).1

namespace Snapshot

/-- The snapshot of a text. -/
def ofText (options : BuildOptions) (text : String) : Except BuildError Snapshot :=
  BuildM.result (do Builder.feedLines 0 (textLines text); Builder.finish) options

/-- The snapshot of a text that is built `size` lines at a time, and the number of lines taken after
each portion. -/
def ofPortions (options : BuildOptions) (size : Int) (text : String) :
    Except BuildError (List Nat × Snapshot) :=
  if size < 1 then .error .badPortion
  else
    BuildM.result (do
      let progress ← Builder.feedPortions 0 (Builder.portions size.toNat (textLines text))
      return (progress, ← Builder.finish)) options

/-- The snapshot of a text that is built `size` lines at a time, with a pause after each portion. -/
def ofTurns (options : BuildOptions) (size : Int) (text : String) : Except BuildError Snapshot :=
  if size < 1 then .error .badPortion
  else
    Builder.Pause.toEnd
      ⟨Builder.start options, 0, Builder.portions size.toNat (textLines text)⟩

end Snapshot

end Daybook
