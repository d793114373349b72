import Daybook.Proofs.Amount.Overflow
import Daybook.Proofs.Pattern.First

/-!
# The pieces of amounts

An amount is put together from a sign, a symbol, a gap and a number.  Where one piece ends and the next
begins is a matter of characters: none that starts a number can be part of a symbol, a sign is neither,
and a symbol between quotes ends at the second quote.

* `IsNumber`, `IsSymbolText`, `IsSignText`: the pieces of an amount.
* `fits_quantityPattern`, `fits_commodityPattern`: they are what the patterns take.
* `prefers_quantityPattern`, `prefers_commodityPattern`: and where these patterns stop.
* `NoBlankEnds`: texts that trimming leaves as they are.
-/

namespace Daybook.Amount

open Text Pattern

/-! ## Pieces -/

/-- Whether a character can stand inside a number. -/
def isNumberChar (c : Char) : Bool :=
  isDigit c || c == '.' || c == ',' || c == '\''

/-- A number without a sign. -/
inductive IsNumber : List Char → Prop where
  | ofDigit {d : Char} {more : List Char} (hd : isDigit d = true)
    (hmore : ∀ x ∈ more, isNumberChar x = true) : IsNumber (d :: more)
  | ofMark {m : Char} {digits : List Char} (hm : m = '.' ∨ m = ',') (hsome : digits ≠ [])
    (hdigits : ∀ x ∈ digits, isDigit x = true) : IsNumber (m :: digits)

/-- A symbol as it is written, with its quotes if it has any. -/
inductive IsSymbolText : List Char → Prop where
  | quoted {inner : List Char} (h : ∀ x ∈ inner, x ≠ '"' ∧ x ≠ '\n') :
    IsSymbolText ('"' :: (inner ++ ['"']))
  | bare {cs : List Char} (hsome : cs ≠ []) (h : ∀ x ∈ cs, isSymbolChar x = true) :
    IsSymbolText cs

/-- A sign, or none. -/
def IsSignText (cs : List Char) : Prop :=
  cs = [] ∨ ∃ c, isSign c = true ∧ cs = [c]

section Characters

variable {c : Char} {cs : List Char}

theorem isNumberChar_iff : isNumberChar c = true ↔ isDigit c = true ∨ c = '.' ∨ c = ',' ∨ c = '\'' := by
  simp [isNumberChar, or_assoc]

theorem isNumberChar_of_isDigit (h : isDigit c = true) : isNumberChar c = true :=
  isNumberChar_iff.mpr (.inl h)

theorem isSign_iff : isSign c = true ↔ c = '-' ∨ c = '+' := by
  simp [isSign]

theorem isBlank_of_isNumberChar (h : isNumberChar c = true) : isBlank c = false := by
  rcases isNumberChar_iff.mp h with h | rfl | rfl | rfl
  · exact isBlank_of_isDigit h
  all_goals decide

theorem isSymbolChar_of_isNumberChar (h : isNumberChar c = true) : isSymbolChar c = false := by
  rcases isNumberChar_iff.mp h with h | rfl | rfl | rfl
  · simp [isSymbolChar, h]
  all_goals decide

theorem isNumberChar_of_isSign (h : isSign c = true) : isNumberChar c = false := by
  rcases isSign_iff.mp h with rfl | rfl <;> decide

theorem isSymbolChar_of_isSign (h : isSign c = true) : isSymbolChar c = false := by
  rcases isSign_iff.mp h with rfl | rfl <;> decide

theorem isBlank_of_isSign (h : isSign c = true) : isBlank c = false := by
  rcases isSign_iff.mp h with rfl | rfl <;> decide

theorem isBlank_of_isSymbolChar (h : isSymbolChar c = true) : isBlank c = false := by
  by_contra hblank
  simp [isSymbolChar, hblank] at h

theorem ne_of_isSymbolChar {d : Char} (h : isSymbolChar c = true) (hd : isSymbolChar d = false) :
    c ≠ d := by
  rintro rfl
  rw [h] at hd
  cases hd

/-- What a number starts with. -/
theorem IsNumber.exists_cons (h : IsNumber cs) :
    ∃ x xs, cs = x :: xs ∧ ∀ y ∈ x :: xs, isNumberChar y = true := by
  cases h with
  | ofDigit hd hmore =>
    exact ⟨_, _, rfl, List.forall_mem_cons.mpr ⟨isNumberChar_of_isDigit hd, hmore⟩⟩
  | ofMark hm hsome hdigits =>
    refine ⟨_, _, rfl, List.forall_mem_cons.mpr ⟨?_, fun x hx =>
      isNumberChar_of_isDigit (hdigits x hx)⟩⟩
    rcases hm with rfl | rfl <;> decide

theorem IsNumber.isNumberChar (h : IsNumber cs) : ∀ x ∈ cs, isNumberChar x = true := by
  obtain ⟨x, xs, rfl, hall⟩ := h.exists_cons
  exact hall

theorem IsNumber.ne_nil (h : IsNumber cs) : cs ≠ [] := by
  obtain ⟨x, xs, rfl, -⟩ := h.exists_cons
  exact List.cons_ne_nil x xs

/-- A number has no sign of its own. -/
theorem IsNumber.isSign_head (h : IsNumber cs) : ∀ x ∈ cs.head?, isSign x = false := by
  intro x hx
  by_contra hsign
  have hno := isNumberChar_of_isSign (by simpa using hsign : isSign x = true)
  rw [h.isNumberChar x (List.mem_of_mem_head? hx)] at hno
  cases hno

theorem IsSymbolText.ne_nil (h : IsSymbolText cs) : cs ≠ [] := by
  cases h with
  | quoted h => exact List.cons_ne_nil _ _
  | bare hsome h => exact hsome

/-- Whether a character can be the first or the last one of a symbol as it is written. -/
def isSymbolEnd (c : Char) : Bool :=
  c == '"' || isSymbolChar c

theorem IsSymbolText.head (h : IsSymbolText cs) : ∀ x ∈ cs.head?, isSymbolEnd x = true := by
  intro x hx
  cases h with
  | quoted h =>
    cases hx
    rfl
  | bare hsome h =>
    rw [isSymbolEnd, h x (List.mem_of_mem_head? hx), Bool.or_true]

theorem IsSymbolText.last (h : IsSymbolText cs) : ∀ x ∈ cs.getLast?, isSymbolEnd x = true := by
  intro x hx
  cases h with
  | quoted h =>
    rw [List.getLast?_cons, List.getLast?_append, List.getLast?_singleton] at hx
    cases hx
    rfl
  | bare hsome h =>
    rw [isSymbolEnd, h x (List.mem_of_mem_getLast? hx), Bool.or_true]

theorem isBlank_of_isSymbolEnd (h : isSymbolEnd c = true) : isBlank c = false := by
  rw [isSymbolEnd, Bool.or_eq_true, beq_iff_eq] at h
  rcases h with rfl | h
  · decide
  · exact isBlank_of_isSymbolChar h

theorem isNumberChar_of_isSymbolEnd (h : isSymbolEnd c = true) : isNumberChar c = false := by
  rw [isSymbolEnd, Bool.or_eq_true, beq_iff_eq] at h
  rcases h with rfl | h
  · decide
  · by_contra hnumber
    rw [isSymbolChar_of_isNumberChar (by simpa using hnumber)] at h
    cases h

theorem isSign_of_isSymbolEnd (h : isSymbolEnd c = true) : isSign c = false := by
  rw [isSymbolEnd, Bool.or_eq_true, beq_iff_eq] at h
  rcases h with rfl | h
  · decide
  · by_contra hsign
    rw [isSymbolChar_of_isSign (by simpa using hsign)] at h
    cases h

end Characters

/-! ## What the patterns take -/

theorem fits_commodityPattern {γ : Type} {cs : List Char} {fs : List (γ × List Char)} :
    (commodityPattern : Pattern γ).Fits cs fs ↔ IsSymbolText cs ∧ fs = [] := by
  constructor
  · rintro (⟨_, _, _, _, ⟨x, hx, rfl, rfl⟩, ⟨inner, _, _, _, hinner, ⟨y, hy, rfl, rfl⟩, rfl, rfl⟩,
      rfl, rfl⟩ | h)
    · obtain ⟨hclass, -, rfl⟩ := fits_many.mp hinner
      cases (beq_iff_eq.mp hx)
      cases (beq_iff_eq.mp hy)
      exact ⟨.quoted fun z hz => by simpa using hclass z hz, rfl⟩
    · obtain ⟨hclass, hlength, rfl⟩ := fits_many.mp h
      exact ⟨.bare (List.ne_nil_of_length_pos hlength) hclass, rfl⟩
  · rintro ⟨h, rfl⟩
    cases h with
    | quoted h =>
      refine .inl ⟨_, _, _, _, ⟨'"', rfl, rfl, rfl⟩, ⟨_, _, _, _, fits_many.mpr ⟨fun z hz => ?_,
        Nat.zero_le _, rfl⟩, ⟨'"', rfl, rfl, rfl⟩, rfl, rfl⟩, rfl, rfl⟩
      simpa using h z hz
    | bare hsome h =>
      exact .inr (fits_many.mpr ⟨h, List.length_pos_of_ne_nil hsome, rfl⟩)

theorem fits_quantityPattern {γ : Type} {cs : List Char} {fs : List (γ × List Char)}
    (h : (quantityPattern : Pattern γ).Fits cs fs) :
    ∃ sign number, cs = sign ++ number ∧ IsSignText sign ∧ IsNumber number := by
  obtain ⟨sign, _, number, _, hsign, hnumber, rfl, -⟩ := h
  refine ⟨sign, number, rfl, ?_, ?_⟩
  · rcases fits_opt.mp hsign with ⟨x, hx, rfl, -⟩ | ⟨rfl, -⟩
    · exact .inr ⟨x, hx, rfl⟩
    · exact .inl rfl
  · rcases hnumber with ⟨_, _, _, _, ⟨x, hx, rfl, -⟩, hmore, rfl, -⟩ |
      ⟨_, _, _, _, ⟨x, hx, rfl, -⟩, hmore, rfl, -⟩
    · exact .ofDigit hx (fits_many.mp hmore).1
    · obtain ⟨hdigits, hlength, -⟩ := fits_many.mp hmore
      exact .ofMark (by simpa using hx) (List.ne_nil_of_length_pos hlength) hdigits

/-! ## Where the patterns stop -/

section Ways

variable {γ : Type} {sign number symbol gap rest : List Char}

/-- A symbol is taken as a whole. -/
theorem prefers_commodityPattern (h : IsSymbolText symbol)
    (hstop : ∀ x ∈ rest.head?, isSymbolChar x = false) (pos : Nat) (spans : List (Span γ)) :
    (commodityPattern : Pattern γ).Prefers ⟨pos, symbol ++ rest, spans⟩
      ⟨pos + symbol.length, rest, spans⟩ := by
  cases h with
  | @quoted inner h =>
    have hinner : (many (fun c => c != '"' && c != '\n') 0 : Pattern γ).Prefers
        ⟨pos + 1, inner ++ '"' :: rest, spans⟩ ⟨pos + 1 + inner.length, '"' :: rest, spans⟩ := by
      refine prefers_many (fun x hx => ?_) ?_ (Nat.zero_le _) _ _
      · simpa using h x hx
      · rintro _ ⟨⟩
        rfl
    have hway := prefers_seq (prefers_one (x := '"') (· == '"') rfl pos spans)
      (prefers_seq hinner (prefers_one (x := '"') (· == '"') rfl _ spans))
    have hlength : pos + 1 + inner.length + 1 = pos + ('"' :: (inner ++ ['"'])).length := by
      simp only [List.length_cons, List.length_append, List.length_nil]
      omega
    rw [hlength] at hway
    rw [List.cons_append, List.append_assoc]
    exact prefers_either_left hway
  | bare hsome h =>
    refine prefers_either_right ?_ (prefers_many h hstop (List.length_pos_of_ne_nil hsome) _ _)
    obtain ⟨x, xs, rfl⟩ := List.exists_cons_of_ne_nil hsome
    refine leaves_seq_of_eq_nil (if_neg ?_)
    simpa using ne_of_isSymbolChar (h x List.mem_cons_self) (by decide)

/-- A number is taken as a whole, with its sign. -/
theorem prefers_quantityPattern (hsign : IsSignText sign) (hnumber : IsNumber number)
    (hstop : ∀ x ∈ rest.head?, isNumberChar x = false) (pos : Nat) (spans : List (Span γ)) :
    (quantityPattern : Pattern γ).Prefers ⟨pos, sign ++ number ++ rest, spans⟩
      ⟨pos + (sign ++ number).length, rest, spans⟩ := by
  have hbody : ∀ pos, (either (seq (one isDigit) (many isNumberChar 0))
      (seq (one fun c => c == '.' || c == ',') (many isDigit 1)) : Pattern γ).Prefers
        ⟨pos, number ++ rest, spans⟩ ⟨pos + number.length, rest, spans⟩ := by
    intro pos
    cases hnumber with
    | @ofDigit d more hd hmore =>
      have hway := prefers_seq (prefers_one isDigit hd pos spans)
        (prefers_many hmore hstop (Nat.zero_le _) (pos + 1) spans)
      rw [Nat.add_assoc, Nat.add_comm 1] at hway
      exact prefers_either_left hway
    | @ofMark m digits hm hsome hdigits =>
      have hmark : isDigit m = false := by rcases hm with rfl | rfl <;> decide
      have hone : (m == '.' || m == ',') = true := by simpa using hm
      have hend : ∀ x ∈ rest.head?, isDigit x = false := fun x hx => by
        by_contra hdigit
        have hno := hstop x hx
        rw [isNumberChar_of_isDigit (by simpa using hdigit)] at hno
        cases hno
      have hway := prefers_seq (prefers_one (fun c => c == '.' || c == ',') hone pos spans)
        (prefers_many hdigits hend (List.length_pos_of_ne_nil hsome) (pos + 1) spans)
      rw [Nat.add_assoc, Nat.add_comm 1] at hway
      exact prefers_either_right (leaves_seq_of_eq_nil (if_neg (by rw [hmark]; decide))) hway
  rcases hsign with rfl | ⟨c, hc, rfl⟩
  · obtain ⟨x, xs, rfl, -⟩ := hnumber.exists_cons
    have hx : isSign x = false := hnumber.isSign_head x rfl
    refine prefers_opt_none (leaves_seq_of_eq_nil (if_neg ?_)) (hbody pos)
    rw [hx]
    decide
  · have hway := prefers_seq (prefers_one isSign hc pos spans) (hbody (pos + 1))
    rw [Nat.add_assoc, Nat.add_comm 1] at hway
    exact prefers_opt hway

end Ways

/-! ## Ends of texts -/

section Ends

variable {sign symbol gap number rest : List Char}

/-- What is said of a space and of the start of a text holds behind spaces in front of it, too. -/
theorem head_behind_spaces {ok : Char → Bool} (hgap : ∀ x ∈ gap, x = ' ') (hspace : ok ' ' = false)
    (hrest : ∀ x ∈ rest.head?, ok x = false) : ∀ x ∈ (gap ++ rest).head?, ok x = false := by
  intro x hx
  cases gap with
  | nil => exact hrest x hx
  | cons y ys => rwa [hgap x (List.mem_cons.mpr (.inl (Option.some.inj hx).symm))]

theorem ne_space_of_not_blank {x : Char} (h : isBlank x = false) : x ≠ ' ' := by
  rintro rfl
  cases h

/-- What is left of a sign in front: a minus is kept. -/
def keptSign (sign : List Char) : List Char :=
  if sign = ['-'] then ['-'] else []

theorem isSignText_keptSign (sign : List Char) : IsSignText (keptSign sign) := by
  rw [keptSign]
  split
  · exact .inr ⟨'-', rfl, rfl⟩
  · exact .inl rfl

/-- Whether a text neither starts nor ends with a blank. -/
structure NoBlankEnds (cs : List Char) : Prop where
  head : ∀ x ∈ cs.head?, isBlank x = false
  last : ∀ x ∈ cs.getLast?, isBlank x = false

theorem NoBlankEnds.trimChars_eq {cs : List Char} (h : NoBlankEnds cs) : trimChars cs = cs := by
  have hstart : trimStart cs = cs := by
    cases cs with
    | nil => rfl
    | cons x xs => exact List.dropWhile_cons_of_neg (by rw [h.head x rfl]; decide)
  rw [trimChars, hstart, trimEnd, dropEndWhile_eq_rdropWhile, List.rdropWhile_eq_self_iff]
  intro hne
  rw [h.last _ (List.getLast?_eq_some_getLast hne)]
  decide

theorem NoBlankEnds.leadingBlanks_eq {cs : List Char} (h : NoBlankEnds cs) :
    leadingBlanks cs = 0 := by
  cases cs with
  | nil => rfl
  | cons x xs => simp [leadingBlanks, h.head x rfl]

theorem NoBlankEnds.append {first last : List Char} (hfirst : NoBlankEnds first)
    (hlast : NoBlankEnds last) (hfirstNe : first ≠ []) (hlastNe : last ≠ []) (mid : List Char) :
    NoBlankEnds (first ++ (mid ++ last)) where
  head := by
    rw [List.head?_append_of_ne_nil _ hfirstNe]
    exact hfirst.head
  last := by
    rw [← List.append_assoc, List.getLast?_append_of_ne_nil _ hlastNe]
    exact hlast.last

theorem noBlankEnds_trimChars (cs : List Char) : NoBlankEnds (trimChars cs) where
  head x hx := by
    obtain ⟨blanks, hblanks⟩ : trimChars cs <+: trimStart cs := List.rdropWhile_prefix isBlank _
    have hstart := List.head?_dropWhile_not isBlank cs
    rw [show cs.dropWhile isBlank = trimStart cs from rfl, ← hblanks] at hstart
    obtain ⟨xs, hxs⟩ := List.head?_eq_some_iff.mp hx
    rw [hxs] at hstart
    simpa using hstart
  last x hx := by
    have hne : trimChars cs ≠ [] := by
      intro hnil
      rw [hnil] at hx
      cases hx
    have hlast := List.rdropWhile_last_not isBlank (trimStart cs) hne
    rw [Option.mem_def, List.getLast?_eq_some_getLast hne, Option.some.injEq] at hx
    rw [← hx]
    exact Bool.eq_false_iff.mpr hlast

theorem IsNumber.noBlankEnds (h : IsNumber number) : NoBlankEnds number where
  head x hx := isBlank_of_isNumberChar (h.isNumberChar x (List.mem_of_mem_head? hx))
  last x hx := isBlank_of_isNumberChar (h.isNumberChar x (List.mem_of_mem_getLast? hx))

theorem IsSymbolText.noBlankEnds (h : IsSymbolText symbol) : NoBlankEnds symbol where
  head x hx := isBlank_of_isSymbolEnd (h.head x hx)
  last x hx := isBlank_of_isSymbolEnd (h.last x hx)

theorem NoBlankEnds.sign_append (hsign : IsSignText sign) {cs : List Char} (h : NoBlankEnds cs)
    (hne : cs ≠ []) : NoBlankEnds (sign ++ cs) := by
  rcases hsign with rfl | ⟨x, hx, rfl⟩
  · exact h
  · have hblank := isBlank_of_isSign hx
    have hends : NoBlankEnds [x] := ⟨by rintro _ ⟨⟩; exact hblank, by rintro _ ⟨⟩; exact hblank⟩
    exact hends.append h (List.cons_ne_nil x []) hne []

/-- A number behind a sign has no second one. -/
theorem IsNumber.any_isSign_head (h : IsNumber number) : number.head?.any isSign = false := by
  obtain ⟨x, xs, rfl, -⟩ := h.exists_cons
  exact h.isSign_head x rfl

/-- The quantity of an amount keeps a minus in front. -/
theorem quantityText_eq (sign digits : List Char) :
    (if sign = ['-'] then '-' :: digits else digits) = keptSign sign ++ digits := by
  rw [keptSign]
  split <;> rfl

end Ends

end Daybook.Amount
