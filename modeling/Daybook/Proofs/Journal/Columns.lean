import Daybook.Proofs.Amount.Rendered
import Daybook.Proofs.Pattern.Order
import Daybook.Proofs.Builder.Lines
import Daybook.Proofs.Journal.Form
import Daybook.Proofs.Journal.TagPlaces

/-!
# The columns of tokens

The column of a token is a sum of up to three positions: where its field starts in the line, where a
part of the field starts, and how many blanks that part starts with.  The tokens of every line stand
where their columns say, and they come in the order of their columns.

A quantity is the exception.  Its sign is moved in front of it from in front of a symbol, and past
blanks, so its text need not stand in the line; its number does, at or behind the column.

* `InPlace`: whether a token stands where its column says.
* `Placed`: whether tokens stand one behind the other in a part of a line.
* `placed_amountTokens`, `placed_taggedTokens`, `placed_fieldTokens`: the tokens of one field do.
* `placed_tokens`: the tokens of a line do, because its fields stand in a row.
* `lineTokens_in_place`: the tokens of a line, to its end.
-/

namespace Daybook.Journal

open Text Amount Pattern

variable {text cs : List Char} {column start stop : Nat}

/-- Whether a token of the line `text` stands where its column says; of a quantity only the number, at
or behind the column. -/
structure InPlace (text : List Char) (tok : Token) : Prop where
  text_at : tok.kind ≠ .amount →
    ∃ pos : Nat, tok.column = pos ∧ StandsAt text pos tok.text.toList
  number_at : tok.kind = .amount →
    ∃ pos : Nat, tok.column ≤ pos ∧ StandsAt text pos (tok.text.toList.dropWhile isSign)

/-- Whether tokens of the line `text` are in place, one behind the other from position `start` to
position `stop`. -/
structure Placed (text : List Char) (start stop : Nat) (tokens : List Token) : Prop where
  le : start ≤ stop
  within : ∀ tok ∈ tokens, start ≤ tok.column ∧ tok.column ≤ stop
  inPlace : ∀ tok ∈ tokens, InPlace text tok
  ascending : tokens.Pairwise fun s t => s.column ≤ t.column

theorem placed_nil (h : start ≤ stop) : Placed text start stop [] :=
  ⟨h, nofun, nofun, .nil⟩

theorem Placed.cons {tok : Token} {tokens : List Token} {n : Nat} (h : Placed text n stop tokens)
    (htok : InPlace text tok) (hstart : start ≤ tok.column) (hnext : tok.column ≤ n) :
    Placed text start stop (tok :: tokens) where
  le := by
    have hle := h.le
    omega
  within := by
    have hle := h.le
    refine List.forall_mem_cons.mpr ⟨by omega, fun t ht => ?_⟩
    have hwithin := h.within t ht
    omega
  inPlace := List.forall_mem_cons.mpr ⟨htok, h.inPlace⟩
  ascending := List.pairwise_cons.mpr
    ⟨fun t ht => Int.le_trans hnext (h.within t ht).1, h.ascending⟩

/-- Tokens of parts that stand one behind the other. -/
theorem Placed.flatMap {α : Type} {parts : List α} {first last : α → Nat}
    {tokens : α → List Token} (hle : start ≤ stop)
    (hparts : ∀ a ∈ parts, start ≤ first a ∧ last a ≤ stop ∧
      Placed text (first a) (last a) (tokens a))
    (hapart : parts.Pairwise fun a b => last a ≤ first b) :
    Placed text start stop (parts.flatMap tokens) where
  le := hle
  within := by
    intro tok htok
    obtain ⟨a, ha, htok⟩ := List.mem_flatMap.mp htok
    obtain ⟨hfirst, hlast, hplaced⟩ := hparts a ha
    have hwithin := hplaced.within tok htok
    omega
  inPlace := by
    intro tok htok
    obtain ⟨a, ha, htok⟩ := List.mem_flatMap.mp htok
    exact (hparts a ha).2.2.inPlace tok htok
  ascending := by
    refine List.pairwise_flatMap.mpr ⟨fun a ha => (hparts a ha).2.2.ascending, ?_⟩
    refine hapart.imp_of_mem fun {a b} ha hb hab s hs t ht => ?_
    have hbefore := ((hparts a ha).2.2.within s hs).2
    have hbehind := ((hparts b hb).2.2.within t ht).1
    omega

/-! ## Tokens of one field -/

section Field

variable (hcs : StandsAt text column cs) (line : Int)
include hcs

/-- A token that is a part of a field. -/
theorem inPlace_part (kind : TokenKind) (hkind : kind ≠ .amount) {i : Nat} {part : List Char}
    (hpart : StandsAt cs i part) : InPlace text ⟨kind, String.ofList part, line, column + i⟩ where
  text_at _ := ⟨column + i, (Int.natCast_add column i).symm, by
    rw [String.toList_ofList]
    exact hcs.trans hpart⟩
  number_at h := absurd h hkind

theorem inPlace_trimmedToken (kind : TokenKind) (hkind : kind ≠ .amount) :
    InPlace text (trimmedToken kind cs line column) :=
  inPlace_part hcs line kind hkind (standsAt_trimChars cs)

theorem placed_trimmedToken (kind : TokenKind) (hkind : kind ≠ .amount) :
    Placed text column (column + cs.length) [trimmedToken kind cs line column] := by
  have hlead := leadingBlanks_le cs
  have hmid : (column : Int) + leadingBlanks cs ≤ (column + cs.length : Nat) := by omega
  exact (placed_nil (Nat.le_refl _)).cons (inPlace_trimmedToken hcs line kind hkind)
    (Int.le_add_of_nonneg_right (Int.natCast_nonneg _)) hmid

/-- The quantity of an amount, by its number. -/
theorem inPlace_quantity {a : Amount} (ha : Amount.ofChars? cs = some a) :
    InPlace text ⟨.amount, a.quantity, line, column + a.start⟩ ∧ a.start ≤ cs.length := by
  obtain ⟨sign, number, hquantity, hsign, hnumber, ⟨pos, hpos, hplace⟩, -⟩ :=
    exists_pieces_of_ofChars? ha
  refine ⟨⟨fun h => absurd rfl h, fun _ => ⟨column + pos, ?_, ?_⟩⟩, ?_⟩
  · dsimp only
    omega
  · rw [hquantity, String.toList_ofList, dropWhile_isSign hsign hnumber]
    exact hcs.trans hplace
  · exact Nat.le_trans hpos (Nat.le_trans (Nat.le_add_right _ _) hplace.add_length_le)

/-- The symbol of an amount. -/
theorem inPlace_symbol {a : Amount} (ha : Amount.ofChars? cs = some a) {first last : Nat}
    (hspan : a.commoditySpan = some (first, last)) :
    InPlace text ⟨.commodity, String.ofList (Match.slice cs first last), line, column + first⟩ ∧
      first ≤ cs.length := by
  obtain ⟨-, -, -, -, -, -, ⟨-, hnone⟩ | ⟨_, _, hsome, -, hsymbol⟩⟩ := exists_pieces_of_ofChars? ha
  · rw [hspan] at hnone
    cases hnone
  · rw [hspan] at hsome
    cases hsome
    -- a symbol is not empty, so it was not cut out behind the end
    have hle : first ≤ cs.length := by
      by_contra hlt
      refine hsymbol.ne_nil ?_
      rw [Match.slice, List.drop_eq_nil_of_le (by omega), List.take_nil]
    exact ⟨inPlace_part hcs line .commodity (by decide) (standsAt_slice hle last), hle⟩

/-- **The tokens of an amount** are in place, whichever of them comes first. -/
theorem placed_amountPieces {a : Amount} (ha : Amount.ofChars? cs = some a) :
    Placed text column (column + cs.length) (amountPieces a cs line column) := by
  obtain ⟨hquantity, hstart⟩ := inPlace_quantity hcs line ha
  have hend : Placed text (column + cs.length) (column + cs.length) [] :=
    placed_nil (Nat.le_refl _)
  rw [amountPieces]
  cases hspan : a.commoditySpan with
  | none => exact hend.cons hquantity (by dsimp only; omega) (by dsimp only; omega)
  | some span =>
    obtain ⟨first, last⟩ := span
    obtain ⟨hsymbol, hfirst⟩ := inPlace_symbol hcs line ha hspan
    dsimp only
    split
    · have hlast : Placed text (column + first) (column + cs.length) [_] :=
        hend.cons hsymbol (by dsimp only; omega) (by dsimp only; omega)
      exact hlast.cons hquantity (by dsimp only; omega) (by dsimp only; omega)
    · have hlast : Placed text (column + a.start) (column + cs.length) [_] :=
        hend.cons hquantity (by dsimp only; omega) (by dsimp only; omega)
      exact hlast.cons hsymbol (by dsimp only; omega) (by dsimp only; omega)

theorem placed_amountTokens (symbolAlone : Bool) :
    Placed text column (column + cs.length) (amountTokens symbolAlone cs line column) := by
  rw [amountTokens]
  split
  · exact placed_nil (Nat.le_add_right _ _)
  · cases ha : Amount.ofChars? cs with
    | some a => exact placed_amountPieces hcs line ha
    | none =>
      dsimp only
      refine placed_trimmedToken hcs line _ ?_
      split <;> decide

/-- The tokens of a tag of a comment. -/
theorem placed_tagTokens {m : TagMatch} (hm : m ∈ findTags cs) :
    Placed text (column + m.keyStart) (column + m.stop) (tagTokens line column m) := by
  obtain ⟨-, htag⟩ := standsAt_of_mem_findTags hm
  have hvalue := htag.trans m.standsAt_value
  rw [← Nat.add_assoc, ← TagMatch.valueStart] at hvalue
  have hlast := placed_trimmedToken (hcs.trans hvalue) line .tagValue (by decide)
  rw [Nat.add_assoc, ← TagMatch.stop] at hlast
  refine hlast.cons (inPlace_part hcs line .tagKey (by decide) (htag.trans m.standsAt_key)) ?_ ?_
  · dsimp only
    omega
  · have hcolon := Nat.le_add_right m.keyStart (m.key.length + 1)
    rw [← Nat.add_assoc, ← TagMatch.valueStart] at hcolon
    dsimp only
    omega

/-- **The tokens of a comment or a note** are in place: its text, and behind the blanks in front its
tags. -/
theorem placed_taggedTokens {kind : TokenKind} (hkind : kind ≠ .amount) :
    Placed text column (column + cs.length) (taggedTokens kind cs line column) := by
  have hlead := leadingBlanks_le cs
  have htags : Placed text (column + leadingBlanks cs) (column + cs.length)
      ((findTags cs).flatMap (tagTokens line column)) := by
    refine Placed.flatMap (Nat.add_le_add_left hlead _) (fun m hm => ⟨?_, ?_,
      placed_tagTokens hcs line hm⟩)
      ((pairwise_findTags cs).imp fun hmn => Nat.add_le_add_left hmn column)
    · exact Nat.add_le_add_left (standsAt_of_mem_findTags hm).1 _
    · rw [m.stop_eq]
      exact Nat.add_le_add_left (standsAt_of_mem_findTags hm).2.add_length_le _
  exact htags.cons (inPlace_trimmedToken hcs line kind hkind)
    (Int.le_add_of_nonneg_right (Int.natCast_nonneg _)) (Int.le_of_eq (Int.natCast_add _ _).symm)

/-- **The tokens of a field** are in place. -/
theorem placed_fieldTokens (symbolAlone : Bool) (field : Field) :
    Placed text column (column + cs.length) (fieldTokens symbolAlone line field cs column) := by
  have hnone : Placed text column (column + cs.length) [] := placed_nil (Nat.le_add_right _ _)
  rw [fieldTokens]
  split
  · split
    · exact hnone
    · have hindent := inPlace_part hcs line .indent (by decide) (standsAt_self cs)
      rw [Int.natCast_zero, Int.add_zero] at hindent
      exact hnone.cons hindent (Int.le_refl _) (by dsimp only; omega)
  · exact placed_taggedTokens hcs line (by decide)
  · split
    · exact hnone
    · exact placed_taggedTokens hcs line (by decide)
  · exact placed_amountTokens hcs line symbolAlone
  · split
    · exact hnone
    · exact placed_trimmedToken hcs line _ (by assumption)

end Field

/-! ## Tokens of a line -/

/-- No field of a line stands inside another. -/
theorem isFlat_of_mem_table {rule : LineRule} (h : rule ∈ LineRule.table) :
    rule.pattern.isFlat = true :=
  List.all_eq_true.mp (show LineRule.table.all (·.pattern.isFlat) = true by decide +kernel) rule h

/-- **The tokens of a line** are in place. -/
theorem placed_tokens {r : ReadLine} (hr : readLine? cs = some r) (line : Int) :
    Placed cs 0 cs.length (r.tokens line) := by
  obtain ⟨hrule, hmatch⟩ := match?_of_readLineFrom hr
  have hrow := inRow_of_match? (isFlat_of_mem_table hrule) hmatch
  have htext : r.found.text = cs := (fits_of_match? hmatch).1
  rw [ReadLine.tokens, htext]
  refine Placed.flatMap hrow.le (fun s hs => ?_) hrow.apart
  obtain ⟨hstart, hle, hstop⟩ := hrow.within s hs
  have hlength : s.start + (Match.slice cs s.start s.stop).length = s.stop := by
    rw [Match.slice, List.length_take, List.length_drop]
    omega
  have hfield := placed_fieldTokens (standsAt_slice (Nat.le_trans hle hstop) s.stop) line
    r.rule.symbolAlone s.label
  rw [hlength] at hfield
  exact ⟨hstart, hstop, hfield⟩

/-- **The tokens of every line are in place**, in the order of their columns, and the last of them is
the end of the line. -/
theorem lineTokens_in_place (h : '\n' ∉ cs) (line : Int) :
    ∃ (tokens : List Token) (last : Token), lineTokens cs line = .ok (tokens ++ [last]) ∧
      last = ⟨.newline, "\n", line, cs.length⟩ ∧
      (tokens ++ [last]).Pairwise (fun s t => s.column ≤ t.column) ∧
      ∀ tok ∈ tokens, tok.kind ≠ .newline ∧ InPlace cs tok := by
  obtain ⟨r, hr⟩ := Option.isSome_iff_exists.mp (isSome_readLine? h)
  have hplaced := placed_tokens hr line
  refine ⟨r.tokens line, _, by rw [lineTokens, hr], rfl, ?_, fun tok htok =>
    ⟨r.kind_ne_newline htok, hplaced.inPlace tok htok⟩⟩
  refine List.pairwise_append.mpr ⟨hplaced.ascending, List.pairwise_singleton _ _,
    fun s hs t ht => ?_⟩
  cases List.mem_singleton.mp ht
  exact (hplaced.within s hs).2

/-- A sign that is moved past a symbol, and a comment that starts with a blank of another kind. -/
theorem lineTokens_in_place_of_moved_sign :
    '\n' ∉ "\ta  -$5 ;\u00a0k:v".toList ∧
      ∃ tokens last, lineTokens "\ta  -$5 ;\u00a0k:v".toList 3 = .ok (tokens ++ [last]) ∧
        tokens = [⟨.indent, "\t", 3, 0⟩, ⟨.account, "a", 3, 1⟩, ⟨.commodity, "$", 3, 5⟩,
          ⟨.amount, "-5", 3, 6⟩, ⟨.comment, "k:v", 3, 10⟩, ⟨.tagKey, "k", 3, 10⟩,
          ⟨.tagValue, "v", 3, 12⟩] ∧
        last = ⟨.newline, "\n", 3, 13⟩ ∧
        (tokens ++ [last]).Pairwise (fun s t => s.column ≤ t.column) ∧
        ∀ tok ∈ tokens, tok.kind ≠ .newline ∧ InPlace "\ta  -$5 ;\u00a0k:v".toList tok := by
  have hbreak : '\n' ∉ "\ta  -$5 ;\u00a0k:v".toList := by decide
  obtain ⟨tokens, last, hread, hlast, hplaced⟩ := lineTokens_in_place hbreak 3
  have hvalue : lineTokens "\ta  -$5 ;\u00a0k:v".toList 3 = .ok ([⟨.indent, "\t", 3, 0⟩,
      ⟨.account, "a", 3, 1⟩, ⟨.commodity, "$", 3, 5⟩, ⟨.amount, "-5", 3, 6⟩,
      ⟨.comment, "k:v", 3, 10⟩, ⟨.tagKey, "k", 3, 10⟩, ⟨.tagValue, "v", 3, 12⟩] ++
        [⟨.newline, "\n", 3, 13⟩]) := by decide +kernel
  obtain ⟨htokens, -⟩ := List.append_inj' (Except.ok.inj (hread.symm.trans hvalue)) rfl
  exact ⟨hbreak, tokens, last, hread, htokens, hlast, hplaced⟩

end Daybook.Journal
