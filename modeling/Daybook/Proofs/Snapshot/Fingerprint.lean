import Daybook.Proofs.Builder.Safety
import Daybook.Proofs.Snapshot.Absorb
import Mathlib.Data.List.Infix
import Std.Data.String.ToInt

/-!
# What fingerprints tell apart

A snapshot remembers the texts that went in by their fingerprints, and merging leaves out a snapshot
whose fingerprints are all known.  The fingerprint of a text is its source and then, for each token,
kind, text, line and column, with U+001F between them and U+001E behind the last.  Nothing keeps these
two characters out of the text of a token.  A token can therefore hold what looks like the end of one
mark and the beginning of the next, and then two texts with different tokens have one fingerprint.

That is the only way in which it happens.  Where no token holds such a joint, the first place at which
two sequences of tokens differ shows in their marks: if the text of one token went on in the other
sequence, it would go on with a joint.

* `Builder.fingerprintOf`: the fingerprint of a sequence of tokens.
  `Snapshot.exists_sources_eq_fingerprintOf`: it is the one of a snapshot.
* `Journal.HoldsJoint`: a text that holds the end of one mark and the beginning of another.
* `Journal.eq_of_marks_eq`: the marks of tokens without joints determine the tokens.
* `Snapshot.sources_eq_iff`: texts without joints have one fingerprint only if they have the same
  tokens.
* `Snapshot.merge_loses_joint`: with a joint, merging loses a transaction.
-/

namespace Daybook

open Journal Builder BuildM

/-! ## The fingerprint of a text -/

namespace Builder

/-- The fingerprint of tokens that come from a source. -/
def fingerprintOf (source : Option String) (tokens : List Token) : String :=
  tokens.foldl (fun text tok => text ++ tokenMark tok) (source.getD "")

/-- What is handled leaves the fingerprint alone. -/
theorem handling_fingerprint (fingerprint : String) :
    Handling fun b => b.fingerprint = fingerprint where
  warn _ _ h := h
  reading _ _ h := h
  record _ _ h := h

theorem keeps_fingerprint_directive (fingerprint : String) (name : String) (args : List Token)
    (line : Int) : Keeps (fun b => b.fingerprint = fingerprint) (directive name args line) := by
  intro b a b' h hb
  cases directed_of_outcome h <;> exact hb

/-- Every token leaves its mark, whatever it does otherwise. -/
theorem fingerprint_of_feedTokens {tokens : List Token} {b b' : Builder} {u : Unit}
    (h : outcome (feedTokens tokens) b = .ok (u, b')) :
    b'.fingerprint = tokens.foldl (fun text tok => text ++ tokenMark tok) b.fingerprint := by
  induction tokens generalizing b with
  | nil =>
    cases h
    rfl
  | cons tok rest ih =>
    obtain ⟨_, b₁, htok, hrest⟩ := outcome_bind_eq_ok h
    rw [ih hrest, List.foldl_cons]
    congr 1
    rw [feedToken, outcome_bind, outcome_modify] at htok
    simp only [Except.bind] at htok
    split at htok
    · obtain ⟨_, b₂, hget, htok⟩ := outcome_bind_eq_ok htok
      cases hget
      obtain ⟨_, b₃, hline, htok⟩ := outcome_bind_eq_ok htok
      cases htok
      have hkept := (handling_fingerprint (b.fingerprint ++ tokenMark tok)).keeps_handleLine
        (fun name args _ => keeps_fingerprint_directive _ name args tok.line) hline
      exact hkept rfl
    · cases htok
      rfl

/-- Lines are fed as their tokens. -/
theorem feedLineTokens_eq_feedTokens {first : Int} {lines : List (List Char)} {tokens : List Token}
    (h : linesTokens first lines = .ok tokens) : feedLineTokens first lines = feedTokens tokens := by
  induction lines generalizing first tokens with
  | nil =>
    cases h
    rfl
  | cons cs rest ih =>
    rw [linesTokens] at h
    rw [feedLineTokens]
    cases hline : lineTokens cs first with
    | error e =>
      rw [hline] at h
      cases h
    | ok lineToks =>
      rw [hline] at h
      obtain ⟨others, hothers, heq⟩ := exists_ok_of_map (f := (lineToks ++ ·)) h
      rw [← heq, feedTokens_append, ← ih hothers]

end Builder

/-- Every text has tokens. -/
theorem Journal.exists_textTokens (text : String) : ∃ tokens, textTokens text = .ok tokens :=
  exists_linesTokens
    (fun _ hcs => isSome_readLine? (not_mem_of_mem_textLines hcs)) 0

namespace Snapshot

/-- The snapshot of a text has the fingerprint of its tokens. -/
theorem exists_sources_eq_fingerprintOf {options : BuildOptions} {text : String} {s : Snapshot}
    (h : ofText options text = .ok s) :
    ∃ tokens, textTokens text = .ok tokens ∧
      s.sources = [fingerprintOf options.source tokens] := by
  obtain ⟨tokens, htokens⟩ := exists_textTokens text
  refine ⟨tokens, htokens, ?_⟩
  obtain ⟨b, hlines, -, rfl⟩ := ofText_eq_ok_iff.mp h
  have hb : b.snapshot.sources = [] :=
    reading_sourceless.keeps_feedLineTokens keeps_sourceless_directive _ _ hlines rfl
  have hclosed : b.closed.fingerprint = b.fingerprint :=
    (handling_fingerprint b.fingerprint).closed rfl
  rw [feedLineTokens_eq_feedTokens htokens] at hlines
  rw [addSource, reading_sourceless.closed hb, hclosed, fingerprint_of_feedTokens hlines]
  rfl

/-- The snapshot of a text depends on its tokens alone. -/
theorem ofText_congr {t₁ t₂ : String} (h : textTokens t₁ = textTokens t₂)
    (options : BuildOptions) : ofText options t₁ = ofText options t₂ := by
  obtain ⟨tokens, htokens⟩ := exists_textTokens t₁
  have hlines : feedLineTokens 0 (textLines t₁) = feedLineTokens 0 (textLines t₂) := by
    rw [feedLineTokens_eq_feedTokens htokens,
      feedLineTokens_eq_feedTokens (h.symm.trans htokens)]
  rw [ofText, ofText, feedLines, feedLines, hlines]

end Snapshot

/-! ## Marks -/

namespace Journal

/-- Two lists that come to the same behind a character each: the first parts are equal, or one of
them goes on in the other behind its character. -/
theorem append_cons_cases {a b r r' : List Char} {c d : Char} (h : a ++ c :: r = b ++ d :: r') :
    (a = b ∧ c = d ∧ r = r') ∨ (∃ w, b = a ++ c :: w ∧ r = w ++ d :: r') ∨
      ∃ w, a = b ++ d :: w ∧ r' = w ++ c :: r := by
  rcases List.append_eq_append_iff.mp h with ⟨w, hb, hr⟩ | ⟨w, ha, hr⟩
  · cases w with
    | nil => simp_all
    | cons x w =>
      obtain ⟨rfl, hrest⟩ := List.cons.inj hr
      exact .inr (.inl ⟨w, hb, hrest⟩)
  · cases w with
    | nil => simp_all
    | cons x w =>
      obtain ⟨rfl, hrest⟩ := List.cons.inj hr
      exact .inr (.inr ⟨w, ha, hrest⟩)

/-- If the second character is not in the first part, that part ends or goes on in the other. -/
theorem append_cons_cases_of_notMem {a b r r' : List Char} {c d : Char} (hd : d ∉ a)
    (h : a ++ c :: r = b ++ d :: r') :
    (a = b ∧ c = d ∧ r = r') ∨ ∃ w, b = a ++ c :: w ∧ r = w ++ d :: r' := by
  rcases append_cons_cases h with heq | hlonger | ⟨w, rfl, -⟩
  · exact .inl heq
  · exact .inr hlonger
  · exact absurd (by simp) hd

/-- Neither the unit separator U+001F nor the record separator U+001E. -/
def IsPlain (cs : List Char) : Prop :=
  '\x1f' ∉ cs ∧ '\x1e' ∉ cs

theorem isPlain_name (kind : TokenKind) : IsPlain kind.name.toList := by
  cases kind <;> exact ⟨by decide, by decide⟩

theorem isPlain_toString (n : Int) : IsPlain (toString n).toList := by
  have hdigits (m : Nat) : IsPlain m.repr.toList := by
    rw [Nat.toList_repr]
    constructor <;>
    · intro hmem
      have hdigit := Nat.isDigit_of_mem_toDigits (by decide) (by decide) hmem
      exact absurd hdigit (by decide)
  cases n with
  | ofNat m => exact hdigits m
  | negSucc m =>
    have hminus : (toString (Int.negSucc m)).toList = '-' :: (m + 1).repr.toList :=
      String.toList_append
    obtain ⟨hunit, hrecord⟩ := hdigits (m + 1)
    rw [hminus]
    exact ⟨by simpa using hunit, by simpa using hrecord⟩

theorem name_injective {k k' : TokenKind} (h : k.name.toList = k'.name.toList) : k = k' := by
  have hread : ∀ kind : TokenKind, TokenKind.ofName? kind.name = some kind := by
    intro kind
    cases kind <;> rfl
  have hname : k.name = k'.name := String.toList_inj.mp h
  rw [← Option.some.injEq, ← hread k, ← hread k', hname]

/-- What a mark holds behind the text of a token, with what comes after the mark. -/
def placeMark (line column : Int) (rest : List Char) : List Char :=
  (toString line).toList ++ '\x1f' :: ((toString column).toList ++ '\x1e' :: rest)

theorem placeMark_inj {line column line' column' : Int} {rest rest' : List Char}
    (h : placeMark line column rest = placeMark line' column' rest') :
    line = line' ∧ column = column' ∧ rest = rest' := by
  have hline := (isPlain_toString line).1
  have hline' := (isPlain_toString line').1
  rcases append_cons_cases_of_notMem hline h with ⟨heq, -, h⟩ | ⟨w, hw, -⟩
  · have hcolumn := (isPlain_toString column).2
    have hcolumn' := (isPlain_toString column').2
    rcases append_cons_cases_of_notMem hcolumn h with ⟨heq', -, hrest⟩ | ⟨w, hw, -⟩
    · exact ⟨Int.repr_injective (String.toList_inj.mp heq),
        Int.repr_injective (String.toList_inj.mp heq'), hrest⟩
    · exact absurd (hw ▸ by simp) hcolumn'
  · exact absurd (hw ▸ by simp) hline'

/-- The mark of a token, with what comes after it. -/
theorem mark_append (tok : Token) (rest : List Char) :
    (tokenMark tok).toList ++ rest = tok.kind.name.toList ++
      '\x1f' :: (tok.text.toList ++ '\x1f' :: placeMark tok.line tok.column rest) := by
  simp [tokenMark, placeMark]

/-- The marks of tokens, one after another. -/
def marks (tokens : List Token) : List Char :=
  tokens.flatMap fun tok => (tokenMark tok).toList

theorem marks_cons (tok : Token) (rest : List Token) :
    marks (tok :: rest) = tok.kind.name.toList ++
      '\x1f' :: (tok.text.toList ++ '\x1f' :: placeMark tok.line tok.column (marks rest)) := by
  rw [marks, List.flatMap_cons, mark_append]
  rfl

/-! ## Joints -/

/-- What stands between the texts of two tokens, up to the kind of the second. -/
def joint (line column : Int) (kind : TokenKind) : List Char :=
  '\x1f' :: placeMark line column kind.name.toList

/-- Whether a text holds the end of one mark and the beginning of another. -/
def HoldsJoint (text : String) : Prop :=
  ∃ line column kind, joint line column kind <:+: text.toList

/-- A text that goes on where another one ends, and up to a later separator, goes on with a joint. -/
theorem exists_joint_of_longer {line column line' column' : Int} {rest : List Token}
    {rest' w : List Char}
    (h : placeMark line column (marks rest) = w ++ '\x1f' :: placeMark line' column' rest') :
    ∃ kind v, '\x1f' :: w = joint line column kind ++ v := by
  -- The line of the place is passed, or else its column would end like a line.
  rcases append_cons_cases_of_notMem (isPlain_toString line).1 h with ⟨-, -, h⟩ | ⟨x, rfl, hx⟩
  · exfalso
    rcases append_cons_cases h with ⟨-, hchar, -⟩ | ⟨x, hx, -⟩ | ⟨x, hx, -⟩
    · exact absurd hchar (by decide)
    · exact (isPlain_toString line').2 (hx ▸ by simp)
    · exact (isPlain_toString column).1 (hx ▸ by simp)
  -- So is its column, which does not end like a line,
  rcases append_cons_cases_of_notMem (isPlain_toString column).1 hx with
    ⟨-, hchar, -⟩ | ⟨y, rfl, hy⟩
  · exact absurd hchar (by decide)
  -- and the kind of the next token, for the separator is behind it.
  cases rest with
  | nil => simp [marks] at hy
  | cons next rest =>
    rw [marks_cons] at hy
    refine ⟨next.kind, ?_⟩
    rcases append_cons_cases_of_notMem (isPlain_name next.kind).1 hy with
      ⟨rfl, -, -⟩ | ⟨z, rfl, -⟩
    · exact ⟨[], by simp [joint, placeMark]⟩
    · exact ⟨'\x1f' :: z, by simp [joint, placeMark]⟩

theorem holdsJoint_of_longer {text text' : String} {line column line' column' : Int}
    {rest : List Token} {rest' w : List Char} (htext : text'.toList = text.toList ++ '\x1f' :: w)
    (h : placeMark line column (marks rest) = w ++ '\x1f' :: placeMark line' column' rest') :
    HoldsJoint text' := by
  obtain ⟨kind, v, hw⟩ := exists_joint_of_longer h
  refine ⟨line, column, kind, text.toList, v, ?_⟩
  rw [htext, hw, List.append_assoc]

/-- **Marks determine tokens** whose texts hold no joint. -/
theorem eq_of_marks_eq {tokens tokens' : List Token} (hfree : ∀ tok ∈ tokens, ¬HoldsJoint tok.text)
    (hfree' : ∀ tok ∈ tokens', ¬HoldsJoint tok.text) (h : marks tokens = marks tokens') :
    tokens = tokens' := by
  induction tokens generalizing tokens' with
  | nil =>
    cases tokens' with
    | nil => rfl
    | cons tok' rest' =>
      rw [marks_cons] at h
      simp [marks] at h
  | cons tok rest ih =>
    cases tokens' with
    | nil =>
      rw [marks_cons] at h
      simp [marks] at h
    | cons tok' rest' =>
      rw [List.forall_mem_cons] at hfree hfree'
      rw [marks_cons, marks_cons] at h
      rcases append_cons_cases_of_notMem (isPlain_name tok.kind).1 h with ⟨hkind, -, h⟩ | ⟨w, hw, -⟩
      · rcases append_cons_cases h with ⟨htext, -, h⟩ | ⟨w, hw, h⟩ | ⟨w, hw, h⟩
        · obtain ⟨hline, hcolumn, hrest⟩ := placeMark_inj h
          have htok : tok = tok' := by
            cases tok
            cases tok'
            simp only [Token.mk.injEq]
            exact ⟨name_injective hkind, String.toList_inj.mp htext, hline, hcolumn⟩
          rw [htok, ih hfree.2 hfree'.2 hrest]
        · exact absurd (holdsJoint_of_longer hw h) hfree'.1
        · exact absurd (holdsJoint_of_longer hw h) hfree.1
      · exact absurd (hw ▸ by simp) (isPlain_name tok'.kind).1

/-- A text without a record separator holds no joint. -/
theorem not_holdsJoint {text : String} (h : '\x1e' ∉ text.toList) : ¬HoldsJoint text := by
  rintro ⟨line, column, kind, hjoint⟩
  exact h (hjoint.subset (by simp [joint, placeMark]))

/-- Whether no token of a text holds a joint. -/
def JointFree (text : String) : Prop :=
  ∀ tokens, textTokens text = .ok tokens → ∀ tok ∈ tokens, ¬HoldsJoint tok.text

end Journal

/-! ## Fingerprints of snapshots -/

theorem Builder.toList_fingerprintOf (source : Option String) (tokens : List Token) :
    (fingerprintOf source tokens).toList = (source.getD "").toList ++ marks tokens := by
  rw [fingerprintOf]
  induction tokens generalizing source with
  | nil => simp [marks]
  | cons tok rest ih =>
    have hrest := ih (some (source.getD "" ++ tokenMark tok))
    rw [Option.getD_some] at hrest
    rw [List.foldl_cons, hrest, String.toList_append, List.append_assoc]
    rfl

namespace Snapshot

/-- **What fingerprints tell apart.**  Two texts from one source whose tokens hold no joint have the
same fingerprint if and only if they have the same tokens.  Read in the same way they then have the
same snapshot, so nothing is lost when merging leaves one of them out. -/
theorem sources_eq_iff {options options' : BuildOptions} {t₁ t₂ : String} {a b : Snapshot}
    (ha : ofText options t₁ = .ok a) (hb : ofText options' t₂ = .ok b)
    (hsource : options.source = options'.source) (hfree₁ : JointFree t₁) (hfree₂ : JointFree t₂) :
    (a.sources = b.sources ↔ textTokens t₁ = textTokens t₂) ∧
      (options = options' → a.sources = b.sources → a = b) := by
  obtain ⟨tokens₁, htokens₁, hsources₁⟩ := exists_sources_eq_fingerprintOf ha
  obtain ⟨tokens₂, htokens₂, hsources₂⟩ := exists_sources_eq_fingerprintOf hb
  have hiff : a.sources = b.sources ↔ textTokens t₁ = textTokens t₂ := by
    rw [hsources₁, hsources₂, htokens₁, htokens₂, ← hsource]
    constructor
    · intro h
      have hmarks := congrArg String.toList (List.singleton_inj.mp h)
      rw [toList_fingerprintOf, toList_fingerprintOf] at hmarks
      rw [eq_of_marks_eq (hfree₁ tokens₁ htokens₁) (hfree₂ tokens₂ htokens₂)
        (List.append_cancel_left hmarks)]
    · intro h
      rw [Except.ok.inj h]
  refine ⟨hiff, ?_⟩
  rintro rfl hsources
  rw [ofText_congr (hiff.mp hsources) options, hb] at ha
  exact (Except.ok.inj ha).symm

/-- One line, ended in two ways. -/
theorem sources_eq_iff_of_two_line_ends :
    ∃ t₁ t₂ a b, t₁ = "2024-01-05 x  ; k:v\n" ∧ t₂ = "2024-01-05 x  ; k:v\r\n" ∧
      ofText .plain t₁ = .ok a ∧ ofText .plain t₂ = .ok b ∧
      JointFree t₁ ∧ JointFree t₂ ∧ a.sources = b.sources ∧ a = b := by
  have hread : ((ofText .plain "2024-01-05 x  ; k:v\n").bind fun _ =>
      (ofText .plain "2024-01-05 x  ; k:v\r\n").map fun _ => ()) = .ok () := by
    decide +kernel
  have htokens : textTokens "2024-01-05 x  ; k:v\n" = textTokens "2024-01-05 x  ; k:v\r\n" := by
    decide +kernel
  have hplain : (textTokens "2024-01-05 x  ; k:v\n").map
      (fun tokens => tokens.all fun tok => decide ('\x1e' ∉ tok.text.toList)) = .ok true := by
    decide +kernel
  have hfree : JointFree "2024-01-05 x  ; k:v\n" := by
    intro tokens h tok htok
    rw [h] at hplain
    have hall := List.all_eq_true.mp (Except.ok.inj hplain) tok htok
    exact not_holdsJoint (of_decide_eq_true hall)
  have hfree' : JointFree "2024-01-05 x  ; k:v\r\n" := fun tokens h =>
    hfree tokens (htokens.trans h)
  obtain ⟨a, b, ha, hb, -⟩ := exists_ok_of_bind_map hread
  obtain ⟨hiff, hsame⟩ := sources_eq_iff ha hb rfl hfree hfree'
  have hsources := hiff.mpr htokens
  exact ⟨_, _, a, b, rfl, rfl, ha, hb, hfree, hfree', hsources, hsame rfl hsources⟩

/-- **With a joint, content is lost.**  The payee of the first text holds the end of its own mark and
the beginning of the mark of a note.  The second text has that payee and that note, and blanks in the
places that make up for the difference, so both have one fingerprint.  Merged, the second text is left
out with its payee. -/
theorem merge_loses_joint :
    ∃ t₁ t₂ a b, t₁ = "2024-01-05     P\x1f0\x1f11\x1enote\x1fN\n" ∧
      t₂ = "2024-01-05 P | N            \n" ∧
      ofText .plain t₁ = .ok a ∧ ofText .plain t₂ = .ok b ∧
      textTokens t₁ ≠ textTokens t₂ ∧ a.sources = b.sources ∧
      a.merge b = a ∧ "P" ∈ b.payees ∧ "P" ∉ a.payees := by
  have htokens : textTokens "2024-01-05     P\x1f0\x1f11\x1enote\x1fN\n" ≠
      textTokens "2024-01-05 P | N            \n" := by
    decide +kernel
  have hread : ((ofText .plain "2024-01-05     P\x1f0\x1f11\x1enote\x1fN\n").bind fun a =>
      (ofText .plain "2024-01-05 P | N            \n").map fun b =>
        decide (a.sources = b.sources ∧ a.merge b = a ∧ "P" ∈ b.payees ∧ "P" ∉ a.payees)) =
      .ok true := by
    decide +kernel
  obtain ⟨a, b, ha, hb, hfacts⟩ := exists_ok_of_bind_map hread
  exact ⟨_, _, a, b, rfl, rfl, ha, hb, htokens, of_decide_eq_true hfacts⟩

end Snapshot

end Daybook
