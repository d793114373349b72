import Daybook.Text.Quoted

/-!
# UTF-8

Bytes are decoded one after another.  A first byte says how many bytes go on with its character, and
in which ranges they have to be; the first byte that does not fit, or the end of the bytes inside a
character, is a fault.

* `continuations?`: the ranges of the bytes that go on with a character.
* `DecodeFault`: what is wrong with bytes, and where; `DecodeFault.message`.
* `firstFault?`: the first fault of bytes.
* `exists_chars_of_firstFault?`: bytes without a fault are those of characters.
* `decodeUtf8`: the text that bytes hold.
-/

namespace Daybook.Text

/-- The bytes from one to another. -/
structure ByteRange where
  low : UInt8
  high : UInt8

/-- Whether a byte is in a range. -/
def ByteRange.contains (r : ByteRange) (b : UInt8) : Bool :=
  r.low ≤ b && b ≤ r.high

/-- The bytes that go on with a character in general. -/
def ByteRange.tail : ByteRange := ⟨0x80, 0xBF⟩

/-- The ranges of the bytes that go on with a character, by its first byte; `none` if no character
starts with it.  The second byte is limited further where the character could be written with fewer
bytes, would be a surrogate or would be beyond the last one. -/
def continuations? (b : UInt8) : Option (List ByteRange) :=
  if b < 0x80 then some []
  else if b < 0xC2 then none
  else if b < 0xE0 then some [.tail]
  else if b < 0xF0 then
    some [if b = 0xE0 then ⟨0xA0, 0xBF⟩ else if b = 0xED then ⟨0x80, 0x9F⟩ else .tail, .tail]
  else if b < 0xF5 then
    some [if b = 0xF0 then ⟨0x90, 0xBF⟩ else if b = 0xF4 then ⟨0x80, 0x8F⟩ else .tail, .tail, .tail]
  else none

/-- What is wrong with a byte. -/
inductive FaultKind where
  /-- No character starts with the byte. -/
  | start
  /-- A byte does not go on with the character. -/
  | continuation
  /-- The bytes end inside the character. -/
  | ending
deriving DecidableEq, Repr

/-- The wording of what is wrong. -/
def FaultKind.message : FaultKind → String
  | start => "invalid start byte"
  | continuation => "invalid continuation byte"
  | ending => "unexpected end of data"

/-- Why bytes hold no text: at a position, some bytes are not those of a character. -/
structure DecodeFault where
  position : Nat
  /-- The first of the bytes. -/
  first : UInt8
  /-- How many bytes there are. -/
  count : Nat
  kind : FaultKind
deriving DecidableEq, Repr

/-- The wording of a fault. -/
def DecodeFault.message (f : DecodeFault) : String :=
  let place :=
    if f.count = 1 then
      "byte 0x" ++ String.ofList (hexDigits 2 f.first.toNat) ++ " in position " ++
        toString f.position
    else
      "bytes in position " ++ toString f.position ++ "-" ++ toString (f.position + f.count - 1)
  "'utf-8' codec can't decode " ++ place ++ ": " ++ f.kind.message

/-- How far bytes were decoded: the last character that was started on, and the ranges of the bytes
that are still to come of it. -/
structure Decoding where
  position : Nat
  first : UInt8
  count : Nat
  awaited : List ByteRange

/-- Nothing was decoded. -/
def Decoding.start : Decoding := ⟨0, 0, 0, []⟩

/-- A fault of the last character. -/
def Decoding.fault (s : Decoding) (kind : FaultKind) : DecodeFault :=
  ⟨s.position, s.first, s.count, kind⟩

/-- The state after a byte, or what is wrong with it. -/
def Decoding.step (s : Decoding) (b : UInt8) : Except DecodeFault Decoding :=
  match s.awaited with
  | [] =>
    match continuations? b with
    | none => .error ⟨s.position + s.count, b, 1, .start⟩
    | some awaited => .ok ⟨s.position + s.count, b, 1, awaited⟩
  | r :: later =>
    if r.contains b then .ok { s with count := s.count + 1, awaited := later }
    else .error (s.fault .continuation)

/-- The first fault of bytes that go on from a state. -/
def firstFault? (s : Decoding) : List UInt8 → Option DecodeFault
  | [] => if s.awaited.isEmpty then none else some (s.fault .ending)
  | b :: rest =>
    match s.step b with
    | .error f => some f
    | .ok s => firstFault? s rest

/-! ## Bytes without a fault -/

/-- Whether bytes are in ranges, one after another. -/
def ByteRange.containEach : List ByteRange → List UInt8 → Bool
  | [], [] => true
  | r :: ranges, b :: bytes => r.contains b && containEach ranges bytes
  | _, _ => false

section Characters

variable {b b₁ b₂ b₃ : UInt8} {r₁ r₂ r₃ : ByteRange} {bytes : List UInt8}

theorem ByteRange.contains_iff :
    r₁.contains b ↔ r₁.low.toNat ≤ b.toNat ∧ b.toNat ≤ r₁.high.toNat := by
  rw [contains, Bool.and_eq_true, decide_eq_true_eq, decide_eq_true_eq, UInt8.le_iff_toNat_le,
    UInt8.le_iff_toNat_le]

/-- A range that is limited further from below or from above. -/
theorem ByteRange.contains_limited_iff {low high : UInt8} {P Q : Prop} [Decidable P] [Decidable Q]
    (hapart : P → ¬Q) (hlow : 128 ≤ low.toNat) (hhigh : high.toNat ≤ 191) :
    (if P then ⟨low, 0xBF⟩ else if Q then ⟨0x80, high⟩ else tail : ByteRange).contains b ↔
      (128 ≤ b.toNat ∧ b.toNat ≤ 191) ∧ (P → low.toNat ≤ b.toNat) ∧
        (Q → b.toNat ≤ high.toNat) := by
  rw [contains_iff]
  by_cases hP : P
  · have hQ := hapart hP
    simp only [hP, hQ, if_true, true_implies, false_implies, and_true, UInt8.reduceToNat]
    omega
  by_cases hQ : Q
  · simp only [hP, hQ, if_true, if_false, true_implies, false_implies, true_and,
      UInt8.reduceToNat]
    omega
  · simp only [hP, hQ, if_false, false_implies, and_true, tail, UInt8.reduceToNat]

theorem ByteRange.containEach_one (h : containEach [r₁] bytes) :
    ∃ b₁, bytes = [b₁] ∧ r₁.contains b₁ := by
  rcases bytes with _ | ⟨b₁, _ | ⟨b₂, rest⟩⟩
  · cases h
  · rw [containEach, containEach, Bool.and_true] at h
    exact ⟨b₁, rfl, h⟩
  · rw [containEach, containEach, Bool.and_false] at h
    · cases h
    · nofun
    · nofun

theorem ByteRange.containEach_two (h : containEach [r₁, r₂] bytes) :
    ∃ b₁ b₂, bytes = [b₁, b₂] ∧ r₁.contains b₁ ∧ r₂.contains b₂ := by
  cases bytes with
  | nil => cases h
  | cons b₁ rest =>
    rw [containEach, Bool.and_eq_true] at h
    obtain ⟨b₂, rfl, h₂⟩ := containEach_one h.2
    exact ⟨b₁, b₂, rfl, h.1, h₂⟩

theorem ByteRange.containEach_three (h : containEach [r₁, r₂, r₃] bytes) :
    ∃ b₁ b₂ b₃, bytes = [b₁, b₂, b₃] ∧ r₁.contains b₁ ∧ r₂.contains b₂ ∧ r₃.contains b₃ := by
  cases bytes with
  | nil => cases h
  | cons b₁ rest =>
    rw [containEach, Bool.and_eq_true] at h
    obtain ⟨b₂, b₃, rfl, h₂, h₃⟩ := containEach_two h.2
    exact ⟨b₁, b₂, b₃, rfl, h.1, h₂, h₃⟩

/-- The character of a number. -/
theorem exists_char {n : Nat} (hn : n.isValidChar) : ∃ c : Char, c.val.toNat = n :=
  ⟨.ofNatAux n hn, rfl⟩

theorem exists_char_one (hb : b.toNat < 128) : ∃ c : Char, String.utf8EncodeChar c = [b] := by
  obtain ⟨c, hc⟩ := exists_char (n := b.toNat) (.inl (by omega))
  refine ⟨c, ?_⟩
  rw [String.utf8EncodeChar, hc, if_pos (by omega), UInt8.ofNat_toNat]

theorem exists_char_two (hb : 194 ≤ b.toNat ∧ b.toNat < 224)
    (h₁ : 128 ≤ b₁.toNat ∧ b₁.toNat ≤ 191) :
    ∃ c : Char, String.utf8EncodeChar c = [b, b₁] := by
  obtain ⟨c, hc⟩ := exists_char (n := (b.toNat - 192) * 64 + (b₁.toNat - 128)) (.inl (by omega))
  refine ⟨c, ?_⟩
  simp only [String.utf8EncodeChar, hc]
  rw [if_neg (by omega), if_pos (by omega)]
  simp only [List.cons.injEq, ← UInt8.toNat_inj, UInt8.toNat_ofNat', and_true]
  omega

theorem exists_char_three (hb : 224 ≤ b.toNat ∧ b.toNat < 240)
    (h₁ : 128 ≤ b₁.toNat ∧ b₁.toNat ≤ 191) (hshort : b.toNat = 224 → 160 ≤ b₁.toNat)
    (hsurrogate : b.toNat = 237 → b₁.toNat ≤ 159) (h₂ : 128 ≤ b₂.toNat ∧ b₂.toNat ≤ 191) :
    ∃ c : Char, String.utf8EncodeChar c = [b, b₁, b₂] := by
  have hvalid : ((b.toNat - 224) * 4096 + (b₁.toNat - 128) * 64 + (b₂.toNat - 128)).isValidChar := by
    unfold Nat.isValidChar
    omega
  obtain ⟨c, hc⟩ := exists_char hvalid
  refine ⟨c, ?_⟩
  simp only [String.utf8EncodeChar, hc]
  rw [if_neg (by omega), if_neg (by omega), if_pos (by omega)]
  simp only [List.cons.injEq, ← UInt8.toNat_inj, UInt8.toNat_ofNat', and_true]
  omega

theorem exists_char_four (hb : 240 ≤ b.toNat ∧ b.toNat < 245)
    (h₁ : 128 ≤ b₁.toNat ∧ b₁.toNat ≤ 191) (hshort : b.toNat = 240 → 144 ≤ b₁.toNat)
    (hlast : b.toNat = 244 → b₁.toNat ≤ 143) (h₂ : 128 ≤ b₂.toNat ∧ b₂.toNat ≤ 191)
    (h₃ : 128 ≤ b₃.toNat ∧ b₃.toNat ≤ 191) :
    ∃ c : Char, String.utf8EncodeChar c = [b, b₁, b₂, b₃] := by
  have hvalid : ((b.toNat - 240) * 262144 + (b₁.toNat - 128) * 4096 + (b₂.toNat - 128) * 64 +
      (b₃.toNat - 128)).isValidChar := by
    unfold Nat.isValidChar
    omega
  obtain ⟨c, hc⟩ := exists_char hvalid
  refine ⟨c, ?_⟩
  simp only [String.utf8EncodeChar, hc]
  rw [if_neg (by omega), if_neg (by omega), if_neg (by omega)]
  simp only [List.cons.injEq, ← UInt8.toNat_inj, UInt8.toNat_ofNat', and_true]
  omega

/-- A first byte and bytes that go on with its character are those of a character. -/
theorem exists_char_of_continuations? {ranges : List ByteRange}
    (h : continuations? b = some ranges) (hbytes : ByteRange.containEach ranges bytes) :
    ∃ c : Char, String.utf8EncodeChar c = b :: bytes := by
  simp only [continuations?, UInt8.lt_iff_toNat_lt, ← UInt8.toNat_inj] at h
  simp only [UInt8.reduceToNat] at h
  split at h
  · cases h
    cases bytes with
    | nil => exact exists_char_one (by omega)
    | cons b₁ rest => cases hbytes
  split at h
  · cases h
  split at h
  · cases h
    obtain ⟨b₁, rfl, h₁⟩ := ByteRange.containEach_one hbytes
    exact exists_char_two (by omega) (ByteRange.contains_iff.mp h₁)
  split at h
  · cases h
    obtain ⟨b₁, b₂, rfl, h₁, h₂⟩ := ByteRange.containEach_two hbytes
    obtain ⟨hrange, hshort, hsurrogate⟩ :=
      (ByteRange.contains_limited_iff (by omega) (by decide) (by decide)).mp h₁
    exact exists_char_three (by omega) hrange hshort hsurrogate (ByteRange.contains_iff.mp h₂)
  split at h
  · cases h
    obtain ⟨b₁, b₂, b₃, rfl, h₁, h₂, h₃⟩ := ByteRange.containEach_three hbytes
    obtain ⟨hrange, hshort, hlast⟩ :=
      (ByteRange.contains_limited_iff (by omega) (by decide) (by decide)).mp h₁
    exact exists_char_four (by omega) hrange hshort hlast (ByteRange.contains_iff.mp h₂)
      (ByteRange.contains_iff.mp h₃)
  · cases h

end Characters

/-- Bytes without a fault first go on with the character that was started on. -/
theorem exists_append_of_firstFault? {position count : Nat} {first : UInt8}
    {awaited : List ByteRange} {bytes : List UInt8}
    (h : firstFault? ⟨position, first, count, awaited⟩ bytes = none) :
    ∃ front rest, bytes = front ++ rest ∧ ByteRange.containEach awaited front ∧
      ∃ count', firstFault? ⟨position, first, count', []⟩ rest = none := by
  induction awaited generalizing count bytes with
  | nil => exact ⟨[], bytes, rfl, rfl, count, h⟩
  | cons r later ih =>
    cases bytes with
    | nil => cases h
    | cons b rest =>
      rw [firstFault?, Decoding.step] at h
      dsimp only at h
      split at h
      · cases h
      · rename_i s hstep
        split at hstep
        · rename_i hb
          cases hstep
          obtain ⟨front, behind, rfl, hfront, hbehind⟩ := ih h
          refine ⟨b :: front, behind, rfl, ?_, hbehind⟩
          rw [ByteRange.containEach, hb, hfront]
          rfl
        · cases hstep

/-- **Bytes without a fault are those of characters.** -/
theorem exists_chars_of_firstFault? {position count : Nat} {first : UInt8} {bytes : List UInt8}
    (h : firstFault? ⟨position, first, count, []⟩ bytes = none) :
    ∃ cs : List Char, bytes = cs.flatMap String.utf8EncodeChar := by
  induction hlength : bytes.length using Nat.strongRecOn
    generalizing position first count bytes with
  | ind n ih =>
    cases bytes with
    | nil => exact ⟨[], rfl⟩
    | cons b rest =>
      rw [firstFault?, Decoding.step] at h
      dsimp only at h
      cases hb : continuations? b with
      | none =>
        rw [hb] at h
        cases h
      | some awaited =>
        rw [hb] at h
        obtain ⟨front, behind, rfl, hfront, count', hbehind⟩ := exists_append_of_firstFault? h
        obtain ⟨c, hc⟩ := exists_char_of_continuations? hb hfront
        rw [List.length_cons, List.length_append] at hlength
        obtain ⟨cs, hcs⟩ := ih behind.length (by omega) hbehind rfl
        exact ⟨c :: cs, by rw [List.flatMap_cons, hc, ← hcs, List.cons_append]⟩

theorem isValidUTF8_of_firstFault? {bytes : List UInt8} (h : firstFault? .start bytes = none) :
    bytes.toByteArray.IsValidUTF8 := by
  obtain ⟨cs, rfl⟩ := exists_chars_of_firstFault? h
  exact ⟨cs, rfl⟩

/-! ## Decoding -/

/-- The text that bytes hold. -/
def decodeUtf8 (bytes : List UInt8) : Except DecodeFault String :=
  match h : firstFault? .start bytes with
  | some f => .error f
  | none => .ok (String.fromUTF8 bytes.toByteArray (isValidUTF8_of_firstFault? h))

end Daybook.Text
