import Daybook.Text.Utf8

/-!
# The texts that are decoded

Bytes are decoded where they are the encoding of a text, and then to that text.

* `exists_continuations?`: the bytes of a character are a first one and those that go on with it.
* `firstFault?_flatMap`: the encoding of a text has no fault.
* `decodeUtf8_eq_ok_iff`: exactly the encodings of texts are decoded.
-/

namespace Daybook.Text

section Characters

variable {v : Nat}

theorem contains_tail_ofNat (n : Nat) : ByteRange.tail.contains (.ofNat (n % 64 + 128)) := by
  rw [ByteRange.contains_iff, UInt8.toNat_ofNat']
  simp only [ByteRange.tail, UInt8.reduceToNat]
  omega

theorem continuations?_one (hv : v ≤ 127) : continuations? (.ofNat v) = some [] := by
  simp only [continuations?, UInt8.lt_iff_toNat_lt, UInt8.toNat_ofNat', UInt8.reduceToNat]
  rw [if_pos (by omega)]

theorem continuations?_two (hv : 127 < v ∧ v ≤ 2047) :
    continuations? (.ofNat (v / 64 % 32 + 192)) = some [.tail] := by
  simp only [continuations?, UInt8.lt_iff_toNat_lt, UInt8.toNat_ofNat', UInt8.reduceToNat]
  rw [if_neg (by omega), if_neg (by omega), if_pos (by omega)]

theorem exists_continuations?_three (hv : 2047 < v ∧ v ≤ 65535) (hvalid : v < 55296 ∨ 57343 < v) :
    ∃ r, continuations? (.ofNat (v / 4096 % 16 + 224)) = some [r, .tail] ∧
      r.contains (.ofNat (v / 64 % 64 + 128)) := by
  simp only [continuations?, UInt8.lt_iff_toNat_lt, ← UInt8.toNat_inj, UInt8.toNat_ofNat',
    UInt8.reduceToNat]
  rw [if_neg (by omega), if_neg (by omega), if_neg (by omega), if_pos (by omega)]
  refine ⟨_, rfl, ?_⟩
  rw [ByteRange.contains_limited_iff (by omega) (by decide) (by decide), UInt8.toNat_ofNat']
  simp only [UInt8.reduceToNat]
  omega

theorem exists_continuations?_four (hv : 65535 < v ∧ v < 1114112) :
    ∃ r, continuations? (.ofNat (v / 262144 % 8 + 240)) = some [r, .tail, .tail] ∧
      r.contains (.ofNat (v / 4096 % 64 + 128)) := by
  simp only [continuations?, UInt8.lt_iff_toNat_lt, ← UInt8.toNat_inj, UInt8.toNat_ofNat',
    UInt8.reduceToNat]
  rw [if_neg (by omega), if_neg (by omega), if_neg (by omega), if_neg (by omega),
    if_pos (by omega)]
  refine ⟨_, rfl, ?_⟩
  rw [ByteRange.contains_limited_iff (by omega) (by decide) (by decide), UInt8.toNat_ofNat']
  simp only [UInt8.reduceToNat]
  omega

/-- **The bytes of a character** are one with which characters start and those that have to go on
with it. -/
theorem exists_continuations? (c : Char) :
    ∃ b ranges bytes, String.utf8EncodeChar c = b :: bytes ∧ continuations? b = some ranges ∧
      ByteRange.containEach ranges bytes := by
  have hvalid : c.val.toNat < 55296 ∨ 57343 < c.val.toNat ∧ c.val.toNat < 1114112 := c.valid
  simp only [String.utf8EncodeChar]
  generalize c.val.toNat = v at hvalid
  split
  · exact ⟨_, _, _, rfl, continuations?_one (by omega), rfl⟩
  split
  · refine ⟨_, _, _, rfl, continuations?_two (by omega), ?_⟩
    simp only [ByteRange.containEach, contains_tail_ofNat, Bool.and_self]
  split
  · obtain ⟨r, hranges, hsecond⟩ := exists_continuations?_three (v := v) (by omega) (by omega)
    refine ⟨_, _, _, rfl, hranges, ?_⟩
    simp only [ByteRange.containEach, hsecond, contains_tail_ofNat, Bool.and_self]
  · obtain ⟨r, hranges, hsecond⟩ := exists_continuations?_four (v := v) (by omega)
    refine ⟨_, _, _, rfl, hranges, ?_⟩
    simp only [ByteRange.containEach, hsecond, contains_tail_ofNat, Bool.and_self]

end Characters

/-! ## Faults of an encoding -/

/-- The bytes that are awaited are no fault. -/
theorem firstFault?_append_of_containEach {position count : Nat} {first : UInt8}
    {awaited : List ByteRange} {bytes : List UInt8} (h : ByteRange.containEach awaited bytes)
    (rest : List UInt8) :
    firstFault? ⟨position, first, count, awaited⟩ (bytes ++ rest) =
      firstFault? ⟨position, first, count + bytes.length, []⟩ rest := by
  induction awaited generalizing count bytes with
  | nil =>
    cases bytes with
    | nil => rfl
    | cons b later => cases h
  | cons r awaited ih =>
    cases bytes with
    | nil => cases h
    | cons b later =>
      rw [ByteRange.containEach, Bool.and_eq_true] at h
      rw [List.cons_append, firstFault?, Decoding.step]
      dsimp only
      rw [if_pos h.1, List.length_cons, Nat.add_comm later.length, ← Nat.add_assoc]
      exact ih h.2

/-- **The encoding of a text has no fault.** -/
theorem firstFault?_flatMap (cs : List Char) (position count : Nat) (first : UInt8) :
    firstFault? ⟨position, first, count, []⟩ (cs.flatMap String.utf8EncodeChar) = none := by
  induction cs generalizing position count first with
  | nil => rfl
  | cons c cs ih =>
    obtain ⟨b, ranges, bytes, hbytes, hranges, heach⟩ := exists_continuations? c
    rw [List.flatMap_cons, hbytes, List.cons_append, firstFault?, Decoding.step]
    dsimp only
    rw [hranges]
    dsimp only
    rw [firstFault?_append_of_containEach heach]
    exact ih ..

/-! ## Decoded texts -/

theorem toByteArray_inj {bytes bytes' : List UInt8} :
    bytes.toByteArray = bytes'.toByteArray ↔ bytes = bytes' := by
  refine ⟨fun h => ?_, fun h => by rw [h]⟩
  have hdata := congrArg ByteArray.data h
  rw [List.data_toByteArray, List.data_toByteArray] at hdata
  exact List.toArray_inj hdata

/-- A text is the one that bytes hold if they are its encoding. -/
theorem fromUTF8_eq_iff {bytes : List UInt8} (h : bytes.toByteArray.IsValidUTF8) {s : String} :
    String.fromUTF8 bytes.toByteArray h = s ↔ bytes = s.toList.flatMap String.utf8EncodeChar := by
  rw [← String.toByteArray_inj, ← String.utf8Encode_toList (b := s), List.utf8Encode]
  exact toByteArray_inj

/-- **Exactly the encodings of texts are decoded**, each to its text. -/
theorem decodeUtf8_eq_ok_iff {bytes : List UInt8} {s : String} :
    decodeUtf8 bytes = .ok s ↔ bytes = s.toList.flatMap String.utf8EncodeChar := by
  rw [decodeUtf8]
  split
  · rename_i f hf
    refine ⟨nofun, fun hbytes => ?_⟩
    rw [hbytes, Decoding.start, firstFault?_flatMap] at hf
    cases hf
  · rename_i hnone
    rw [Except.ok.injEq]
    exact fromUTF8_eq_iff (isValidUTF8_of_firstFault? hnone)

/-- No text has a character in too many bytes, a surrogate, or a character that is cut short. -/
example :
    [[0x61, 0xC0, 0x80], [0xED, 0xA0, 0x80], [0x61, 0xF0, 0x9F, 0x98]].map (firstFault? .start) =
      [some ⟨1, 0xC0, 1, .start⟩, some ⟨0, 0xED, 1, .continuation⟩, some ⟨1, 0xF0, 3, .ending⟩] := by
  decide

end Daybook.Text
