import Daybook.Text.Table

/-!
# Decimal digits

A journal may write its numbers with the decimal digits of any script.

* `digitValue?`: the value of a decimal digit.
* `isDigit`: decimal digits.
* `isDigitSign`: decimal digits and the signs that stand for one, such as `²` and `①`.
-/

namespace Daybook.Text

/-- Ranges of the decimal digits beyond ASCII. Each range starts at a zero and its values repeat
from nought to nine. -/
def digitRanges : PackedTable where
  bits := 21
  width := 2
  rows := 61
  words := #[
    0x5b7802d98015de00ae600537802998013de009e6004b780259800f92007c00037c801bc000cd200660,
    0x794803c8001db200ed00072c80394001bde00de6006b7803598019de00ce600637803198017de00be6,
    0xd4c806a400351201a8000cec8067400329e0194600c0c80604002fd2017e00084c8042400209201040,
    0x54ec82a740152120a9000546c82a34014c520a62000e2c8071400389201c4000ddc806ec0036b201b50,
    0x887c8443c0220de110660869c8434c020952104a007f8c83fc40157f20abf00552c82a940153f20a9f0,
    0x8b9c845cc022d92116c008b2c845940229b2114d008a2c845140225f2112f0088ec8447402227e11136,
    0xb5ac85ad402d59216ac00b53485a98023b5211da008eac847540238b211c5008cac846540231d2118e0,
    0x3f7f21fbf00f4ac87a5403c5f21e2f00f0a48785003affe1d7ce]

/-- The value of a decimal digit of any script. -/
def digitValue? (c : Char) : Option Nat :=
  if c.toNat < 128 then
    if '0' ≤ c ∧ c ≤ '9' then some (c.toNat - '0'.toNat) else none
  else
    match digitRanges.rowOf? c.toNat with
    | none => none
    | some row =>
      if c.toNat ≤ digitRanges.cell row 1 then some ((c.toNat - digitRanges.cell row 0) % 10)
      else none

/-- Whether a character is a decimal digit of some script. -/
def isDigit (c : Char) : Bool :=
  (digitValue? c).isSome

/-- Ranges of the signs that stand for a digit without being decimal digits. -/
def digitSignRanges : List (Nat × Nat) :=
  [(178, 179), (185, 185), (4969, 4977), (6618, 6618), (8304, 8304), (8308, 8313), (8320, 8329),
    (9312, 9320), (9332, 9340), (9352, 9360), (9450, 9450), (9461, 9469), (9471, 9471),
    (10102, 10110), (10112, 10120), (10122, 10130), (68160, 68163), (69216, 69224),
    (69714, 69722), (127232, 127242)]

/-- Whether a character is a decimal digit or a sign that stands for a digit. -/
def isDigitSign (c : Char) : Bool :=
  isDigit c || digitSignRanges.any fun r => r.1 ≤ c.toNat && c.toNat ≤ r.2

end Daybook.Text
