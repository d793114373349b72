import Daybook.Number.Integer

/-!
# Decimal numbers

A `Decimal` keeps the digits that were written: `1.50` and `1.5` have the same value and different
exponents.  Reading is exact.  Negation is an operation of limited precision, which rounds to
`Precision.digits` significant digits and fails beyond the largest exponent.

* `Decimal.ofString?`: reads a decimal with an optional fraction and an optional exponent.
* `Decimal.negate?`: the negative of a decimal in limited precision.
* `Decimal.toString`: the digits with a point, or scientific notation for very small values and for
  positive exponents.
* `fixedPlaces`: a rational number written with a fixed number of decimal places.
-/

namespace Daybook.Number

open Text

/-- The number `coefficient * 10 ^ exponent`, or its negative. -/
structure Decimal where
  negative : Bool
  coefficient : Nat
  exponent : Int
deriving DecidableEq, Repr

namespace Decimal

/-- The decimal digits of the coefficient; nought has one. -/
def digits (d : Decimal) : List Char :=
  Nat.toDigits 10 d.coefficient

/-- The exponent of the first digit. -/
def adjusted (d : Decimal) : Int :=
  d.exponent + digitCount d.coefficient - 1

/-! ## Reading -/

/-- The largest exponent of the first digit that can be read. -/
def readMax : Int := 999999999999999999

/-- The smallest exponent of the last digit that can be read. -/
def readMin : Int := -1999999999999999997

/-- Whether a decimal lies in the range that is read exactly. -/
def inRange (d : Decimal) : Bool :=
  readMin ≤ d.exponent &&
    (if d.coefficient = 0 then d.exponent ≤ readMax else d.adjusted ≤ readMax)

/-- Reads an optional exponent: a letter e, an optional sign and ASCII digits. -/
def readExponent? : List Char → Option Int
  | [] => some 0
  | e :: rest =>
    if e = 'e' ∨ e = 'E' then
      let (negative, ds) := takeSign rest
      if !ds.isEmpty && ds.all Char.isDigit then
        let n : Int := ofDigits (ds.map fun c => c.toNat - '0'.toNat)
        some (if negative then -n else n)
      else none
    else none

/-- Writes the digits of every script as ASCII digits and drops underscores. -/
def plainDigits (cs : List Char) : List Char :=
  (cs.filter (· != '_')).map fun c =>
    match digitValue? c with
    | some v => Char.ofNat ('0'.toNat + v)
    | none => c

/-- Reads a finite decimal.  Blanks may stand around it, and underscores anywhere in it. -/
def ofString? (s : String) : Option Decimal :=
  let (negative, cs) := takeSign (plainDigits (trimChars s.toList))
  let whole := cs.takeWhile Char.isDigit
  let afterWhole := cs.dropWhile Char.isDigit
  let (fraction, rest) :=
    match afterWhole with
    | '.' :: more => (more.takeWhile Char.isDigit, more.dropWhile Char.isDigit)
    | _ => ([], afterWhole)
  let ds := whole ++ fraction
  if ds.isEmpty then none
  else
    match readExponent? rest with
    | none => none
    | some e =>
      let d : Decimal :=
        { negative
          coefficient := ofDigits (ds.map fun c => c.toNat - '0'.toNat)
          exponent := e - fraction.length }
      if d.inRange then some d else none

/-! ## Limited precision -/

end Decimal

/-- The limits of decimal operations. -/
structure Precision where
  /-- The number of significant digits. -/
  digits : Nat
  /-- The largest exponent of a first digit. -/
  largest : Int
  /-- The smallest exponent of a first digit at full precision. -/
  smallest : Int
deriving DecidableEq, Repr

/-- The limits that are in force: 28 digits and exponents up to 999999 on both sides. -/
def Precision.standard : Precision := ⟨28, 999999, -999999⟩

/-- The smallest exponent of a last digit. -/
def Precision.tiny (p : Precision) : Int := p.smallest - (p.digits - 1)

/-- Divides by a positive number and rounds to the nearest quotient, a tie to the even one. -/
def divHalfEven (n m : Nat) : Nat :=
  let q := n / m
  let twice := 2 * (n % m)
  if m < twice ∨ (twice = m ∧ q % 2 = 1) then q + 1 else q

namespace Decimal

/-- Rounds a decimal to limited precision; `none` if it is too large. -/
def round? (p : Precision) (d : Decimal) : Option Decimal :=
  if d.coefficient = 0 then
    some { d with exponent := max p.tiny (min p.largest d.exponent) }
  else
    let target := max p.tiny (d.adjusted - (p.digits - 1))
    let rounded : Decimal :=
      if d.exponent < target then
        let shift := (target - d.exponent).toNat
        -- A shift beyond all digits leaves nothing; the power of ten need not be computed.
        let c :=
          if digitCount d.coefficient < shift then 0
          else divHalfEven d.coefficient (Nat.pow 10 shift)
        -- Rounding up can give one digit too many, which is then a zero.
        if c = Nat.pow 10 p.digits then { d with coefficient := c / 10, exponent := target + 1 }
        else { d with coefficient := c, exponent := target }
      else d
    if rounded.coefficient ≠ 0 ∧ p.largest < rounded.adjusted then none else some rounded

/-- The negative of a decimal in limited precision; nought has no sign.  `none` if it is too
large. -/
def negate? (p : Precision) (d : Decimal) : Option Decimal :=
  round? p { d with negative := if d.coefficient = 0 then false else !d.negative }

/-! ## Writing -/

/-- Puts a point `places` digits before the end of a digit sequence. -/
def withPoint (ds : List Char) (places : Nat) : List Char :=
  if places = 0 then ds
  else
    let padded := List.replicate (places + 1 - ds.length) '0' ++ ds
    let whole := padded.length - places
    padded.take whole ++ '.' :: padded.drop whole

/-- Writes a decimal.  A positive exponent, and a first digit behind the sixth place after the point,
call for scientific notation. -/
def toString (d : Decimal) : String :=
  let ds := d.digits
  let body :=
    if d.exponent ≤ 0 ∧ -6 ≤ d.adjusted then withPoint ds (-d.exponent).toNat
    else
      let e := d.adjusted
      withPoint ds (ds.length - 1) ++ 'E' :: (if e < 0 then '-' else '+') ::
        Nat.toDigits 10 e.natAbs
  String.ofList (if d.negative then '-' :: body else body)

end Decimal

/-- A rational number with `places` decimal places; a half goes to the even neighbour. -/
def fixedPlaces (places : Nat) (r : Rat) : String :=
  let scaled := divHalfEven (r.num.natAbs * Nat.pow 10 places) r.den
  let body := Decimal.withPoint (Nat.toDigits 10 scaled) places
  String.ofList (if r < 0 then '-' :: body else body)

end Daybook.Number
