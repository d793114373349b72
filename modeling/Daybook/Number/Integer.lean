import Daybook.Text.Digit
import Daybook.Text.Quoted
import Daybook.Text.Trim

/-!
# Integers as text

Settings, log levels and year directives hold integers as text.  An integer has an optional sign and
decimal digits of any script; single underscores may stand between digits and blanks around the
whole.

* `ofDigits`, `digitCount`: the number that digits stand for, and how many digits a number has.
* `padded`: a number written with at least so many digits.
* `readInteger`: the integer that a text stands for.
* `IntegerError.message`: what is said about a text that is none.
-/

namespace Daybook.Number

open Text

/-- Why a text is not read as an integer. -/
inductive IntegerError where
  /-- The text is not of the form of an integer. -/
  | malformed (text : String)
  /-- The integer has more digits than are read. -/
  | tooLong (digits : Nat)
deriving DecidableEq, Repr

/-- The greatest number of digits that is read. -/
def maxIntegerDigits : Nat := 4300

/-- The wording of an error. -/
def IntegerError.message : IntegerError → String
  | malformed text => "invalid literal for int() with base 10: " ++ quoted text
  | tooLong digits =>
    "Exceeds the limit (" ++ toString maxIntegerDigits ++
      " digits) for integer string conversion: value has " ++ toString digits ++
      " digits; use sys.set_int_max_str_digits() to increase the limit"

/-- The number that digit values stand for in base ten, the first being the highest.  The digits are
halved `levels` times, so that long ones are not put together one by one. -/
def ofHalvedDigits : Nat → List Nat → Nat
  | 0, ds => ds.foldl (fun n d => 10 * n + d) 0
  | levels + 1, ds =>
    let back := ds.drop (ds.length / 2)
    ofHalvedDigits levels (ds.take (ds.length / 2)) * 10 ^ back.length +
      ofHalvedDigits levels back

/-- The number that digit values stand for in base ten, the first being the highest. -/
def ofDigits (ds : List Nat) : Nat :=
  ofHalvedDigits (ds.length.log2 - 4) ds

/-- The number of decimal digits of a number below `10 ^ 2 ^ levels`. -/
def digitCountBelow : Nat → Nat → Nat
  | 0, _ => 1
  | levels + 1, n =>
    if n < 10 ^ 2 ^ levels then digitCountBelow levels n
    else 2 ^ levels + digitCountBelow levels (n / 10 ^ 2 ^ levels)

/-- The number of decimal digits of a number; nought has one. -/
def digitCount (n : Nat) : Nat :=
  digitCountBelow (n.log2.log2 + 1) n

/-- Whether a character may stand before or after an integer: blanks without the four information
separators. -/
def isIntegerBlank (c : Char) : Bool :=
  isBlank c && !(28 ≤ c.toNat && c.toNat ≤ 31)

/-- Whether underscores stand only between characters of another kind. -/
def underscoresSeparate : List Char → Bool
  | [] => true
  | ['_'] => false
  | '_' :: '_' :: _ => false
  | _ :: rest => underscoresSeparate rest

/-- Reads a sign in front. -/
def takeSign : List Char → Bool × List Char
  | '+' :: rest => (false, rest)
  | '-' :: rest => (true, rest)
  | cs => (false, cs)

/-- The integer that a text stands for. -/
def readInteger (s : String) : Except IntegerError Int :=
  let (negative, cs) := takeSign (s.toList.dropWhile isIntegerBlank)
  let isPart := fun c => isDigit c || c == '_'
  let body := cs.takeWhile isPart
  let rest := cs.dropWhile isPart
  let digits := body.filterMap digitValue?
  if body.isEmpty || body.head? == some '_' || !underscoresSeparate body then
    .error (.malformed s)
  else if maxIntegerDigits < digits.length then .error (.tooLong digits.length)
  else if rest.all isIntegerBlank then
    let n : Int := ofDigits digits
    .ok (if negative then -n else n)
  else .error (.malformed s)

/-- The decimal digits of a number, filled with zeros to a width. -/
def padded (width n : Nat) : String :=
  let ds := Nat.toDigits 10 n
  String.ofList (List.replicate (width - ds.length) '0' ++ ds)

end Daybook.Number
