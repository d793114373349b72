import Daybook.Number.Integer

/-!
# Integers as arguments

On the command line an integer may be written in more ways than elsewhere, but with the ten common
digits only: with blanks around it, a plus sign, zeros in front, single underscores between digits,
and a point with nothing but zeros behind it.

* `dropLeadingZeros?`, `dropZeroFraction`, `dropUnderscores`: what may be left out.
* `readCanonical?`: an integer written in its one shortest form.
* `readLenient?`: the integer that an argument stands for.
-/

namespace Daybook.Number

/-- Whether a character is one of the ten common digits. -/
def isCommonDigit (c : Char) : Bool :=
  '0' ≤ c && c ≤ '9'

/-- The characters behind zeros in front, of which `last` was read last.  Underscores may stand
between the zeros, and a minus sign behind them; a point keeps the character before it. -/
def dropZeros? (last : Char) : List Char → Option (List Char)
  | [] => some [last]
  | c :: rest =>
    if c = '0' || c = '_' then dropZeros? c rest
    else if c = '.' then some (last :: c :: rest)
    else if c = '-' || isCommonDigit c then some (c :: rest)
    else none

/-- The characters without zeros in front; `none` if they do not start with a digit. -/
def dropLeadingZeros? : List Char → Option (List Char)
  | [] => none
  | c :: rest =>
    if c = '0' then dropZeros? c rest else if isCommonDigit c then some (c :: rest) else none

/-- The characters without a point that zeros follow, at least one of them, and nothing else. -/
def dropZeroFraction (cs : List Char) : List Char :=
  match cs.dropWhile (· != '.') with
  | _ :: '0' :: zeros => if zeros.all (· == '0') then cs.takeWhile (· != '.') else cs
  | _ => cs

/-- The characters without underscores, if these stand alone and inside. -/
def dropUnderscores (cs : List Char) : List Char :=
  if cs.head? == some '_' || !underscoresSeparate cs then cs else cs.filter (· != '_')

/-- The characters behind a plus sign, if there is one and no minus sign follows it. -/
def dropPlus? : List Char → Option (List Char)
  | '+' :: '-' :: _ => none
  | '+' :: rest => some rest
  | cs => some cs

/-- An integer in its shortest form: perhaps a minus sign, and digits that do not start with a zero
unless it is the only one. -/
def readCanonical? (cs : List Char) : Option Int :=
  let negative := cs.head? == some '-'
  let digits := if negative then cs.drop 1 else cs
  let startsWithZero := digits.head? == some '0' && digits.length != 1
  if digits.isEmpty || !digits.all isCommonDigit || startsWithZero ||
      maxIntegerDigits < digits.length then none
  else
    let n : Int := ofDigits (digits.map fun c => c.toNat - '0'.toNat)
    some (if negative then -n else n)

/-- The integer that an argument stands for.  A minus sign in front is set aside while the rest is
cleaned up. -/
def readLenient? (s : String) : Option Int := do
  let cs ← dropPlus? (Text.dropEndWhile isIntegerBlank (s.toList.dropWhile isIntegerBlank))
  let sign := (cs.take 1).filter (· == '-')
  let digits ← dropLeadingZeros? (cs.drop sign.length)
  readCanonical? (sign ++ dropUnderscores (dropZeroFraction digits))

end Daybook.Number
