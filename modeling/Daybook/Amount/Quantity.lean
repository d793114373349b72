import Daybook.Number.Decimal
import Daybook.Pattern

/-!
# Quantities

A quantity is the number of an amount, kept as the user wrote it.  Both the comma and the point can
be the decimal mark or separate groups of digits.  Which is which is decided by an explicit decimal
mark; else, if both occur, the last one is the decimal mark; else one that occurs several times
separates groups, and one that occurs once is the decimal mark.

* `quantityPattern`: the shape of a quantity inside an amount.
* `Marks`: the decimal mark and the group separator of a number; `Marks.infer`, `Marks.given`.
* `readQuantity`: the number that a quantity stands for.
-/

namespace Daybook.Amount

open Text Number

/-- Whether a character is a sign. -/
def isSign (c : Char) : Bool :=
  c == '-' || c == '+'

/-- The shape of a quantity: an optional sign, then digits and separators that start with a digit,
or a decimal mark and digits. -/
def quantityPattern {γ : Type} : Pattern γ :=
  .seq (.opt (.one isSign))
    (.either
      (.seq (.one isDigit) (.many (fun c => isDigit c || c == '.' || c == ',' || c == '\'') 0))
      (.seq (.one fun c => c == '.' || c == ',') (.many isDigit 1)))

/-- Whether a character can separate groups of digits or be a decimal mark. -/
def isMark (c : Char) : Bool :=
  c == ',' || c == '.' || c == '\'' || c == ' '

/-- The decimal mark and the group separator of a number. -/
structure Marks where
  decimal : Option Char
  group : Option Char
deriving DecidableEq, Repr

namespace Marks

/-- The marks of a number whose decimal mark is given. -/
def given (mark : Char) (body : List Char) : Marks where
  decimal := if body.contains mark then some mark else none
  group := body.find? fun c => isMark c && c != mark

/-- The last point or comma of a number. -/
def lastOfBoth (body : List Char) : Option Char :=
  body.reverse.find? fun c => c == '.' || c == ','

/-- The marks of a number without an explicit decimal mark. -/
def infer (body : List Char) : Marks :=
  let points := body.count '.'
  let commas := body.count ','
  let apostrophe := if body.contains '\'' then some '\'' else none
  if points ≠ 0 ∧ commas ≠ 0 then
    if lastOfBoth body = some '.' then ⟨some '.', some ','⟩ else ⟨some ',', some '.'⟩
  else if 1 < points then ⟨none, some '.'⟩
  else if 1 < commas then ⟨none, some ','⟩
  else if points = 1 then ⟨some '.', apostrophe⟩
  else if commas = 1 then ⟨some ',', apostrophe⟩
  else ⟨none, apostrophe⟩

end Marks

/-- Why a quantity is not read. -/
inductive QuantityError where
  /-- The decimal mark is neither a point nor a comma. -/
  | unsupportedMark (mark : String)
  /-- There is no text. -/
  | empty
  /-- The text is not a number under its decimal mark. -/
  | invalid (text : String)
  /-- The number is too large to be negated. -/
  | overflow
deriving DecidableEq, Repr

/-- The wording of an error. -/
def QuantityError.message : QuantityError → String
  | unsupportedMark mark => "unsupported decimal mark: " ++ quoted mark
  | empty => "quantity is empty"
  | invalid text => "invalid quantity: " ++ quoted text
  | overflow => "decimal overflow"

/-- The marks that are in force in a number: an explicit decimal mark or the inferred ones. -/
def marksOf (mark : Option Char) (body : List Char) : Marks :=
  match mark with
  | none => Marks.infer body
  | some m => Marks.given m body

/-- The digits of a number without group separators and with a point as decimal mark; `none` if the
marks do not fit. -/
def plainNumber? (mark : Option Char) (body : List Char) : Option (List Char) :=
  let marks := marksOf mark body
  if marks.decimal.any fun m => 1 < body.count m then none
  else
    let ungrouped := body.filter fun c => some c != marks.group
    let pointed := ungrouped.map fun c => if some c = marks.decimal then '.' else c
    if pointed.any (fun c => isMark c && c != '.') || 1 < pointed.count '.' then none
    else some pointed

/-- The number that a quantity with a given decimal mark stands for. -/
def readNumber (mark : Option Char) (text : String) : Except QuantityError Decimal :=
  match trimChars text.toList with
  | [] => .error .empty
  | c :: rest =>
    let body := if isSign c then rest else c :: rest
    match plainNumber? mark body with
    | none => .error (.invalid text)
    | some number =>
      match Decimal.ofString? (String.ofList number) with
      | none => .error (.invalid text)
      | some d =>
        if c = '-' then
          match d.negate? .standard with
          | some e => .ok e
          | none => .error .overflow
        else .ok d

/-- The number that a quantity stands for.  The decimal mark, if given, must be a point or a
comma. -/
def readQuantity (mark : Option String) (text : Option String) : Except QuantityError Decimal :=
  match mark with
  | none => readNumber none (text.getD "")
  | some "." => readNumber (some '.') (text.getD "")
  | some "," => readNumber (some ',') (text.getD "")
  | some other => .error (.unsupportedMark other)

end Daybook.Amount
