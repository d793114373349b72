import Daybook.Amount.Commodity
import Daybook.Amount.Quantity
import Daybook.Calendar.Written
import Daybook.Journal.Line

/-!
# What is being typed

What can be completed depends on where the cursor stands.  Only the text to the left of the cursor
counts, and the first of these rules that applies decides:

1. after the first `;` or `#`, inside a tag value or elsewhere in a comment;
2. on an indented line, before, at or after the amount of a posting;
3. at the start of a line or inside a date;
4. after a date.

Anything else is a place where nothing is offered.

* `LineContext`: the kinds of places; `LineContext.domain?`: what is completed there.
* `contextBefore`: the place at the end of a text.
* `classify`: the place at a column of a line.
* `analyze`: the same, with the text on both sides.
-/

namespace Daybook.Completion

open Text Amount Calendar Journal

/-- Where the cursor stands. -/
inductive LineContext where
  | lineStart
  | afterDate
  | inPosting
  | afterAmount
  | inComment
  | inTagValue
  /-- A place where nothing is offered. -/
  | forbidden
deriving DecidableEq, Repr

/-- The name of a place. -/
def LineContext.name : LineContext → String
  | lineStart => "line_start"
  | afterDate => "after_date"
  | inPosting => "in_posting"
  | afterAmount => "after_amount"
  | inComment => "in_comment"
  | inTagValue => "in_tag_value"
  | forbidden => "forbidden"

/-- What is completed. -/
inductive Domain where
  | date
  | payee
  | account
  | commodity
  | tag
  | tagValue
deriving DecidableEq, Repr

/-- The name of what is completed. -/
def Domain.name : Domain → String
  | date => "date"
  | payee => "payee"
  | account => "account"
  | commodity => "commodity"
  | tag => "tag"
  | tagValue => "tag_value"

/-- What is completed at a place. -/
def LineContext.domain? : LineContext → Option Domain
  | lineStart => some .date
  | afterDate => some .payee
  | inPosting => some .account
  | afterAmount => some .commodity
  | inComment => some .tag
  | inTagValue => some .tagValue
  | forbidden => none

/-! ## Patterns -/

/-- The parts of a line that the patterns record. -/
inductive Typed where
  | account
  | payee
deriving DecidableEq, Repr

/-- A symbol with at most one space after it, or nothing. -/
def leadingSymbol : Pattern Typed :=
  .opt (.seq commodityPattern (.opt (.one (· == ' '))))

/-- An amount that is being typed: at most one space stands between symbol and quantity. -/
def typedAmount : Pattern Typed :=
  .all [.opt (.one isSign), leadingSymbol, quantityPattern,
    .opt (.seq (.opt (.one (· == ' '))) commodityPattern)]

/-- The key and the value of a tag, in the last segment of a comment. -/
def tagValuePattern : Pattern Typed :=
  .all [.many isBlank 0, .many (fun c => isWord c || isBlank c || c == '-') 1, .one (· == ':'),
    .many isBlank 0, .many (fun c => c != ',' && c != ';') 0, .atEnd]

/-- The start of a posting up to the separator behind its account. -/
def postingPattern : Pattern Typed :=
  .all [someGap, .opt (.seq (.one isStatus) someGap), .group .account accountPattern,
    .either (.seq (.one (· == '\t')) gap) (.seq (.many (· == ' ') 2) gap)]

/-- An amount, with its cost and its asserted balance, followed by a wide gap. -/
def finishedAmountPattern : Pattern Typed :=
  .all [typedAmount,
    .opt (.all [gap, .one (· == '@'), .opt (.one (· == '@')), gap, typedAmount]),
    .opt (.all [gap, .one (· == '='), .opt (.one (· == '=')), .opt (.one (· == '*')), gap,
      typedAmount]),
    .either (.one (· == '\t')) (.many isBlank 2)]

/-- Whether a character can be part of a symbol that is being typed after an amount. -/
def isTypedSymbolChar (c : Char) : Bool :=
  !(isBlank c || isDigit c || ";@=.,+-".toList.contains c)

/-- A quantity, one space and the start of a symbol. -/
def symbolAfterAmountPattern : Pattern Typed :=
  .all [.opt (.one isSign), leadingSymbol, quantityPattern, .one (· == ' '),
    .many isTypedSymbolChar 0, .atEnd]

/-- Whether what follows is not a lone status marker. -/
def isNoLoneStatus (rest : List Char) : Bool :=
  match rest with
  | [c] => !isStatus c
  | [c, '\n'] => !isStatus c
  | _ => true

/-- A date with an optional second date, status and code, and then a payee. -/
def afterDatePattern : Pattern Typed :=
  .all [datePattern, .opt (.seq (.one (· == '=')) datePattern),
    .opt (.seq someGap (.one isStatus)),
    .opt (.all [someGap, .one (· == '('), .many (· != ')') 0, .one (· == ')')]),
    someGap, .group .payee (.seq (.look isNoLoneStatus) (.many isInline 0)), .atEnd]

/-- The start of a date. -/
def partialDatePattern : Pattern Typed :=
  .all [.between isDigit 1 4,
    .opt (.all [dateSeparatorPattern, .between isDigit 0 2,
      .opt (.seq dateSeparatorPattern (.between isDigit 0 4))]),
    .atEnd]

/-- A date, and perhaps a status marker. -/
def dateWithStatusPattern : Pattern Typed :=
  .all [datePattern, gap, .opt (.one isStatus), .atEnd]

/-! ## Classification -/

/-- What follows the first `;` or `#`. -/
def commentAfterMarker? (before : List Char) : Option (List Char) :=
  match before.dropWhile fun c => c != ';' && c != '#' with
  | [] => none
  | _ :: comment => some comment

/-- The part of a comment behind its last comma or semicolon. -/
def lastSegment (comment : List Char) : List Char :=
  (comment.reverse.takeWhile fun c => c != ',' && c != ';').reverse

/-- Whether the end of a comment is inside a tag value. -/
def endsInTagValue (comment : List Char) : Bool :=
  let segment := lastSegment comment
  !segment.isEmpty && tagValuePattern.accepts segment

/-- The place at the end of an indented line. -/
def postingContext (before : List Char) : LineContext :=
  match postingPattern.match? before with
  | none => .inPosting
  | some m =>
    match before.drop m.stop with
    | [] => .inPosting
    | rest =>
      if finishedAmountPattern.accepts rest then .forbidden
      else if symbolAfterAmountPattern.accepts rest then .afterAmount
      else .forbidden

/-- The place at the end of a text. -/
def contextBefore (before : List Char) : LineContext :=
  match commentAfterMarker? before with
  | some comment => if endsInTagValue comment then .inTagValue else .inComment
  | none =>
    if before.head?.any isGap then postingContext before
    else if before.all isBlank then .lineStart
    else if afterDatePattern.accepts before then .afterDate
    else if partialDatePattern.accepts before || dateWithStatusPattern.accepts before then
      .lineStart
    else .forbidden

/-- Why a place is refused. -/
inductive ColumnError where
  | negative (column : Int)
deriving DecidableEq, Repr

/-- The wording of an error. -/
def ColumnError.message : ColumnError → String
  | negative column => "column must be >= 0, got " ++ toString column

/-- The place at a column of a line.  Behind the end of the line nothing is offered. -/
def classify (line : List Char) (column : Int) : Except ColumnError LineContext :=
  if column < 0 then .error (.negative column)
  else if line.length < column then .ok .forbidden
  else .ok (contextBefore (line.take column.toNat))

/-- A place with the text on both sides of it. -/
structure Position where
  context : LineContext
  before : List Char
  after : List Char
deriving DecidableEq, Repr

/-- The place at a column of a line, with the text on both sides. -/
def analyze (line : List Char) (column : Int) : Except ColumnError Position :=
  match classify line column with
  | .error e => .error e
  | .ok context => .ok ⟨context, line.take column.toNat, line.drop column.toNat⟩

end Daybook.Completion
