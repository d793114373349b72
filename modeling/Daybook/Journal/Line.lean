import Daybook.Amount.Commodity
import Daybook.Calendar.Written
import Daybook.Pattern

/-!
# Kinds of lines

A line of a journal is tried against `LineRule.table`, an ordered list of rules; the first one that
matches says what kind of line it is and where its fields stand.

* `Field`: the fields that rules record.
* `LineRule`: a kind of line and its pattern; `LineRule.table`.
* `readLine`: the rule that a line falls under, with the match.
-/

namespace Daybook.Journal

open Text Calendar Amount

/-- What a line is. -/
inductive LineKind where
  | blank
  | comment
  | transaction
  | directive
  | posting
  | unknown
deriving DecidableEq, Repr

/-- The name of a kind of line. -/
def LineKind.name : LineKind → String
  | blank => "blank"
  | comment => "comment"
  | transaction => "transaction"
  | directive => "directive"
  | posting => "posting"
  | unknown => "unknown"

/-- The fields of a line. -/
inductive Field where
  | indent
  | date
  | secondDate
  | status
  | code
  | payee
  | note
  | comment
  | directive
  | account
  | secondAccount
  | amount
  | costAmount
  | assertedAmount
  | commodity
  | tagKey
  | operator
  | assertion
  | text
deriving DecidableEq, Repr

/-- The name of a field. -/
def Field.name : Field → String
  | indent => "indent"
  | date => "date"
  | secondDate => "date2"
  | status => "status"
  | code => "code"
  | payee => "payee"
  | note => "note"
  | comment => "comment"
  | directive => "directive"
  | account => "account"
  | secondAccount => "account2"
  | amount => "amount"
  | costAmount => "amount2"
  | assertedAmount => "amount3"
  | commodity => "commodity"
  | tagKey => "tag_key"
  | operator => "operator"
  | assertion => "operator2"
  | text => "text"

/-- All fields. -/
def Field.all : List Field :=
  [indent, date, secondDate, status, code, payee, note, comment, directive, account,
    secondAccount, amount, costAmount, assertedAmount, commodity, tagKey, operator, assertion, text]

/-! ## Building blocks -/

/-- Spaces and tabs. -/
def isGap (c : Char) : Bool :=
  c == ' ' || c == '\t'

/-- Any number of spaces and tabs. -/
def gap {γ : Type} : Pattern γ := .many isGap 0

/-- At least one space or tab. -/
def someGap {γ : Type} : Pattern γ := .many isGap 1

/-- What separates an account from an amount: a tab or at least two spaces. -/
def separator {γ : Type} : Pattern γ := .either (.one (· == '\t')) (.many (· == ' ') 2)

/-- Any character but a line break. -/
def isInline (c : Char) : Bool :=
  c != '\n'

/-- Any character that does not start a comment. -/
def isBody (c : Char) : Bool :=
  c != ';'

/-- Whether a character can start an account. -/
def isAccountChar (c : Char) : Bool :=
  !isBlank c && c != ';'

/-- Whether a character continues an account: an account character, or a single space in front of
one. -/
def continuesAccount (c : Char) (rest : List Char) : Bool :=
  isAccountChar c || (c == ' ' && rest.head?.any isAccountChar)

/-- The shape of an account: words joined by single spaces. -/
def accountPattern {γ : Type} : Pattern γ :=
  .seq (.one isAccountChar) (.run continuesAccount 0 none .longest)

/-- A status marker. -/
def isStatus (c : Char) : Bool :=
  c == '*' || c == '!'

/-- The end of a line, with an optional comment in front. -/
def tail : Pattern Field :=
  .all [gap, .opt (.seq (.one (· == ';')) (.group .comment (.many isInline 0))), .atEnd]

/-- As little text as possible in front of a comment. -/
def body : Pattern Field := .few isBody

/-- A directive of the given name. -/
def directiveWord (word : String) : Pattern Field := .group .directive (.literal word)

/-! ## The rules -/

/-- A kind of line and the shape it has. -/
structure LineRule where
  kind : LineKind
  pattern : Pattern Field
  /-- Whether an amount of such a line may be a symbol alone. -/
  symbolAlone : Bool := false

namespace LineRule

/-- A blank line. -/
def blank : LineRule := ⟨.blank, .all [gap, .atEnd], false⟩

/-- A comment after an optional indent. -/
def comment : LineRule :=
  ⟨.comment, .all [.group .indent gap, .one fun c => c == ';' || c == '#',
    .group .comment (.many isInline 0), .atEnd], false⟩

/-- A comment that starts with a star. -/
def starComment : LineRule :=
  ⟨.comment, .all [.one (· == '*'), .group .comment (.many isInline 0), .atEnd], false⟩

/-- Whether a transaction may go on after its dates: with a gap, a comment or the end. -/
def endsDate (rest : List Char) : Bool :=
  rest.head?.any (fun c => isGap c || c == ';') || rest == [] || rest == ['\n']

/-- The first line of a transaction. -/
def transaction : LineRule :=
  ⟨.transaction, .all [.group .date datePattern,
    .opt (.seq (.one (· == '=')) (.group .secondDate datePattern)),
    .look endsDate,
    .opt (.seq someGap (.group .status (.one isStatus))),
    .opt (.seq someGap (.group .code (.all [.one (· == '('), .many (· != ')') 0,
      .one (· == ')')]))),
    .opt (.seq someGap (.group .payee (.few fun c => c != ';' && c != '|'))),
    .opt (.all [gap, .one (· == '|'), gap, .group .note body]),
    tail], false⟩

/-- The declaration of an account. -/
def account : LineRule :=
  ⟨.directive, .all [directiveWord "account", someGap, .group .account accountPattern,
    .opt (.seq separator body), tail], false⟩

/-- The declaration of a commodity. -/
def commodity : LineRule :=
  ⟨.directive, .all [directiveWord "commodity", someGap, .group .amount body, tail], true⟩

/-- The format of the commodity declared before. -/
def format : LineRule :=
  ⟨.directive, .all [.group .indent someGap, directiveWord "format", someGap,
    .group .amount body, tail], false⟩

/-- The default commodity. -/
def defaultCommodity : LineRule :=
  ⟨.directive, .all [directiveWord "D", someGap, .group .amount body, tail], false⟩

/-- The decimal mark. -/
def decimalMark : LineRule :=
  ⟨.directive, .all [directiveWord "decimal-mark", someGap,
    .group .text (.many (fun c => !isBlank c) 1), tail], false⟩

/-- The inclusion of another journal. -/
def inclusion : LineRule :=
  ⟨.directive, .all [directiveWord "include", someGap, .group .text body, tail], false⟩

/-- A time of day, with or without seconds. -/
def timePattern : Pattern Field :=
  .all [.between isDigit 1 2, .one (· == ':'), .between isDigit 2 2,
    .opt (.seq (.one (· == ':')) (.between isDigit 2 2))]

/-- A market price. -/
def price : LineRule :=
  ⟨.directive, .all [directiveWord "P", someGap, .group .date datePattern,
    .opt (.seq someGap timePattern), someGap, .group .commodity commodityPattern, someGap,
    .group .amount body, tail], false⟩

/-- The declaration of a payee. -/
def payee : LineRule :=
  ⟨.directive, .all [directiveWord "payee", someGap, .group .payee body, tail], false⟩

/-- The declaration of a tag. -/
def tag : LineRule :=
  ⟨.directive, .all [directiveWord "tag", someGap,
    .group .tagKey (.many (fun c => !isBlank c && c != ';') 1), body, tail], false⟩

/-- An account alias. -/
def accountAlias : LineRule :=
  ⟨.directive, .all [directiveWord "alias", someGap,
    .group .account (.few fun c => c != '=' && c != ';'), gap,
    .group .operator (.one (· == '=')), gap, .group .secondAccount body, tail], false⟩

/-- The year of dates without one. -/
def year : LineRule :=
  ⟨.directive, .all [.group .directive (.either (.literal "Y") (.literal "year")), someGap,
    .group .text (.between isDigit 4 4), tail], false⟩

/-- A posting: an account, optionally an amount, its cost and an asserted balance. -/
def posting : LineRule :=
  ⟨.posting, .all [.group .indent someGap,
    .opt (.seq (.group .status (.one isStatus)) someGap),
    .group .account (.seq (.opt (.one fun c => c == '(' || c == '[')) accountPattern),
    .opt (.all [separator, gap,
      .group .amount (.few fun c => c != '@' && c != '=' && c != ';')]),
    .opt (.all [gap, .group .operator (.seq (.one (· == '@')) (.opt (.one (· == '@')))), gap,
      .group .costAmount (.few fun c => c != '=' && c != ';')]),
    .opt (.all [gap,
      .group .assertion (.all [.one (· == '='), .opt (.one (· == '=')), .opt (.one (· == '*'))]),
      gap, .group .assertedAmount body]),
    tail], false⟩

/-- Any other line. -/
def unknown : LineRule :=
  ⟨.unknown, .all [.group .text (.many isInline 1), .atEnd], false⟩

/-- The rules in the order in which they are tried. -/
def table : List LineRule :=
  [blank, comment, starComment, transaction, account, commodity, format, defaultCommodity,
    decimalMark, inclusion, price, payee, tag, accountAlias, year, posting, unknown]

end LineRule

/-- A line under the rule that it falls under. -/
structure ReadLine where
  /-- The place of the rule in the table. -/
  index : Nat
  rule : LineRule
  found : Match Field

/-- The first rule from position `index` on that a line falls under. -/
def readLineFrom (line : List Char) (index : Nat) : List LineRule → Option ReadLine
  | [] => none
  | rule :: rules =>
    match rule.pattern.match? line with
    | some found => some ⟨index, rule, found⟩
    | none => readLineFrom line (index + 1) rules

/-- The rule that a line falls under.  Every line without an inner line break falls under one. -/
def readLine? (line : List Char) : Option ReadLine :=
  readLineFrom line 0 LineRule.table

end Daybook.Journal
