/-!
# Tokens

A line of a journal is read as a sequence of tokens.  Every line, also a blank one, ends with a
token of kind `newline`.
-/

namespace Daybook.Journal

/-- What a token is. -/
inductive TokenKind where
  | date
  | status
  | code
  | payee
  | note
  | comment
  | directive
  | account
  | amount
  | commodity
  | tagKey
  | tagValue
  | operator
  /-- The blanks in front of an indented line. -/
  | indent
  /-- The argument of a directive, or anything that is not understood. -/
  | text
  /-- The end of a line. -/
  | newline
deriving DecidableEq, Repr

/-- The name of a kind. -/
def TokenKind.name : TokenKind → String
  | date => "date"
  | status => "status"
  | code => "code"
  | payee => "payee"
  | note => "note"
  | comment => "comment"
  | directive => "directive"
  | account => "account"
  | amount => "amount"
  | commodity => "commodity"
  | tagKey => "tag_key"
  | tagValue => "tag_value"
  | operator => "operator"
  | indent => "indent"
  | text => "text"
  | newline => "newline"

/-- All kinds. -/
def TokenKind.all : List TokenKind :=
  [date, status, code, payee, note, comment, directive, account, amount, commodity, tagKey,
    tagValue, operator, indent, text, newline]

/-- The kind with a given name. -/
def TokenKind.ofName? (name : String) : Option TokenKind :=
  TokenKind.all.find? fun kind => kind.name = name

/-- A token with its place.  Lines and columns are counted from nought. -/
structure Token where
  kind : TokenKind
  text : String
  line : Int
  column : Int
deriving DecidableEq, Repr

end Daybook.Journal
