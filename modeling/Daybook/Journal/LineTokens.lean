import Daybook.Amount.Basic
import Daybook.Journal.Line
import Daybook.Journal.Tag
import Daybook.Journal.Token
import Daybook.Text.Trim

/-!
# The tokens of lines and texts

Each field of a line becomes a token.  The field of an amount becomes a token for the quantity and
one for the symbol, in the order in which they stand; a comment or a note is followed by its tags.
What is not understood becomes a token of kind `text`, so that no content is ever refused.

* `fieldTokens`: the tokens of one field.
* `lineTokens`: the tokens of one line.
* `textLines`: the lines of a text.
* `textTokens`: the tokens of a text.
-/

namespace Daybook.Journal

open Text Amount

/-- Why lines are not read. -/
inductive LineError where
  /-- No rule covers the line, because it holds a line break. -/
  | noRule
deriving DecidableEq, Repr

/-- The wording of an error. -/
def LineError.message : LineError → String
  | noRule => "unreachable: line rules are exhaustive"

/-- A token of the characters `cs` at `column`, without the blanks around them. -/
def trimmedToken (kind : TokenKind) (cs : List Char) (line : Int) (column : Nat) : Token :=
  ⟨kind, String.ofList (trimChars cs), line, column + leadingBlanks cs⟩

/-- The tokens of an amount that was taken apart. -/
def amountPieces (amount : Amount) (cs : List Char) (line : Int) (column : Nat) : List Token :=
  let quantity : Token := ⟨.amount, amount.quantity, line, column + amount.start⟩
  match amount.commoditySpan with
  | none => [quantity]
  | some (start, stop) =>
    let symbol : Token :=
      ⟨.commodity, String.ofList (Match.slice cs start stop), line, column + start⟩
    if amount.start ≤ start then [quantity, symbol] else [symbol, quantity]

/-- The tokens of the field of an amount. -/
def amountTokens (symbolAlone : Bool) (cs : List Char) (line : Int) (column : Nat) : List Token :=
  if (trimChars cs).isEmpty then []
  else
    match Amount.ofChars? cs with
    | some amount => amountPieces amount cs line column
    | none =>
      let kind :=
        if symbolAlone && (symbolOf? (String.ofList cs)).isSome then TokenKind.commodity
        else .text
      [trimmedToken kind cs line column]

/-- The tokens of a tag inside a comment that starts at `column`. -/
def tagTokens (line : Int) (column : Nat) (m : TagMatch) : List Token :=
  [⟨.tagKey, String.ofList m.key, line, column + m.keyStart⟩,
    trimmedToken .tagValue m.value line (column + m.valueStart)]

/-- The tokens of a comment or a note: its text and then its tags. -/
def taggedTokens (kind : TokenKind) (cs : List Char) (line : Int) (column : Nat) : List Token :=
  trimmedToken kind cs line column :: (findTags cs).flatMap (tagTokens line column)

/-- The kind of token that a field becomes. -/
def Field.tokenKind : Field → TokenKind
  | indent => .indent
  | date => .date
  | secondDate => .date
  | status => .status
  | code => .code
  | payee => .payee
  | note => .note
  | comment => .comment
  | directive => .directive
  | account => .account
  | secondAccount => .account
  | amount => .amount
  | costAmount => .amount
  | assertedAmount => .amount
  | commodity => .commodity
  | tagKey => .tagKey
  | operator => .operator
  | assertion => .operator
  | text => .text

/-- The tokens of one field.  Only a comment has a token when it is empty, and only an indent when it
is blank. -/
def fieldTokens (symbolAlone : Bool) (line : Int) (field : Field) (cs : List Char)
    (column : Nat) : List Token :=
  match field.tokenKind with
  | .indent => if cs.isEmpty then [] else [⟨.indent, String.ofList cs, line, column⟩]
  | .comment => taggedTokens .comment cs line column
  | .note => if (trimChars cs).isEmpty then [] else taggedTokens .note cs line column
  | .amount => amountTokens symbolAlone cs line column
  | kind => if (trimChars cs).isEmpty then [] else [trimmedToken kind cs line column]

/-- The tokens of a line under a rule.  Fields do not overlap and are recorded from left to right. -/
def ReadLine.tokens (r : ReadLine) (line : Int) : List Token :=
  r.found.spans.reverse.flatMap fun s =>
    fieldTokens r.rule.symbolAlone line s.label (Match.slice r.found.text s.start s.stop) s.start

/-- The tokens of one line. -/
def lineTokens (cs : List Char) (line : Int) : Except LineError (List Token) :=
  match readLine? cs with
  | none => .error .noRule
  | some r => .ok (r.tokens line ++ [⟨.newline, "\n", line, cs.length⟩])

/-! ## Texts -/

/-- The lines of a text, without line breaks and without carriage returns in front of them.  A line
break ends a line, so a text that ends with one has no further line. -/
def textLines (text : String) : List (List Char) :=
  let pieces := splitAt '\n' text.toList
  let lines := if pieces.getLast? = some [] then pieces.dropLast else pieces
  lines.map (dropEndWhile (· == '\r'))

/-- The tokens of lines; the first one has number `first`. -/
def linesTokens (first : Int) : List (List Char) → Except LineError (List Token)
  | [] => .ok []
  | cs :: rest => do
    let tokens ← lineTokens cs first
    let others ← linesTokens (first + 1) rest
    return tokens ++ others

/-- The tokens of a text. -/
def textTokens (text : String) : Except LineError (List Token) :=
  linesTokens 0 (textLines text)

end Daybook.Journal
