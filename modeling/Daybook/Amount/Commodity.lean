import Daybook.Pattern
import Daybook.Text.Letter
import Daybook.Text.Trim

/-!
# Commodity symbols

A commodity is named by a symbol such as `$`, `EUR` or `"green apples"`.  A symbol that could be
mistaken for something else stands between double quotes.

* `commodityPattern`: the shape of a symbol inside an amount.
* `unquoteSymbol`, `quoteSymbol`: a symbol without its quotes, and with the quotes it needs.
* `symbolOf?`: the symbol that a text consists of.
-/

namespace Daybook.Amount

open Text

/-- Whether a character can be part of a symbol without quotes: it neither starts nor continues a
number, and it has no meaning in a posting. -/
def isSymbolChar (c : Char) : Bool :=
  !(isBlank c || isDigit c || "-+.,;@=*()[]\"|'".toList.contains c)

/-- The shape of a symbol: anything on one line between quotes, or a run of symbol characters. -/
def commodityPattern {γ : Type} : Pattern γ :=
  .either
    (.all [.one (· == '"'), .many (fun c => c != '"' && c != '\n') 0, .one (· == '"')])
    (.many isSymbolChar 1)

/-- The characters of a symbol without the quotes around it. -/
def unquoteChars (cs : List Char) : List Char :=
  let s := trimChars cs
  if 2 ≤ s.length && s.head? == some '"' && s.getLast? == some '"' then s.tail.dropLast else s

/-- A symbol without the quotes around it. -/
def unquoteSymbol (symbol : String) : String :=
  String.ofList (unquoteChars symbol.toList)

/-- Whether a character is a letter or a numeral that is not a decimal digit. -/
def isPlainChar (c : Char) : Bool :=
  isAlphanumeric c && !isDigit c

/-- The shape of a symbol that needs no quotes: letters, or a single sign. -/
def plainSymbolPattern : Pattern Empty :=
  .either (.all [.many isPlainChar 1, .atEnd])
    (.all [.one fun c => !(isWord c || isBlank c || c == '"'), .atEnd])

/-- A symbol in the form that it takes inside a journal. -/
def quoteSymbol (symbol : String) : String :=
  if symbol.isEmpty || plainSymbolPattern.accepts symbol.toList then symbol
  else "\"" ++ symbol ++ "\""

/-- The symbol that a text consists of, without quotes; `none` if it is anything else. -/
def symbolOf? (text : String) : Option String :=
  let s := trimChars text.toList
  if s.isEmpty then none
  else if (Pattern.all [commodityPattern, .atEnd] : Pattern Empty).accepts s then
    some (String.ofList (unquoteChars s))
  else none

end Daybook.Amount
