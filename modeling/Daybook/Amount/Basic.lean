import Daybook.Amount.Commodity
import Daybook.Amount.Quantity

/-!
# Amounts

An amount is a quantity with an optional commodity on one side: `100`, `-$1,000.00`, `$-5`,
`100 EUR`, `10 "green apples"`.

* `Amount`: the textual pieces of an amount with their places.
* `Amount.ofText?`: takes a text apart.
-/

namespace Daybook

open Text Amount

/-- An amount taken apart.  The places count characters of the text it was read from. -/
structure Amount where
  /-- The number as written, with its sign in front even where a symbol stood between them. -/
  quantity : String
  /-- The symbol without quotes. -/
  commodity : Option String
  /-- Whether the symbol stands before the quantity. -/
  symbolBefore : Bool
  /-- Whether there is space between symbol and quantity. -/
  spaced : Bool
  /-- Where the quantity starts. -/
  start : Nat
  /-- Where the quantity ends. -/
  stop : Nat
  /-- Where the symbol, quotes included, starts and ends. -/
  commoditySpan : Option (Nat × Nat)
deriving DecidableEq, Repr

namespace Amount

/-- The parts of an amount that its pattern records. -/
inductive Part where
  | sign
  | before
  | beforeGap
  | quantity
  | afterGap
  | after
deriving DecidableEq, Repr

/-- The shape of an amount: an optional sign, an optional symbol, a quantity, an optional symbol. -/
def amountPattern : Pattern Part :=
  .all [.opt (.group .sign (.one isSign)), .many (· == ' ') 0,
    .opt (.seq (.group .before commodityPattern) (.group .beforeGap (.many (· == ' ') 0))),
    .group .quantity quantityPattern,
    .opt (.seq (.group .afterGap (.many (· == ' ') 0)) (.group .after commodityPattern)),
    .atEnd]

/-- The amount of a match of `amountPattern` in a text with `lead` blanks cut off in front.  A symbol
on both sides or a second sign makes the amount malformed. -/
def ofMatch? (m : Match Part) (lead : Nat) : Option Amount :=
  let before := m.span? .before
  let after := m.span? .after
  let sign := m.text? .sign
  let digits := m.textD .quantity
  if before.isSome && after.isSome then none
  else if sign.isSome && digits.head?.any isSign then none
  else
    let gap := if before.isSome then m.textD .beforeGap else m.textD .afterGap
    let symbol := before <|> after
    let quantitySpan := (m.span? .quantity).getD ⟨.quantity, 0, 0⟩
    let start :=
      match m.span? .sign with
      | some s => if before.isSome then quantitySpan.start else s.start
      | none => quantitySpan.start
    some
      { quantity := String.ofList (if sign = some ['-'] then '-' :: digits else digits)
        commodity := symbol.map fun s =>
          String.ofList (unquoteChars (Match.slice m.text s.start s.stop))
        symbolBefore := before.isSome
        spaced := !gap.isEmpty
        start := start + lead
        stop := quantitySpan.stop + lead
        commoditySpan := symbol.map fun s => (s.start + lead, s.stop + lead) }

/-- Takes the characters of an amount apart; `none` if they are not an amount. -/
def ofChars? (cs : List Char) : Option Amount :=
  match amountPattern.match? (trimChars cs) with
  | none => none
  | some m => ofMatch? m (leadingBlanks cs)

/-- Takes a text apart; `none` if it is not an amount. -/
def ofText? (text : String) : Option Amount :=
  ofChars? text.toList

end Amount

end Daybook
