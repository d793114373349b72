import Daybook.Amount.Basic

/-!
# Display formats

A journal declares how it writes a commodity by a sample such as `1.000,00 EUR`.

* `CommodityFormat.ofSample?`: the format that a sample shows.
* `renderAmount`: a quantity with its commodity in a format.
-/

namespace Daybook.Amount

open Text

/-- How a commodity is written. -/
structure CommodityFormat where
  symbol : String
  decimalMark : String := "."
  groupSeparator : Option Char := none
  decimalPlaces : Int := 0
  symbolBefore : Bool := false
  symbolSpacing : Bool := true
  sample : String := ""
deriving DecidableEq, Repr

/-- The last place at which a text occurs in another. -/
def lastIndexOf? (needle : List Char) : List Char → Option Nat
  | [] => if needle.isEmpty then some 0 else none
  | c :: rest =>
    match lastIndexOf? needle rest with
    | some i => some (i + 1)
    | none => if needle.isPrefixOf (c :: rest) then some 0 else none

/-- The decimal mark and the group separator that a number shows, under an explicit decimal mark if
there is one.  The explicit mark can be any text. -/
def shownMarks (mark : Option String) (body : List Char) : Option String × Option Char :=
  match mark with
  | none =>
    let marks := Marks.infer body
    (marks.decimal.map String.singleton, marks.group)
  | some text =>
    (if (lastIndexOf? text.toList body).isSome then some text else none,
      body.find? fun c => isMark c && [c] != text.toList)

namespace CommodityFormat

/-- The format that a sample amount shows; `none` if the sample is no amount or has no commodity. -/
def ofSample? (mark : Option String) (sample : String) : Option CommodityFormat :=
  match Amount.ofText? sample with
  | none => none
  | some amount =>
    match amount.commodity with
    | none => none
    | some symbol =>
      let body := amount.quantity.toList.dropWhile isSign
      let (decimal, group) := shownMarks mark body
      let places : Int :=
        match decimal with
        | none => 0
        | some text =>
          match lastIndexOf? text.toList body with
          | none => 0
          | some i => body.length - i - 1
      let candidates := [decimal, mark].filterMap fun m => m.filter fun text => !text.isEmpty
      some
        { symbol
          decimalMark := candidates.headD "."
          groupSeparator := group
          decimalPlaces := places
          symbolBefore := amount.symbolBefore
          symbolSpacing := amount.spaced
          sample := trim sample }

end CommodityFormat

/-- Writes a quantity with its commodity.  Without a format, a symbol that is not a letter stands
before the quantity, and any other one space after it. -/
def renderAmount (quantity : String) (commodity : Option String)
    (format : Option CommodityFormat) : String :=
  match commodity with
  | none => quantity
  | some symbol =>
    match symbol.toList with
    | [] => quantity
    | first :: _ =>
      let (before, spaced) :=
        match format with
        | some f => (f.symbolBefore, f.symbolSpacing)
        | none => (!isLetter first, isLetter first)
      let gap := if spaced then " " else ""
      if before then
        let sign := if quantity.toList.head? = some '-' then "-" else ""
        sign ++ quoteSymbol symbol ++ gap ++ String.ofList (quantity.toList.dropWhile isSign)
      else quantity ++ gap ++ quoteSymbol symbol

end Daybook.Amount
