import Daybook.Builder.Transaction

/-!
# Building from directives

Directives declare names, set the decimal mark and the year, and name journals to include.  A
directive that is not understood states nothing.

* `formatSample?`: the sample amount of a commodity directive.
* `commodityDirective`, `directive`: what a directive does.
-/

namespace Daybook.Builder

open Text Journal Amount

/-- The first token of a kind. -/
def firstOf? (kind : TokenKind) (tokens : List Token) : Option Token :=
  tokens.find? (·.kind = kind)

/-- The sample amount that a quantity and a symbol form, with one space between them if they stand
apart. -/
def formatSample? (tokens : List Token) : Option String :=
  match firstOf? .amount tokens, firstOf? .commodity tokens with
  | some amount, some symbol =>
    let join := fun (first second : Token) =>
      let gap := if first.column + first.text.length < second.column then " " else ""
      first.text ++ gap ++ second.text
    some (if symbol.column < amount.column then join symbol amount else join amount symbol)
  | _, _ => none

/-- Sets the format of the commodity that was declared last, or else of the one in the sample. -/
def formatDirective (format : Option CommodityFormat) (b : Builder) : Builder :=
  match format with
  | none => b
  | some f =>
    let symbol :=
      match b.lastCommodity with
      | some c => if c.isEmpty then f.symbol else c
      | none => f.symbol
    if symbol.isEmpty then b
    else b.record (·.addCommodity symbol ⟨some { f with symbol }, true⟩)

/-- Declares a commodity, and perhaps its format. -/
def commodityDirective (name : String) (args : List Token) (b : Builder) : Builder :=
  let format := (formatSample? args).bind (CommodityFormat.ofSample? b.snapshot.decimalMark)
  if name = "format" then formatDirective format b
  else
    match firstOf? .commodity args with
    | none => b
    | some tok =>
      let symbol := unquoteSymbol tok.text
      let b := b.record (·.addCommodity symbol ⟨format, true⟩)
      if name = "commodity" then { b with lastCommodity := some symbol }
      else
        b.record fun s => { s with defaultCommodity := s.defaultCommodity <|> some symbol }

/-- Declares an alias and both its accounts.  An alias that starts with a slash is a pattern and is
left out. -/
def aliasDirective (args : List Token) (b : Builder) : Builder :=
  match (args.filter (·.kind = .account)).map (trim ·.text) with
  | [source, target] =>
    if source.toList.head? = some '/' then b
    else
      match cleanAccount? source, cleanAccount? target with
      | some a, some c =>
        b.record fun s =>
          (({ s with aliases := s.aliases.insertNew a c } : Snapshot).declareAccount a).declareAccount c
      | _, _ => b
  | _ => b

/-- What a directive does. -/
def directive (name : String) (args : List Token) (line : Int) : BuildM Unit := do
  let isCommodity := name = "commodity" ∨ name = "format" ∨ name = "D"
  if isCommodity ∧ args.any (·.kind = .text) then
    modify (·.warn line ("malformed " ++ name ++ " directive"))
  else if isCommodity then modify (commodityDirective name args)
  else if name = "account" then
    match (firstOf? .account args).bind (cleanAccount? ·.text) with
    | some account => modify (·.record (·.declareAccount account))
    | none => pure ()
  else if name = "alias" then modify (aliasDirective args)
  else if name = "decimal-mark" then
    match (firstOf? .text args).map (·.text) with
    | some "." => modify (·.record fun s => { s with decimalMark := some "." })
    | some "," => modify (·.record fun s => { s with decimalMark := some "," })
    | _ => modify (·.warn line "decimal-mark must be '.' or ','")
  else if name = "include" then
    match firstOf? .text args with
    | some tok => modify (·.record (·.addInclude tok.text))
    | none => pure ()
  else if name = "P" then
    modify (·.record fun s =>
      ((args.filter (·.kind = .commodity)).map (unquoteSymbol ·.text)).foldl
        Snapshot.mentionCommodity s)
  else if name = "payee" then
    match firstOf? .payee args with
    | some tok =>
      let payee := payeeName tok.text
      if !payee.isEmpty then modify (·.record (·.declarePayee payee))
    | none => pure ()
  else if name = "tag" then
    match firstOf? .tagKey args with
    | some tok => modify (·.record (·.declareTag tok.text))
    | none => pure ()
  else if name = "Y" ∨ name = "year" then
    match firstOf? .text args with
    | some tok =>
      match Number.readInteger tok.text with
      | .ok year => modify fun b => { b with defaultYear := some year }
      | .error e => throw (.badYear e)
    | none => pure ()

end Daybook.Builder
