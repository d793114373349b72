import Daybook.Amount.Format
import Daybook.Template.Basic

/-!
# Templates as journal text

* `Template.rendered`: the payee, and under it one indented line for each posting.
-/

namespace Daybook

open Amount

/-- What a posting is indented by. -/
def postingIndent : String := "    "

/-- The line of a posting; `formatOf` gives the format of a commodity. -/
def TemplatePosting.rendered (formatOf : String → Option CommodityFormat) (p : TemplatePosting) :
    String :=
  match p.amount with
  | none => postingIndent ++ p.account
  | some amount =>
    let format := (p.commodity.filter (!·.isEmpty)).bind formatOf
    postingIndent ++ p.account ++ "  " ++ renderAmount amount p.commodity format

/-- The payee of a template, and under it the lines of its postings. -/
def Template.rendered (formatOf : String → Option CommodityFormat) (t : Template) : String :=
  "\n".intercalate (t.payee :: t.postings.map (·.rendered formatOf))

end Daybook
