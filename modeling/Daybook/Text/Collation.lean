import Daybook.Text.Casing
import Daybook.Text.NormalForm
import Daybook.Text.Trim

/-!
# Comparison and order of names

* `fold`: the form in which names are compared; case makes no difference in it.
* `CollationKey`: the form by which names are sorted, first without accents and then with them.
* `payeeName`: the form in which a payee is recorded.
-/

namespace Daybook.Text

/-- The form of a name in which case and the way of writing accents make no difference. -/
def fold (s : String) : String :=
  caseFold (compose s)

/-- What a name is sorted by. -/
structure CollationKey where
  /-- The folded name without marks. -/
  base : String
  /-- The folded name. -/
  folded : String
deriving DecidableEq, Repr

/-- The collation key of a name. -/
def collationKey (s : String) : CollationKey :=
  let folded := fold s
  { base := String.ofList ((decomposeAll folded.toList).filter fun c => combiningClass c == 0)
    folded }

namespace CollationKey

/-- The order of keys: by `base`, then by `folded`, both by code points. -/
def le (a b : CollationKey) : Bool :=
  a.base < b.base || (a.base == b.base && !(b.folded < a.folded))

end CollationKey

/-- Names in collation order; names with equal keys keep their order. -/
def sortNames (names : List String) : List String :=
  let keyed := names.map fun name => (collationKey name, name)
  (keyed.mergeSort fun a b => a.1.le b.1).map (·.2)

/-- A payee as it is recorded: composed and without blanks at its ends. -/
def payeeName (s : String) : String :=
  trim (compose s)

end Daybook.Text
