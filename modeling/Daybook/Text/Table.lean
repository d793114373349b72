/-!
# Packed tables

Properties of characters beyond ASCII are tables with hundreds of rows.  A `PackedTable` keeps the
cells of such a table in few large numbers, so that a table is a short literal and a lookup is a
binary search over shifts.

* `PackedTable.cell`: one cell of a table.
* `PackedTable.rowOf?`: the last row whose first cell is at most a key.
* `PackedTable.covers`: membership in a table of ranges.
-/

namespace Daybook.Text

/-- The number of bits of a word: a multiple of the sizes of all cells in use. -/
def wordBits : Nat := 336

/-- A table of `rows` rows with `width` cells of `bits` bits each.  The cells of all rows stand one
after another in words of `wordBits` bits, the first in the lowest bits of the first word.  Rows are
sorted by their first cell. -/
structure PackedTable where
  /-- The number of bits of a cell. -/
  bits : Nat
  /-- The number of cells of a row. -/
  width : Nat
  /-- The number of rows. -/
  rows : Nat
  /-- The words that hold the cells. -/
  words : Array Nat

namespace PackedTable

/-- Cell `col` of row `row`. -/
def cell (t : PackedTable) (row col : Nat) : Nat :=
  let perWord := wordBits / t.bits
  let i := t.width * row + col
  (t.words.getD (i / perWord) 0 >>> (t.bits * (i % perWord))) % Nat.pow 2 t.bits

/-- Binary search in the rows `lo ≤ i < hi`: the number of rows before `hi` that start at or below
`key`, given that all rows before `lo` do. -/
def countUpTo (t : PackedTable) (key lo hi : Nat) : Nat :=
  if lo < hi then
    let mid := (lo + hi) / 2
    if t.cell mid 0 ≤ key then countUpTo t key (mid + 1) hi else countUpTo t key lo mid
  else lo
termination_by hi - lo

/-- The last row whose first cell is at most `key`. -/
def rowOf? (t : PackedTable) (key : Nat) : Option Nat :=
  match t.countUpTo key 0 t.rows with
  | 0 => none
  | n + 1 => some n

/-- Whether `key` lies in one of the ranges `first, last` of the table. -/
def covers (t : PackedTable) (key : Nat) : Bool :=
  match t.rowOf? key with
  | none => false
  | some row => key ≤ t.cell row 1

/-- The `length` cells of a table of width one that start at `offset`, as characters. -/
def slice (t : PackedTable) (offset length : Nat) : List Char :=
  (List.range length).map fun i => Char.ofNat (t.cell (offset + i) 0)

end PackedTable

end Daybook.Text
