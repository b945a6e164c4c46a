import Carrier.Text.Decimal

/-!
# Tables of code points

A table is a list of rows of numbers, ordered by the first number of each. It is written in
hexadecimal, with a blank between the numbers of a row and a comma after each row.

- `Table.read`: the table that some lines of text stand for.
- `Table.row?`: the last row that begins at or before a number.
- `Table.holds`: rows are ranges, `first last` or one number alone.
- `Table.classOf`: rows are `first class`, and a class lasts until the next row.
- `Table.shift?`: rows are `first image count step`, runs that move alike.
- `Table.images?`: rows are a number and its images.
-/

namespace Carrier

namespace Text

/-- Rows of numbers, ordered by the first number of each. -/
structure Table where
  /-- The rows. -/
  rows : Array (List Nat)

namespace Table

/-- What has been read of a table: whole rows, the numbers of the last row in reverse, and the
number that is being read. -/
structure Reading where
  /-- The rows that are complete. -/
  rows : Array (List Nat)
  /-- The complete numbers of the last row, in reverse. -/
  row : List Nat
  /-- The number that is being read. -/
  number : Nat

/-- One character of a written table. -/
def readChar (r : Reading) (c : Char) : Reading :=
  if c = ',' then ⟨r.rows.push (r.number :: r.row).reverse, [], 0⟩
  else if c = ' ' then { r with row := r.number :: r.row, number := 0 }
  else { r with number := r.number * 16 + (hexValue? c).getD 0 }

/-- The table that some lines of text stand for, each line ending in a comma. -/
def read (lines : List String) : Table :=
  let begun : Reading := ⟨#[], [], 0⟩
  ⟨(lines.foldl (fun r (line : String) => line.toList.foldl readChar r) begun).rows⟩

/-- The number a row begins with. -/
def start (row : List Nat) : Nat := row.headD 0

/-- Halves the rows between `lo` and `hi` until the last one that begins at or before `n` is
found. -/
def search (rows : Array (List Nat)) (n lo hi : Nat) : Option (List Nat) :=
  if lo < hi then
    let mid := (lo + hi) / 2
    if start (rows[mid]?.getD []) ≤ n then search rows n (mid + 1) hi else search rows n lo mid
  else if lo = 0 then none
  else rows[lo - 1]?
termination_by hi - lo

/-- The last row that begins at or before `n`. -/
def row? (t : Table) (n : Nat) : Option (List Nat) :=
  search t.rows n 0 t.rows.size

/-- Whether one of the ranges of a table holds `n`. -/
def holds (t : Table) (n : Nat) : Bool :=
  match t.row? n with
  | some [first] => n == first
  | some [_, last] => n ≤ last
  | _ => false

/-- The class of `n`, in a table of where classes begin. -/
def classOf (t : Table) (n : Nat) : Nat :=
  match t.row? n with
  | some [_, cls] => cls
  | _ => 0

/-- Where `n` moves to, in a table of runs that move alike. -/
def shift? (t : Table) (n : Nat) : Option Nat :=
  match t.row? n with
  | some (first :: image :: more) =>
    let count := more.headD 1
    let step := more.tail.headD 1
    if (n - first) % step = 0 ∧ (n - first) / step < count then some (image + (n - first))
    else none
  | _ => none

/-- The images of `n`, in a table of numbers and their images. -/
def images? (t : Table) (n : Nat) : Option (List Nat) :=
  match t.row? n with
  | some (first :: images) => if n = first then some images else none
  | _ => none

end Table

end Text

end Carrier
