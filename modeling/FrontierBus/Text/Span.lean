/-!
# Tables over code points

A property of characters is written down as rows of text: entries separated by spaces, each entry
a list of hexadecimal fields separated by colons. A row table is read once into an array of spans
sorted by their first code point, which is then searched by halving.
-/

namespace FrontierBus.Text

/-- The code points from `first` to `last` share `value`. -/
structure Span (α : Type) where
  first : Nat
  last : Nat
  value : α

namespace Span

/-- The value of a hexadecimal digit in lower case; other characters count as zero. -/
def hexValue (digit : Char) : Nat :=
  if digit.isDigit then digit.toNat - '0'.toNat
  else if 'a' ≤ digit ∧ digit ≤ 'f' then digit.toNat - 'a'.toNat + 10
  else 0

/-- The number that a field of a row stands for. -/
def fieldValue (field : String) : Nat :=
  field.toList.foldl (fun value digit => 16 * value + hexValue digit) 0

/-- The entries of the rows, as lists of their fields. -/
def entries (rows : List String) : List (List Nat) :=
  rows.flatMap fun row => (row.splitOn " ").map fun entry => (entry.splitOn ":").map fieldValue

/-- A table in the order that `search` needs. -/
def sorted {α : Type} (spans : List (Span α)) : Array (Span α) :=
  (spans.mergeSort fun left right => left.first ≤ right.first).toArray

/-- Entries `first:last` or `first`, all with one value. -/
def ofRows {α : Type} (value : α) (rows : List String) : List (Span α) :=
  (entries rows).filterMap fun
    | [first] => some ⟨first, first, value⟩
    | [first, last] => some ⟨first, last, value⟩
    | _ => none

/-- The span among `table[low]`, …, `table[high - 1]` that holds `code`. -/
def searchBetween {α : Type} (table : Array (Span α)) (code low high : Nat) : Option (Span α) :=
  if _inRange : low < high then
    let middle := (low + high) / 2
    match table[middle]? with
    | none => none
    | some span =>
      if code < span.first then searchBetween table code low middle
      else if span.last < code then searchBetween table code (middle + 1) high
      else some span
  else none
termination_by high - low

/-- The span of a sorted table that holds the character. -/
def search {α : Type} (table : Array (Span α)) (character : Char) : Option (Span α) :=
  searchBetween table character.toNat 0 table.size

end Span

end FrontierBus.Text
