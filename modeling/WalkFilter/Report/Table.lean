import WalkFilter.CodeText
import WalkFilter.Text.Digit

/-!
# Tables

A table is drawn with dashes and vertical bars. A column is as wide as its widest cell, and a column
whose data cells are all numbers is aligned to the right. Style codes of a terminal take no width.
The cells are code points, some of which may be halves of surrogate pairs; a half takes the width of
one character.
-/

namespace WalkFilter.Table

/-- The distance between tab stops. -/
def tabStop : Nat := 8

/-- Writes tabs as blanks up to the next tab stop, starting at a column. -/
def expandTabsFrom (column : Nat) : List CodePoint → List CodePoint
  | [] => []
  | point :: rest =>
    if point = .ofChar '\t' then
      let width := tabStop - column % tabStop
      List.replicate width (.ofChar ' ') ++ expandTabsFrom (column + width) rest
    else if point = .ofChar '\n' ∨ point = .ofChar '\r' then point :: expandTabsFrom 0 rest
    else point :: expandTabsFrom (column + 1) rest

/-- Writes tabs as blanks up to the next tab stop. -/
def expandTabs (text : List CodePoint) : List CodePoint := expandTabsFrom 0 text

/-- The characters after an escape form a style code: a bracket, and an `m` later on the line. -/
def opensStyle : List Char → Bool
  | '[' :: rest => (rest.takeWhile (· ≠ '\n')).contains 'm'
  | _ => false

/-- The text without style codes; `inside` tells whether a code is still open. -/
def withoutStyles : (inside : Bool) → List Char → List Char
  | _, [] => []
  | true, char :: rest => withoutStyles (char ≠ 'm') rest
  | false, char :: rest =>
    if char = '\x1B' && opensStyle rest then withoutStyles true rest
    else char :: withoutStyles false rest

/-- The characters of a cell that take width. -/
def visible (cell : List CodePoint) : List Char :=
  (withoutStyles false (cell.map CodePoint.shown)).filter fun char =>
    char ≠ '\x01' && char ≠ '\x02'

/-- The width of a cell. -/
def width (cell : List CodePoint) : Nat := (visible cell).length

/-- The text without one final line feed. -/
def withoutFinalNewline (text : List Char) : List Char :=
  if text.getLast? = some '\n' then text.dropLast else text

/-- The cell is a number: digits, perhaps with a point and more digits. -/
def isNumeric (cell : List CodePoint) : Bool :=
  let text := withoutFinalNewline (visible cell)
  let fraction := text.dropWhile Text.isDigit
  !(text.takeWhile Text.isDigit).isEmpty &&
    match fraction with
    | [] => true
    | '.' :: digits => !digits.isEmpty && digits.all Text.isDigit
    | _ => false

/-- How a column is drawn. -/
structure Column where
  /-- The width of its widest cell. -/
  width : Nat
  /-- Its cells are aligned to the right. -/
  numeric : Bool
deriving DecidableEq, Repr

/-- The column of a header and the data cells below it. -/
def Column.ofCells (header : List CodePoint) (cells : List (List CodePoint)) : Column where
  width := cells.foldl (fun widest cell => max widest (Table.width cell)) (Table.width header)
  numeric := cells.all isNumeric

/-- A number of equal characters. -/
def fill (char : Char) (count : Nat) : List CodePoint := List.replicate count (.ofChar char)

/-- A cell with the blanks that fill its column. -/
def pad (column : Column) (cell : List CodePoint) : List CodePoint :=
  let padding := fill ' ' (column.width - width cell)
  if column.numeric then padding ++ cell else cell ++ padding

/-- A row between vertical bars. -/
def row : List Column → List (List CodePoint) → List CodePoint
  | column :: columns, cell :: cells =>
    codePoints "| " ++ pad column cell ++ codePoints " " ++ row columns cells
  | _, _ => codePoints "|"

/-- The bar above and below rows. -/
def bar (columns : List Column) : List CodePoint :=
  fill '-' (columns.foldl (fun total column => total + column.width + 3) 1)

/-- The lines of a table with a header and rows of as many cells. -/
def drawLines (header : List (List CodePoint)) (rows : List (List (List CodePoint))) :
    List (List CodePoint) :=
  let header := header.map expandTabs
  let rows := rows.map (·.map expandTabs)
  let columns := header.zipIdx.map fun (name, index) =>
    Column.ofCells name (rows.map fun cells => cells.getD index [])
  [bar columns, row columns header, bar columns] ++ rows.map (row columns) ++ [bar columns]

/-- A table, without a newline at its end. -/
def draw (header : List (List CodePoint)) (rows : List (List (List CodePoint))) :
    List CodePoint :=
  (codePoints "\n").intercalate (drawLines header rows)

end WalkFilter.Table
