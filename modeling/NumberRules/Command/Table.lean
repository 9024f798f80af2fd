import NumberRules.Text.Bytes
import NumberRules.Text.Wrap

/-! # Tables

Results are shown in a table of two columns with a border around it and a double line under the
header.  Every cell has one space of padding on either side, and one column of space stands between
the cells of a row.  A cell may have several lines; its row is as high as its highest cell.

Widths are numbers of 16 bits, so a line that is wider than the widest column is broken.
-/

namespace NumberRules.Command
set_option autoImplicit false

structure Row where
  left : String
  right : String
  deriving DecidableEq

namespace Row

/-- The lines of a cell; an empty cell has one. -/
def cellLines (cell : String) : List String := cell.splitOn "\n"

def cellWidth (cell : String) : Nat :=
  ((cellLines cell).map Text.displayWidth).foldl max 0

def widthLimit : Nat := UInt16.size - 1

def paddedWidth (width : Nat) : Nat := min widthLimit (width + 2)

def spaces (count : Nat) : String := String.ofList (List.replicate count ' ')

/-- A line of a cell with its padding, filled up with spaces to a width. -/
def fill (width : Nat) (line : String) : String :=
  " " ++ line ++ spaces (width - Text.displayWidth line) ++ " "

/-- The lines of a cell in a column of a width, with their padding. -/
def filledLines (width : Nat) (cell : String) : List String :=
  ((cellLines cell).flatMap (Text.wrap width)).map (fill width)

def lines (leftWidth rightWidth : Nat) (row : Row) : List String :=
  let left := (filledLines leftWidth row.left).toArray
  let right := (filledLines rightWidth row.right).toArray
  (List.range (max left.size right.size)).map fun k =>
    "│" ++ (left[k]?).getD (spaces (paddedWidth leftWidth)) ++ " " ++
      (right[k]?).getD (spaces (paddedWidth rightWidth)) ++ "│"

end Row

def ruler (corner : Char) (stroke : Char) (closing : Char) (width : Nat) : String :=
  String.ofList (corner :: (List.replicate width stroke ++ [closing]))

/-- The width of a column: that of its widest cell, but at least one. -/
def columnWidth (cells : List String) : Nat :=
  min Row.widthLimit ((cells.map Row.cellWidth).foldl max 1)

def table (header : Row) (rows : List Row) : String :=
  let leftWidth := columnWidth ((header :: rows).map Row.left)
  let rightWidth := columnWidth ((header :: rows).map Row.right)
  let width := Row.paddedWidth leftWidth + 1 + Row.paddedWidth rightWidth
  "\n".intercalate
    ([ruler '┌' '─' '┐' width] ++ header.lines leftWidth rightWidth ++
      [ruler '╞' '═' '╡' width] ++ rows.flatMap (Row.lines leftWidth rightWidth) ++
      [ruler '└' '─' '┘' width])

end NumberRules.Command
