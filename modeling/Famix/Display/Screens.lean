/-
What the program shows: panels, tables and charts, and the screens made of them, which are
the panels of the interactive reader, the records and the rest of a reading, and the table
of a whole file.

In a table every column is as wide as its widest cell, except that the widest column gives
way if the table would be wider than the terminal. A cell may have several lines; the other
cells of its row are blank below their last.

A chart has one bar for each kind, in the order of first occurrence, the bars of the most
frequent kinds being `barWidth` cells long. A bar's length is the count's share of the
largest count, rounded to whole cells with ties going to the even neighbour, and at least
one cell.
-/
import Famix.Display.Layout
import Famix.Entity.Tally
import Famix.Grammar.Model
import Famix.Text.Quoted

set_option autoImplicit false

namespace Famix.Display

/-! ## Panels -/

/-- A horizontal stroke of a frame. -/
def stroke (count : Nat) : Text := List.replicate count '─'

/-- The upper edge of a panel whose content is `columns` wide. A title stands in the
middle; if the strokes beside it are odd in number, one more is on its right. -/
def upperEdge (columns : Nat) : Option Text → Text
  | none => "╭".toList ++ stroke (columns + 2) ++ "╮".toList
  | some title =>
    let spare := columns - 2 - Text.width title
    "╭─".toList ++ stroke (spare / 2) ++ [' '] ++ title ++ [' '] ++
      stroke (spare - spare / 2) ++ "─╮".toList

/-- A panel of lines that are at most `columns` wide. -/
def frame (title : Option Text) (columns : Nat) (lines : List Text) : Text :=
  upperEdge columns title ++ ['\n'] ++
    lines.flatMap (fun line => "│ ".toList ++ padRight columns line ++ " │\n".toList) ++
    "╰".toList ++ stroke (columns + 2) ++ "╯\n".toList

/-- The columns that are left for the content of a panel as wide as the terminal. -/
def panelColumns : Nat := terminalWidth - 4

/-- A panel as narrow as its text allows. -/
def fittedPanel (title : Option Text) (text : Text) : Text :=
  let columns := min (measure text) panelColumns
  frame title columns (wrap .chop columns text)

/-- A panel as wide as the terminal. -/
def fullPanel (title : Option Text) (text : Text) : Text :=
  frame title panelColumns (wrap .chop panelColumns text)

/-! ## Tables -/

/-- A column of a table. -/
structure Column where
  heading : Text
  /-- Whether its cells stand at the right edge. -/
  alignRight : Bool

/-! ### Widths -/

/-- The widths that the columns would like to have, given the rows. -/
def columnWidths (columns : List Column) (rows : List (List Text)) : List Nat :=
  columns.mapIdx fun i column =>
    max (measure column.heading) ((rows.map fun row => measure (row.getD i [])).foldl max 0)

/-- The columns that a table takes: a blank at either side of every cell, and the rules. -/
def tableWidth (widths : List Nat) : Nat :=
  widths.foldr (fun width others => width + 3 + others) 1

/-- Widths of which the largest is reduced. -/
def reduceLargest (excess : Nat) (widths : List Nat) : List Nat :=
  let largest := widths.foldl max 0
  widths.map fun width => if width = largest then width - excess else width

/-- Widths with which a table fits on the terminal. -/
def fitWidths (widths : List Nat) : List Nat :=
  reduceLargest (tableWidth widths - terminalWidth) widths

/-! ### Lines -/

/-- A horizontal rule: strokes under each column, joined and ended by the given marks. -/
def rule (left stroke joint right : Char) (widths : List Nat) : Text :=
  left :: List.intercalate [joint] (widths.map fun width => List.replicate (width + 2) stroke) ++
    [right, '\n']

/-- A line of a cell. What is filled up on the right is measured again with its blanks,
one of which a joiner may have swallowed. -/
def cellLine (alignRight : Bool) (width : Nat) (line : Text) : Text :=
  if alignRight then padLeft width line else padRight width (padRight width line)

/-- The lines of a cell. -/
def cellLines (column : Column) (width : Nat) (cell : Text) : List Text :=
  (wrap .ellipsis width cell).map (cellLine column.alignRight width)

/-- One printed line of a row between rules. -/
def rowLine (bar : Char) (lines : List Text) : Text :=
  bar :: lines.flatMap (fun line => ' ' :: line ++ [' ', bar]) ++ ['\n']

/-- The printed lines of a row. -/
def rowLines (bar : Char) (columns : List (Column × Nat)) (row : List Text) : Text :=
  let cells := (columns.zip row).map fun ((column, width), cell) =>
    (width, cellLines column width cell)
  let height := (cells.map fun cell => cell.2.length).foldl max 1
  (List.range height).flatMap fun k =>
    rowLine bar (cells.map fun (width, lines) => lines.getD k (blanks width))

/-- A table under a centred title. -/
def table (title : Text) (columns : List Column) (rows : List (List Text)) : Text :=
  let widths := fitWidths (columnWidths columns rows)
  let sized := columns.zip widths
  centred (tableWidth widths) title ++ ['\n'] ++
    rule '┏' '━' '┳' '┓' widths ++
    rowLines '┃' sized (columns.map Column.heading) ++
    rule '┡' '━' '╇' '┩' widths ++
    rows.flatMap (rowLines '│' sized) ++
    rule '└' '─' '┴' '┘' widths

/-! ## Charts -/

/-- The length of the longest bars. -/
def barWidth : Nat := 40

/-- A quotient rounded to the nearest whole number, a half to the even neighbour. -/
def roundHalfEven (num den : Nat) : Nat :=
  let down := num / den
  let twice := 2 * (num % den)
  if twice < den then down
  else if den < twice then down + 1
  else if down % 2 = 0 then down else down + 1

/-- The length of the bar for a count, given the largest count. -/
def barLength (count peak : Nat) : Nat := max 1 (roundHalfEven (barWidth * count) peak)

/-- The lengths of all bars. -/
def barLengths (tally : Tally) : List Nat :=
  tally.map fun entry => barLength entry.2 tally.peak

/-- A bar of a given length. -/
def bar (length : Nat) : Text := List.replicate length '█'

/-- The lines of the chart without its frame: labels at the right edge of the first
column, bars at the left edge of the second, a blank at either side of each. -/
def chartLines (tally : Tally) : List Text :=
  let bars := (barLengths tally).map bar
  let labelWidth := widest tally.labels
  let barColumns := widest bars
  centred (labelWidth + barColumns + 4) "Famix Chart".toList ::
    List.zipWith
      (fun label bar =>
        [' '] ++ padLeft labelWidth label ++ "  ".toList ++ padRight barColumns bar ++ [' '])
      tally.labels bars

/-- The chart of a list of records, or a note that there is nothing to show. -/
def chart (entities : List Entity) : Text :=
  let tally := Tally.ofEntities entities
  if tally.isEmpty then "Nothing to chart.\n".toList
  else
    let lines := chartLines tally
    frame none (widest lines) lines

/-! ## Screens -/

/-- The greeting before each round. -/
def welcome : Text :=
  fittedPanel (some "Welcome".toList)
    ("Please input a FAMIX string\nNote: Spaces are important!\n".toList ++
      "Type help for more information.".toList)

/-- The answer to the help command. -/
def help : Text :=
  fittedPanel (some "Help".toList)
    ("Type reset to reset the input, :q to quit.\n".toList ++
      "Type example to load an example.".toList)

/-- A sample model as it is shown when it is loaded. -/
def sample (text : Text) : Text := fullPanel (some "Example".toList) text

/-- The records of a reading, one after the other. -/
def records (entities : List Entity) : Text :=
  "Parsed:\n".toList ++ entities.flatMap fun entity => print (' ' :: entity.describe)

/-- What a reading has left over, in its quoted form. -/
def rest (remainder : Text) : Text := "Rest:\n".toList ++ print (Text.quoted remainder)

/-- The records and the rest of a reading. -/
def reading (result : Reading Entity) : Text := records result.items ++ rest result.remainder

/-- The table of the records of a file. -/
def recordTable (entities : List Entity) : Text :=
  table "FAMIX Entities".toList
    [⟨"#".toList, true⟩, ⟨"Kind".toList, false⟩, ⟨"Details".toList, false⟩]
    (entities.mapIdx fun i entity =>
      [Text.ofNat (i + 1), entity.kind.name, entity.describe])

end Famix.Display
