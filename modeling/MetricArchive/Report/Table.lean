import MetricArchive.Report.Lines
import MetricArchive.Report.Markup

/-!
# Tables

A table is drawn with lines around its cells, under a title in its middle. Each column is as wide as
its widest cell, but the widest column gives way if the table would be too wide. A header stands
between heavy lines, and sections of rows are set apart by a line.
-/
namespace MetricArchive.Report

structure Table where
  /-- Marked-up text. -/
  title : String
  header : Option (List String)
  alignments : List Alignment
  sections : List (List (List String))
  deriving Repr

/-- The ends of a horizontal line, its stroke and where it meets the columns. -/
structure Rule where
  start : String
  stroke : Char
  crossing : String
  finish : String

/-- A line over columns of some widths. -/
def Rule.draw (r : Rule) (widths : List Nat) : String :=
  r.start ++ r.crossing.intercalate
    (widths.map fun w => String.ofList (List.replicate (w + 2) r.stroke)) ++ r.finish

namespace Table

def rows (t : Table) : List (List String) := t.header.toList ++ t.sections.flatten

def columnWidth (t : Table) (column : Nat) : Nat :=
  ((t.rows.filterMap (·[column]?)).map fun cell => columns cell.toList).foldl max 0

/-- Columns of a whole table with columns of some widths: a blank on both sides of each cell, and
lines between them. -/
def framedWidth (widths : List Nat) : Nat := widths.foldr (fun w n => w + 3 + n) 1

/-- Makes the widest column give way by what a table has too much. -/
def narrowed (limit : Nat) (widths : List Nat) : List Nat :=
  let widest := widths.foldl max 0
  widths.map fun w => if w = widest then w - (framedWidth widths - limit) else w

def widths (limit : Nat) (t : Table) : List Nat :=
  narrowed limit ((List.range t.alignments.length).map t.columnWidth)

def cellLines (width : Nat) (cell : String) : List String := wrap .dots width cell

/-- A line of a row, with a part of each cell. -/
def rowLine (t : Table) (widths : List Nat) (stroke : String) (parts : List String) : String :=
  let padded := (parts.zip (t.alignments.zip widths)).map fun (part, a, w) => a.pad w part
  stroke ++ stroke.intercalate (padded.map fun part => " " ++ part ++ " ") ++ stroke

/-- The lines of a row, as many as its longest cell needs. -/
def row (t : Table) (widths : List Nat) (stroke : String) (cells : List String) : List String :=
  let parts := (cells.zip widths).map fun (cell, w) => cellLines w cell
  (List.range ((parts.map List.length).foldl max 0)).map fun i =>
    t.rowLine widths stroke (parts.map fun lines => lines[i]?.getD "")

/-- What stands above the rows. -/
def top (t : Table) (widths : List Nat) : List String :=
  match t.header with
  | none => [Rule.draw ⟨"┌", '─', "┬", "┐"⟩ widths]
  | some cells => [Rule.draw ⟨"┏", '━', "┳", "┓"⟩ widths] ++ t.row widths "┃" cells ++
      [Rule.draw ⟨"┡", '━', "╇", "┩"⟩ widths]

def body (t : Table) (widths : List Nat) : List String :=
  let separator := Rule.draw ⟨"├", '─', "┼", "┤"⟩ widths
  [separator].intercalate (t.sections.map fun rows => rows.flatMap (t.row widths "│"))

def bottom (widths : List Nat) : List String := [Rule.draw ⟨"└", '─', "┴", "┘"⟩ widths]

def titleLines (t : Table) (widths : List Nat) : Except MarkupFault (List String) :=
  (Markup.shown t.title).map fun title =>
    (wrap .fold (framedWidth widths) title).map fun line =>
      Alignment.center.pad (framedWidth widths) (String.ofList (Text.trimEnd line.toList))

/-- The lines of a table that may have so many columns. -/
def lines (limit : Nat) (t : Table) : Except MarkupFault (List String) :=
  let widths := t.widths limit
  (t.titleLines widths).map fun title => title ++ t.top widths ++ t.body widths ++ bottom widths

end Table

end MetricArchive.Report
