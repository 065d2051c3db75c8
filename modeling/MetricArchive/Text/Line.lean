/-!
# Cutting a text into lines

A line ends at any of ten line breaks, and a carriage return directly before a line feed
belongs to the same break. A final break opens no further line, so the empty text has no line.
-/
namespace MetricArchive.Text

def isLineBreak (c : Char) : Bool :=
  let n := c.toNat
  (0x0a ≤ n && n ≤ 0x0d) || (0x1c ≤ n && n ≤ 0x1e) || n == 0x85 || n == 0x2028 || n == 0x2029

def lines : List Char → List (List Char)
  | [] => []
  | '\r' :: '\n' :: rest => [] :: lines rest
  | c :: rest =>
    if isLineBreak c then [] :: lines rest
    else
      match lines rest with
      | [] => [[c]]
      | l :: ls => (c :: l) :: ls

/-- Lines with their numbers, counted from one. -/
def numberedLines (cs : List Char) : List (Nat × List Char) :=
  (lines cs).zipIdx.map fun (l, i) => (i + 1, l)

theorem lines_newline (cs : List Char) : lines ('\n' :: cs) = [] :: lines cs := by
  simp [lines, isLineBreak]

end MetricArchive.Text
