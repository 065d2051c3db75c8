/-!
# Blanks, trimming and words

Blanks are the characters of the Unicode white-space property together with the four
information separators U+001C to U+001F. Words are the longest runs of other characters.
Lines are cut elsewhere: a line break is a blank here too.
-/
namespace MetricArchive.Text

/-- A character that separates words and that trimming removes. -/
def isBlank (c : Char) : Bool :=
  let n := c.toNat
  (0x09 ≤ n && n ≤ 0x0d) || (0x1c ≤ n && n ≤ 0x20) || n == 0x85 || n == 0xa0 ||
    n == 0x1680 || (0x2000 ≤ n && n ≤ 0x200a) || n == 0x2028 || n == 0x2029 ||
    n == 0x202f || n == 0x205f || n == 0x3000

def trimStart (cs : List Char) : List Char := cs.dropWhile isBlank

def trimEnd (cs : List Char) : List Char := (cs.reverse.dropWhile isBlank).reverse

def trim (cs : List Char) : List Char := trimEnd (trimStart cs)

/-- The first word and what follows it, blanks before the word dropped. -/
def cutWord (cs : List Char) : List Char × List Char :=
  ((trimStart cs).takeWhile (fun c => !isBlank c), (trimStart cs).dropWhile (fun c => !isBlank c))

/-- All words in order. A character joins the word that its right neighbour starts. -/
def words : List Char → List (List Char)
  | [] => []
  | c :: rest =>
    if isBlank c then words rest
    else
      match rest.head?.filter (fun d => !isBlank d), words rest with
      | some _, w :: ws => (c :: w) :: ws
      | _, ws => [c] :: ws

theorem trimStart_blank {c : Char} (h : isBlank c = true) (cs : List Char) :
    trimStart (c :: cs) = trimStart cs := by
  simp [trimStart, h]

theorem trimStart_of_not_blank {c : Char} (h : isBlank c = false) (cs : List Char) :
    trimStart (c :: cs) = c :: cs := by
  simp [trimStart, h]

theorem words_blank {c : Char} (h : isBlank c = true) (cs : List Char) :
    words (c :: cs) = words cs := by
  simp [words, h]

end MetricArchive.Text
