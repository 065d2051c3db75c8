import MetricArchive.Report.Columns
import MetricArchive.Text.Blank
import MetricArchive.Text.Split

/-!
# Lines of limited width

A text is laid out in lines of so many columns. A line breaks before the first word that would not
fit; blanks stay with the word before them. A word that is wider than any line starts a line of its
own and is cut wherever that line is full, or cut off there.
-/
namespace MetricArchive.Report

open Text (isBlank trimEnd)

/-- The first word, blanks on both sides of it included, and the rest. -/
def takeWord (cs : List Char) : List Char × List Char :=
  let leading := cs.takeWhile isBlank
  let afterLeading := cs.dropWhile isBlank
  let word := afterLeading.takeWhile (!isBlank ·)
  let afterWord := afterLeading.dropWhile (!isBlank ·)
  (leading ++ word ++ afterWord.takeWhile isBlank, afterWord.dropWhile isBlank)

/-- Words with the blanks that follow them, at most as many as the first argument says. Blanks at
the front belong to the first word; blanks alone are no word. -/
def spacedWords : Nat → List Char → List (List Char)
  | 0, _ => []
  | n + 1, cs =>
    if cs.all isBlank then []
    else
      let (word, rest) := takeWord cs
      word :: spacedWords n rest

/-- Cuts a text into pieces that are full, without parting a cluster. -/
def chop (width used : Nat) : List Cluster → List (List Char)
  | [] => [[]]
  | k :: rest =>
    if width < used + k.columns then
      match chop width k.columns rest with
      | [] => [[], k.chars]
      | piece :: more => [] :: (k.chars ++ piece) :: more
    else
      match chop width (used + k.columns) rest with
      | [] => [k.chars]
      | piece :: more => (k.chars ++ piece) :: more

/-- What is done with a word that is wider than any line. -/
inductive Excess where
  /-- The word is cut into lines. -/
  | fold
  /-- The word is cut off, with dots at the end. -/
  | dots
  deriving DecidableEq, Repr

/-- Lays out words after what the present line holds already. A word that does not fit starts a
line, and so does one that is wider than any. -/
def fill (e : Excess) (width : Nat) (line : List Char) (used : Nat) :
    List (List Char) → List (List Char)
  | [] => [line]
  | word :: rest =>
    let needed := columns (trimEnd word)
    if used + needed ≤ width then fill e width (line ++ word) (used + columns word) rest
    else
      let before := if line.isEmpty then [] else [line]
      if width < needed && e == .fold then
        let cuts := chop width 0 (Cluster.ofText word)
        let last := cuts.getLast?.getD []
        before ++ cuts.dropLast ++ fill e width last (columns last) rest
      else before ++ fill e width word (columns word) rest

/-- Drops blanks at the end as far as a line is too long. -/
def dropExcess (width : Nat) (line : List Char) : List Char :=
  line.take (max width (trimEnd line).length)

/-- Puts blanks between parts, up to the next multiple of eight columns. -/
def joinParts (used : Nat) : List (List Char) → List Char
  | [] => []
  | [part] => part
  | part :: rest =>
    let used := used + columns part
    let gap := 8 - used % 8
    part ++ List.replicate gap ' ' ++ joinParts (used + gap) rest

def expandTabs (line : List Char) : List Char :=
  if line.contains '\t' then joinParts 0 (Text.split '\t' line) else line

/-- Controls that a terminal would act on: bell, backspace, two feeds and carriage return. -/
def isTerminalControl (c : Char) : Bool := [7, 8, 11, 12, 13].contains c.toNat

/-- Takes off what a line has too much. -/
def fit (e : Excess) (width : Nat) (line : List Char) : List Char :=
  let line := dropExcess width line
  if columns line ≤ width then line
  else
    match e with
    | .fold => crop width line
    | .dots => crop (width - 1) line ++ ['…']

def wrapLine (e : Excess) (width : Nat) (line : List Char) : List (List Char) :=
  let line := expandTabs line
  match spacedWords line.length line with
  | [] => [fit e width line]
  | words => (fill e width [] 0 words).map (fit e width)

def wrap (e : Excess) (width : Nat) (s : String) : List String :=
  let cs := s.toList.filter (!isTerminalControl ·)
  ((Text.split '\n' cs).flatMap (wrapLine e width)).map String.ofList

def blanks (width : Nat) (s : String) : String :=
  String.ofList (List.replicate (width - columns s.toList) ' ')

inductive Alignment where
  | left
  | center
  | right
  deriving DecidableEq, Repr

/-- Pads a text to a width; in the centre, an odd blank goes to the right. -/
def Alignment.pad (a : Alignment) (width : Nat) (s : String) : String :=
  match a with
  | left => s ++ blanks width s
  | right => blanks width s ++ s
  | center =>
    let before := String.ofList (List.replicate ((width - columns s.toList) / 2) ' ')
    before ++ s ++ blanks width (before ++ s)

end MetricArchive.Report
