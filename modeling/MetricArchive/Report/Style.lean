import MetricArchive.Text.Blank
import MetricArchive.Text.Case
import MetricArchive.Text.Integer
import MetricArchive.Text.Split

/-!
# Styles

A style is written in words: attributes, which may be negated, a colour, a colour of the ground and
a link, in any order and some with short names. Styles of one effect have one canonical text; words
that name no style stand for themselves in small letters.
-/
namespace MetricArchive.Report

structure Style where
  /-- The attributes that are set or negated. -/
  attributes : List (String × Bool)
  color : Option String
  ground : Option String
  link : Option String
  deriving DecidableEq, Repr

inductive StyleFault where
  | unknown
  /-- A part of a colour is no number. -/
  | part (f : Text.IntegerFault)
  deriving DecidableEq, Repr

namespace Style

def plain : Style := ⟨[], none, none, none⟩

/-- Attributes in the order in which they are written. -/
def attributeNames : List String :=
  ["bold", "dim", "italic", "underline", "blink", "blink2", "reverse", "conceal", "strike",
    "underline2", "frame", "encircle", "overline"]

def shortNames : List (String × String) :=
  [("d", "dim"), ("b", "bold"), ("i", "italic"), ("u", "underline"), ("r", "reverse"),
    ("c", "conceal"), ("s", "strike"), ("uu", "underline2"), ("o", "overline")]

def attribute? (word : String) : Option String :=
  if attributeNames.contains word then some word else shortNames.lookup word

def colorNames : List String :=
  ["black", "red", "green", "yellow", "blue", "magenta", "cyan", "white", "bright_black",
    "bright_red", "bright_green", "bright_yellow", "bright_blue", "bright_magenta", "bright_cyan",
    "bright_white", "grey0", "gray0", "navy_blue", "dark_blue", "blue3", "blue1", "dark_green",
    "deep_sky_blue4", "dodger_blue3", "dodger_blue2", "green4", "spring_green4", "turquoise4",
    "deep_sky_blue3", "dodger_blue1", "green3", "spring_green3", "dark_cyan", "light_sea_green",
    "deep_sky_blue2", "deep_sky_blue1", "spring_green2", "cyan3", "dark_turquoise", "turquoise2",
    "green1", "spring_green1", "medium_spring_green", "cyan2", "cyan1", "dark_red", "deep_pink4",
    "purple4", "purple3", "blue_violet", "orange4", "grey37", "gray37", "medium_purple4",
    "slate_blue3", "royal_blue1", "chartreuse4", "dark_sea_green4", "pale_turquoise4", "steel_blue",
    "steel_blue3", "cornflower_blue", "chartreuse3", "cadet_blue", "sky_blue3", "steel_blue1",
    "pale_green3", "sea_green3", "aquamarine3", "medium_turquoise", "chartreuse2", "sea_green2",
    "sea_green1", "aquamarine1", "dark_slate_gray2", "dark_magenta", "dark_violet", "purple",
    "light_pink4", "plum4", "medium_purple3", "slate_blue1", "yellow4", "wheat4", "grey53",
    "gray53", "light_slate_grey", "light_slate_gray", "medium_purple", "light_slate_blue",
    "dark_olive_green3", "dark_sea_green", "light_sky_blue3", "sky_blue2", "dark_sea_green3",
    "dark_slate_gray3", "sky_blue1", "chartreuse1", "light_green", "pale_green1",
    "dark_slate_gray1", "red3", "medium_violet_red", "magenta3", "dark_orange3", "indian_red",
    "hot_pink3", "medium_orchid3", "medium_orchid", "medium_purple2", "dark_goldenrod",
    "light_salmon3", "rosy_brown", "grey63", "gray63", "medium_purple1", "gold3", "dark_khaki",
    "navajo_white3", "grey69", "gray69", "light_steel_blue3", "light_steel_blue", "yellow3",
    "dark_sea_green2", "light_cyan3", "light_sky_blue1", "green_yellow", "dark_olive_green2",
    "dark_sea_green1", "pale_turquoise1", "deep_pink3", "magenta2", "hot_pink2", "orchid",
    "medium_orchid1", "orange3", "light_pink3", "pink3", "plum3", "violet", "light_goldenrod3",
    "tan", "misty_rose3", "thistle3", "plum2", "khaki3", "light_goldenrod2", "light_yellow3",
    "grey84", "gray84", "light_steel_blue1", "yellow2", "dark_olive_green1", "honeydew2",
    "light_cyan1", "red1", "deep_pink2", "deep_pink1", "magenta1", "orange_red1", "indian_red1",
    "hot_pink", "dark_orange", "salmon1", "light_coral", "pale_violet_red1", "orchid2", "orchid1",
    "orange1", "sandy_brown", "light_salmon1", "light_pink1", "pink1", "plum1", "gold1",
    "navajo_white1", "misty_rose1", "thistle1", "yellow1", "light_goldenrod1", "khaki1", "wheat1",
    "cornsilk1", "grey100", "gray100", "grey3", "gray3", "grey7", "gray7", "grey11", "gray11",
    "grey15", "gray15", "grey19", "gray19", "grey23", "gray23", "grey27", "gray27", "grey30",
    "gray30", "grey35", "gray35", "grey39", "gray39", "grey42", "gray42", "grey46", "gray46",
    "grey50", "gray50", "grey54", "gray54", "grey58", "gray58", "grey62", "gray62", "grey66",
    "gray66", "grey70", "gray70", "grey74", "gray74", "grey78", "gray78", "grey82", "gray82",
    "grey85", "gray85", "grey89", "gray89", "grey93", "gray93", "default"]

def isHexDigit (c : Char) : Bool := ('0' ≤ c && c ≤ '9') || ('a' ≤ c && c ≤ 'f')

def bracketed? (name : String) (cs : List Char) : Option (List Char) :=
  let head := (name ++ "(").toList
  if head.isPrefixOf cs && cs.getLast? == some ')' then some (cs.drop head.length).dropLast
  else none

/-- Whether three parts are a colour: each is a number of a byte. -/
def areByteParts (parts : List (List Char)) : Except StyleFault Bool :=
  if parts.length = 3 then
    (parts.mapM fun p => (Text.readWhole (String.ofList p)).mapError StyleFault.part).map
      (·.all (· ≤ 255))
  else .ok false

/-- Whether a word in small letters is a colour: a name, six digits of base sixteen, a number or
three of them. -/
def isColor (cs : List Char) : Except StyleFault Bool :=
  if colorNames.contains (String.ofList cs) then .ok true
  else if cs.head? == some '#' then .ok (cs.length == 7 && cs.tail.all isHexDigit)
  else
    match bracketed? "color" cs, bracketed? "rgb" cs with
    | some digits, _ =>
      .ok (!digits.isEmpty && digits.length ≤ 3 && digits.all (fun c => '0' ≤ c && c ≤ '9') &&
        Text.digitsValue digits ≤ 255)
    | none, some inner =>
      if !inner.isEmpty && inner.all fun c => Text.isDigit c || c == ',' then
        areByteParts (Text.split ',' inner)
      else .ok false
    | none, none => .ok false

def readColor (word : List Char) : Except StyleFault String := do
  let word := Text.lowerCase word
  if ← isColor word then return String.ofList word else throw .unknown

def setAttribute (s : Style) (name : String) (on : Bool) : Style :=
  { s with attributes := (name, on) :: s.attributes.filter fun (n, _) => n != name }

/-- Adds words to a style. Of two colours the later one holds. -/
def addWords (s : Style) : List (List Char) → Except StyleFault Style
  | [] => .ok s
  | word :: rest =>
    let small := String.ofList (Text.lowerCase word)
    if small == "on" then
      match rest with
      | [] => .error .unknown
      | color :: rest => (readColor color).bind fun c => addWords { s with ground := some c } rest
    else if small == "not" then
      match rest with
      | [] => .error .unknown
      | name :: rest =>
        match attribute? (String.ofList name) with
        | some a => addWords (s.setAttribute a false) rest
        | none => .error .unknown
    else if small == "link" then
      match rest with
      | [] => .error .unknown
      | target :: rest => addWords { s with link := some (String.ofList target) } rest
    else
      match attribute? small with
      | some a => addWords (s.setAttribute a true) rest
      | none => (readColor word).bind fun c => addWords { s with color := some c } rest

def text (s : Style) : String :=
  let attributes := attributeNames.filterMap fun name =>
    (s.attributes.lookup name).map fun on => if on then name else "not " ++ name
  let words := attributes ++ s.color.toList ++ (s.ground.map ("on " ++ ·)).toList ++
    (s.link.map ("link " ++ ·)).toList
  if words.isEmpty then "none" else " ".intercalate words

def canonical (cs : List Char) : Except StyleFault String :=
  let bare := Text.trim cs
  if bare.isEmpty || bare == "none".toList then .ok plain.text
  else
    match addWords plain (Text.words cs) with
    | .ok s => .ok s.text
    | .error .unknown => .ok (String.ofList (Text.lowerCase bare))
    | .error f => .error f

end Style

end MetricArchive.Report
