import MetricArchive.Text.Split
import MetricArchive.Url.HostContext
import MetricArchive.Url.HostDirection
import MetricArchive.Url.HostLetters
import MetricArchive.Url.Punycode

/-!
# Internationalized host names

A host name is labels between dots. A label in plain ASCII stands for itself; any other label is
written in Punycode behind the mark `xn--`. Labels are in composed form and hold letters, marks,
digits and inner hyphens, and some characters between fitting neighbours; they keep to the rules of
writing direction.
-/
namespace MetricArchive.Url

inductive NameFault where
  | overlongDomain
  | emptyDomain
  | emptyLabel
  | overlongLabel
  | markHyphens
  | outerHyphen
  | uncomposed
  | firstMark
  | letter (c : Char) (position : Nat) (label : String)
  | joiner (c : Char) (position : Nat) (label : String)
  | context (c : Char) (position : Nat) (label : String)
  | direction (f : DirectionFault)
  | noContent
  | lastHyphen
  | invalid
  | notCanonical
  deriving DecidableEq, Repr

def capitalHexText (n : Nat) : String :=
  String.ofList ((Text.hex 4 n).map Char.toUpper)

def codePointText (c : Char) : String := "U+" ++ capitalHexText c.toNat

def NameFault.message : NameFault → String
  | .overlongDomain => "Domain too long"
  | .emptyDomain => "Empty domain"
  | .emptyLabel => "Empty Label"
  | .overlongLabel => "Label too long"
  | .markHyphens => "Label has disallowed hyphens in 3rd and 4th position"
  | .outerHyphen => "Label must not start or end with a hyphen"
  | .uncomposed => "Label must be in Normalization Form C"
  | .firstMark => "Label begins with an illegal combining character"
  | .letter c position label =>
    "Codepoint " ++ codePointText c ++ s!" at position {position} of " ++ Text.excerpt label ++
      " not allowed"
  | .joiner c position label =>
    "Joiner " ++ codePointText c ++ s!" not allowed at position {position} in " ++
      Text.excerpt label
  | .context c position label =>
    "Codepoint " ++ codePointText c ++ s!" not allowed at position {position} in " ++
      Text.excerpt label
  | .direction f => f.message
  | .noContent => "Malformed A-label, no Punycode eligible content found"
  | .lastHyphen => "A-label must not end with a hyphen"
  | .invalid => "Invalid A-label"
  | .notCanonical => "A-label is not the canonical Punycode encoding of its U-label"

def mark : List Char := ['x', 'n', '-', '-']

/-- The first character of a label that may not stand where it does. What is before it is given
backwards. -/
def letterFault? (label : String) (before : List Char) : List Char → Option NameFault
  | [] => none
  | c :: after =>
    let position := before.length + 1
    if isHostLetter c || isContextual c && contextStands c before after ||
        isJoiner c && joinerStands c before after then letterFault? label (c :: before) after
    else if isJoiner c then some (.joiner c position label)
    else if isContextual c then some (.context c position label)
    else some (.letter c position label)

def checkLabel (label : List Char) : Except NameFault Unit :=
  if label.isEmpty then .error .emptyLabel
  else if 254 < label.length then .error .overlongLabel
  else if !Text.isComposed label then .error .uncomposed
  else if (label.drop 2).take 2 == ['-', '-'] then .error .markHyphens
  else if label.head? == some '-' || label.getLast? == some '-' then .error .outerHyphen
  else if label.head?.any Text.isMark then .error .firstMark
  else
    match letterFault? (String.ofList label) [] label with
    | some f => .error f
    | none =>
      match directionFault? label with
      | some f => .error (.direction f)
      | none => .ok ()

def labelToUnicode (label : List Char) : Except NameFault (List Char) :=
  let small := label.map Char.toLower
  if mark.isPrefixOf small then
    let digits := small.drop mark.length
    if digits.isEmpty then .error .noContent
    else if digits.getLast? == some '-' then .error .lastHyphen
    else
      match Punycode.decode? digits with
      | none => .error .invalid
      | some text =>
        (checkLabel text).bind fun _ =>
          if Punycode.encode text == digits then .ok text else .error .notCanonical
  else (checkLabel small).map fun _ => small

def labelToAscii (label : List Char) : Except NameFault (List Char) :=
  if label.all Punycode.isPlain then
    (labelToUnicode label).bind fun _ =>
      if 63 < label.length then .error .overlongLabel else .ok label
  else
    (checkLabel label).bind fun _ =>
      let written := mark ++ Punycode.encode label
      if 63 < written.length then .error .overlongLabel else .ok written

/-- The dots between labels: the full stop and its wide and ideographic forms. -/
def isLabelDot (c : Char) : Bool := c == '.' || c == '。' || c == '．' || c == '｡'

/-- Labels without the empty one after a final dot, and whether there was a final dot. -/
def cutLabels (name : List Char) : List (List Char) × Bool :=
  let labels := Text.split '.' (name.map fun c => if isLabelDot c then '.' else c)
  if labels.getLast? == some [] then (labels.dropLast, true) else (labels, false)

/-- Takes every label to its other form and joins the results by dots. -/
def mapLabels (f : List Char → Except NameFault (List Char)) (name : List Char) :
    Except NameFault (List Char) :=
  if 254 < name.length then .error .overlongDomain
  else if name.isEmpty then .error .emptyDomain
  else
    let (labels, final) := cutLabels name
    (labels.mapM f).bind fun out =>
      let joined := ['.'].intercalate (out ++ if final then [[]] else [])
      if (if final then 254 else 253) < joined.length then .error .overlongDomain
      else .ok joined

def nameToAscii (name : List Char) : Except NameFault (List Char) := mapLabels labelToAscii name

/-- The Unicode form is as long as it comes out. -/
def nameToUnicode (name : List Char) : Except NameFault (List Char) :=
  if 254 < name.length then .error .overlongDomain
  else
    let (labels, final) := cutLabels name
    (labels.mapM labelToUnicode).map fun out =>
      ['.'].intercalate (out ++ if final then [[]] else [])

end MetricArchive.Url
