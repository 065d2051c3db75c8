import MetricArchive.Report.Picture
import MetricArchive.Report.Style

/-!
# Marked-up text

Words in square brackets are tags that style what follows, up to the tag that closes them. Where
nothing can be styled a tag leaves no trace, but one that closes what was never opened is refused. A
backslash before a bracket keeps it from starting a tag. Codes between tags become pictures.
-/
namespace MetricArchive.Report

inductive MarkupFault where
  /-- A closing tag without a name where nothing is open, and its position. -/
  | nothingOpen (position : Nat)
  /-- A closing tag that closes nothing: the tag and its position. -/
  | unmatched (tag : String) (position : Nat)
  | color (f : Text.IntegerFault)
  deriving DecidableEq, Repr

def MarkupFault.message : MarkupFault → String
  | .nothingOpen position => s!"closing tag '[/]' at position {position} has nothing to close"
  | .unmatched tag position =>
    s!"closing tag '{tag}' at position {position} doesn't match any open tag"
  | .color f => f.message

namespace Markup

def startsTag (c : Char) : Bool := ('a' ≤ c && c ≤ 'z') || c == '#' || c == '/' || c == '@'

/-- The tag whose opening bracket has been read, and what follows its closing bracket. -/
def takeTag? : List Char → Option (List Char × List Char)
  | [] => none
  | c :: rest =>
    if !startsTag c then none
    else
      match rest.dropWhile fun d => d != '[' && d != ']' with
      | ']' :: after => some (c :: rest.takeWhile fun d => d != '[' && d != ']', after)
      | _ => none

inductive Piece where
  | text (cs : List Char)
  | tag (body : List Char) (position : Nat)
  deriving DecidableEq, Repr

/-- The pieces of a text from a position on, after some text that is given backwards, in at most so
many steps. Of the backslashes before a tag every other one is shown, and an odd number keeps the tag
as text. -/
def pieces : (count position : Nat) → (before : List Char) → List Char → List Piece
  | 0, _, before, _ | _, _, before, [] => [.text before.reverse]
  | n + 1, position, before, c :: rest =>
    let slashes := (c :: rest).takeWhile (· == '\\')
    match (c :: rest).drop slashes.length with
    | '[' :: more =>
      let start := position + slashes.length
      match takeTag? more with
      | some (body, after) =>
        let bracket := if slashes.length % 2 = 0 then .tag body start
          else .text ('[' :: body ++ [']'])
        [.text before.reverse, .text (slashes.take (slashes.length / 2)), bracket] ++
          pieces n (start + body.length + 2) [] after
      | none => pieces n (start + 1) ('[' :: slashes ++ before) more
    | _ => pieces n (position + 1) (c :: before) rest

def dropSlashes : List Char → List Char
  | '\\' :: '[' :: rest => '[' :: dropSlashes rest
  | c :: rest => c :: dropSlashes rest
  | [] => []

def styleName (cs : List Char) : Except MarkupFault String :=
  match Style.canonical cs with
  | .ok name => .ok name
  | .error (.part f) => .error (.color f)
  | .error .unknown => .ok (String.ofList cs)

def tagName (body : List Char) : List Char := body.takeWhile (· != '=')

/-- The styles that are open after a closing tag, innermost first. -/
def close (styles : List String) (body closing : List Char) (position : Nat) :
    Except MarkupFault (List String) :=
  if (Text.trim closing).isEmpty then
    match styles with
    | [] => .error (.nothingOpen position)
    | _ :: outer => .ok outer
  else
    (styleName (Text.trim closing)).bind fun name =>
      if styles.contains name then .ok (styles.erase name)
      else .error (.unmatched (String.ofList ('[' :: body ++ [']'])) position)

/-- The text of the pieces when some styles are open, innermost first. -/
def joined (styles : List String) : List Piece → Except MarkupFault (List Char)
  | [] => .ok []
  | .text cs :: rest => (joined styles rest).map (Picture.draw (dropSlashes cs) ++ ·)
  | .tag body position :: rest =>
    match tagName body with
    | '/' :: closing => (close styles body closing position).bind fun styles => joined styles rest
    | name => (styleName name).bind fun style => joined (style :: styles) rest

def shown (s : String) : Except MarkupFault String :=
  let cs := s.toList
  (joined [] (pieces cs.length 0 [] cs)).map String.ofList

end Markup

end MetricArchive.Report
