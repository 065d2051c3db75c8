import MetricArchive.Report.PictureNames
import MetricArchive.Text.Blank
import MetricArchive.Text.Case

/-!
# Pictures in text

A name between two colons stands for a picture if there is one of that name. Whether the picture is
to be shown in colours or as text may be said after a hyphen.
-/
namespace MetricArchive.Report.Picture

/-- The selectors of the forms of a picture. -/
def selectors : List (List Char × Char) :=
  [("-emoji".toList, '\ufe0f'), ("-text".toList, '\ufe0e')]

def named? (name : List Char) : Option (List Char) :=
  (pictureNames.lookup (String.ofList (Text.lowerCase name))).map String.toList

def ofCode? (code : List Char) : Option (List Char) :=
  match selectors.find? fun (ending, _) => ending.isSuffixOf code with
  | some (ending, selector) =>
    (named? (code.take (code.length - ending.length))).map (· ++ [selector])
  | none => named? code

/-- Puts pictures in the place of their codes. A colon that ends an unknown code starts no other. -/
def draw : List Char → List Char
  | [] => []
  | c :: rest =>
    if c == ':' then
      let code := rest.takeWhile fun d => d != ':' && !Text.isBlank d
      match _found : rest.drop code.length with
      | ':' :: after => (ofCode? code).getD (':' :: code ++ [':']) ++ draw after
      | _ => c :: draw rest
    else c :: draw rest
termination_by cs => cs.length
decreasing_by
  · have h := congrArg List.length _found
    simp only [List.length_drop, List.length_cons] at h
    simp only [List.length_cons]
    omega
  · simp
  · simp

end MetricArchive.Report.Picture
