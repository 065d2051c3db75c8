import MetricArchive.Text.Excerpt

/-!
# Why a YAML text has no value

Most texts without a value are not well formed. Others are, but name a value that does not exist;
such a fault is told apart, because it is not the text's form that is wrong.
-/
namespace MetricArchive.Yaml

inductive Fault where
  /-- The text is not well formed, or a tag has no value. -/
  | malformed
  /-- A value that does not exist. -/
  | impossible (message : String)
  /-- A word that should have been a yes or a no. -/
  | unknownWord (word : String)
  /-- A number without a character. -/
  | emptyNumber
  /-- A text that should have been a date or time. -/
  | notMoment
  /-- A mapping in the place of a date or time. -/
  | momentMapping
  /-- The code of a character that is too large even to be looked up. -/
  | hugeCode
  /-- A part of a number in base sixty that stands too far to the left. -/
  | hugePlace
  deriving DecidableEq, Repr

def Fault.message : Fault → String
  | .malformed => "malformed"
  | .impossible message => message
  | .unknownWord word => Text.excerpt word
  | .emptyNumber => "string index out of range"
  | .notMoment => "'NoneType' object has no attribute 'groupdict'"
  | .momentMapping => "expected string or bytes-like object, got 'list'"
  | .hugeCode => "Python int too large to convert to C int"
  | .hugePlace => "int too large to convert to float"

/-- What is not there makes a text malformed. -/
def require {α : Type} (o : Option α) : Except Fault α := o.elim (.error .malformed) .ok

end MetricArchive.Yaml
