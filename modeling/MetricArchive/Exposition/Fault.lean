import MetricArchive.Text.Integer

/-!
# Why an exposition is refused

A fault is a line number, a cause and the text at which reading stopped; line 0 stands for the
payload as a whole. A breakdown is a number that has the form of one and still cannot be read; it
has no line, and nothing above the reader turns it into a fault.
-/
namespace MetricArchive.Exposition

inductive Keyword where
  | help
  | type
  deriving DecidableEq, Repr

def Keyword.word : Keyword → String
  | .help => "HELP"
  | .type => "TYPE"

inductive Cause where
  | notUtf8 (position : Nat)
  | missingMetricName (keyword : Keyword)
  | invalidMetricName
  | afterSamples (keyword : Keyword) (metric : String)
  | missingKind
  | unknownKind
  | missingValue
  | surplusToken
  | unterminatedLabels
  | invalidLabelName
  | missingEquals
  | unquotedValue
  | invalidEscape
  | unterminatedValue
  | duplicateLabel
  | missingSeparator
  | notANumber
  | notAnInteger
  | outOfRange
  deriving DecidableEq, Repr

def Cause.reason : Cause → String
  | .notUtf8 position => s!"payload is not valid UTF-8 at byte {position}"
  | .missingMetricName keyword => keyword.word ++ " line without metric name"
  | .invalidMetricName => "invalid metric name"
  | .afterSamples keyword metric => keyword.word ++ " line after samples of " ++ metric
  | .missingKind => "TYPE line without metric type"
  | .unknownKind => "unknown metric type"
  | .missingValue => "missing sample value"
  | .surplusToken => "unexpected token after sample"
  | .unterminatedLabels => "unterminated label set"
  | .invalidLabelName => "invalid label name"
  | .missingEquals => "expected '=' after label name"
  | .unquotedValue => "label value must be quoted"
  | .invalidEscape => "invalid escape in label value"
  | .unterminatedValue => "unterminated label value"
  | .duplicateLabel => "duplicate label name"
  | .missingSeparator => "expected ',' or '\x7d' in label set"
  | .notANumber => "sample value is not a number"
  | .notAnInteger => "timestamp is not an integer"
  | .outOfRange => "timestamp out of range"

structure Fault where
  line : Nat
  cause : Cause
  token : String
  deriving DecidableEq, Repr

/-- A reason with its line, and with the token that it concerns unless that is empty. -/
def faultMessage (line : Int) (reason token : String) : String :=
  s!"line {line}: {reason}" ++ (if token = "" then "" else " (near " ++ Text.excerpt token ++ ")")

def Fault.message (f : Fault) : String := faultMessage f.line f.cause.reason f.token

inductive Breakdown where
  | unreadableNumber (token : String)
  | oversizedInteger (digits : Nat)
  deriving DecidableEq, Repr

def Breakdown.message : Breakdown → String
  | .unreadableNumber token => "could not convert string to float: " ++ Text.excerpt token
  | .oversizedInteger digits => Text.oversizedMessage digits

/-- The outcome of a reading that found no exposition. -/
inductive Refusal where
  | fault (f : Fault)
  | breakdown (b : Breakdown)
  deriving DecidableEq, Repr

/-- A fault inside one line, the line number still unknown. -/
inductive LineRefusal where
  | fault (cause : Cause) (token : List Char)
  | breakdown (b : Breakdown)
  deriving DecidableEq, Repr

def LineRefusal.at (line : Nat) : LineRefusal → Refusal
  | .fault cause token => .fault ⟨line, cause, String.ofList token⟩
  | .breakdown b => .breakdown b

end MetricArchive.Exposition
