import MetricArchive.Event
import MetricArchive.Text.Case

/-!
# Logging levels by name

Some levels have two names. A name is looked up in capitals, and quiet operation raises a level to
that of warnings. One name is that of a format, which has no rank to be raised.
-/
namespace MetricArchive.LogLevel

inductive Setting where
  | rank (n : Nat)
  | format (text : String)
  deriving DecidableEq, Repr

def named : List (String × Setting) :=
  [("CRITICAL", .rank 50), ("FATAL", .rank 50), ("ERROR", .rank 40), ("WARNING", .rank 30),
    ("WARN", .rank 30), ("INFO", .rank 20), ("DEBUG", .rank 10), ("NOTSET", .rank 0),
    ("BASIC_FORMAT", .format "%(levelname)s:%(name)s:%(message)s")]

inductive Fault where
  /-- The capitals that name nothing. -/
  | unknown (capitals : String)
  | unranked
  deriving DecidableEq, Repr

def Fault.message : Fault → String
  | .unknown capitals => s!"module 'logging' has no attribute '{capitals}'"
  | .unranked => "'>' not supported between instances of 'int' and 'str'"

def resolve (name : String) (quiet : Bool) : Except Fault Setting :=
  let capitals := String.ofList (Text.upperCase name.toList)
  match named.lookup capitals, quiet with
  | none, _ => .error (.unknown capitals)
  | some (.rank n), true => .ok (.rank (max n Severity.warning.rank))
  | some (.format _), true => .error .unranked
  | some s, false => .ok s

end MetricArchive.LogLevel
