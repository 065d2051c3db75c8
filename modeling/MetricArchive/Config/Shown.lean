import MetricArchive.Config.Value
import MetricArchive.Number.Layout
import MetricArchive.Text.Excerpt

/-!
# Values in full

The text of a value as part of another: texts and bytes are quoted, and dates and times are spelled
out by their parts.
-/
namespace MetricArchive.ConfigValue

def separated (parts : List String) : String := ", ".intercalate parts

/-- The parts of a span that are not zero; there has to be one. -/
def spanText (s : Span) : String :=
  let fields := [("days", s.days), ("seconds", s.seconds), ("microseconds", s.micros)]
  let parts := (fields.filter (·.2 ≠ 0)).map fun (name, n) => name ++ "=" ++ toString n
  s!"datetime.timedelta({separated parts})"

def zoneText (offset : Int) : String :=
  if offset = 0 then "datetime.timezone.utc"
  else s!"datetime.timezone({spanText (.ofMicros offset)})"

def dateShown (d : Date) : String := s!"datetime.date({d.year}, {d.month}, {d.day})"

/-- Seconds and their fraction are left out at the end if they are zero. -/
def momentShown (m : Moment) : String :=
  let seconds := Int.fdiv m.wall 1000000
  let fraction := Int.fmod m.wall 1000000
  let date := Date.ofDayNumber (Int.fdiv seconds 86400)
  let clock := Int.fmod seconds 86400
  let second := clock % 60
  let tail := if fraction ≠ 0 then [toString second, toString fraction]
    else if second ≠ 0 then [toString second] else []
  let parts := [toString date.year, toString date.month, toString date.day,
    toString (clock / 3600), toString (clock / 60 % 60)] ++ tail ++
    m.offset.toList.map fun o => "tzinfo=" ++ zoneText o
  s!"datetime.datetime({separated parts})"

def byteShown (quote : Char) (b : UInt8) : List Char :=
  let c := Char.ofNat b.toNat
  if b < 0x7f then Text.escapeChar quote c else '\\' :: 'x' :: Text.hex 2 b.toNat

def bytesShown (bs : List UInt8) : String :=
  let quote := Text.excerptQuote (bs.map fun b => Char.ofNat b.toNat)
  String.ofList ('b' :: quote :: (bs.flatMap (byteShown quote) ++ [quote]))

mutual

def shown : ConfigValue → String
  | .null => "None"
  | .flag b => if b then "True" else "False"
  | .whole n => toString n
  | .number x => NumberLayout.plain.write x
  | .text s => Text.excerpt s
  | .bytes bs => bytesShown bs
  | .date d => dateShown d
  | .moment m => momentShown m
  | .list items => "[" ++ separated (shownAll items) ++ "]"
  | .mapping entries => "\x7b" ++ separated (shownEntries entries) ++ "\x7d"
  | .pair key value => "(" ++ separated [shown key, shown value] ++ ")"
  | .set [] => "set()"
  | .set members => "\x7b" ++ separated (shownAll members) ++ "\x7d"
  | .enclosing isMapping => if isMapping then "\x7b...\x7d" else "[...]"

def shownAll : List ConfigValue → List String
  | [] => []
  | v :: rest => shown v :: shownAll rest

def shownEntries : List (ConfigValue × ConfigValue) → List String
  | [] => []
  | (k, v) :: rest => (shown k ++ ": " ++ shown v) :: shownEntries rest

end

def display : ConfigValue → String
  | .text s => s
  | v => v.shown

end MetricArchive.ConfigValue
