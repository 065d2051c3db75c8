import MetricArchive.Config.Value
import MetricArchive.Number.Numeral
import MetricArchive.Text.Split
import MetricArchive.Text.Utf8
import MetricArchive.Url.Address

/-!
# Reading a setting's value

A setting takes values of its own type and of types that lose nothing: a number may be written as
text, a whole number with a point and zeros, and a yes or no as a word, a zero or a one. Bounds are
checked afterwards.
-/
namespace MetricArchive

inductive SettingFault where
  | greaterThan
  | greaterThanEqual
  | lessThanEqual
  | intParsing
  | intParsingSize
  | intFromFloat
  | intType
  | finiteNumber
  | floatParsing
  | floatType
  | boolParsing
  | boolType
  | stringType
  | stringUnicode
  | pathType
  | literalError
  deriving DecidableEq, Repr

def SettingFault.name : SettingFault → String
  | .greaterThan => "greater_than"
  | .greaterThanEqual => "greater_than_equal"
  | .lessThanEqual => "less_than_equal"
  | .intParsing => "int_parsing"
  | .intParsingSize => "int_parsing_size"
  | .intFromFloat => "int_from_float"
  | .intType => "int_type"
  | .finiteNumber => "finite_number"
  | .floatParsing => "float_parsing"
  | .floatType => "float_type"
  | .boolParsing => "bool_parsing"
  | .boolType => "bool_type"
  | .stringType => "string_type"
  | .stringUnicode => "string_unicode"
  | .pathType => "path_type"
  | .literalError => "literal_error"

namespace ConfigValue

/-- A text, or bytes that are one. -/
def text? (unreadable : SettingFault) : ConfigValue → Option (Except SettingFault (List Char))
  | .text s => some (.ok s.toList)
  | .bytes bs => some ((Text.Utf8.decode bs).mapError fun _ => unreadable)
  | _ => none

/-- Passes the zeros in front of a number, and underscores among them. Of zeros alone the last
character is left, and before a point one zero. -/
def dropLeadingZeros? (last : Char) : List Char → Option (List Char)
  | [] => some [last]
  | c :: rest =>
    if c == '0' || c == '_' then dropLeadingZeros? c rest
    else if Url.isAsciiDigit c || c == '-' then some (c :: rest)
    else if c == '.' then some (last :: c :: rest)
    else none

/-- A number begins with a digit or a minus. -/
def withoutLeadingZeros? : List Char → Option (List Char)
  | [] => none
  | c :: rest =>
    if c == '0' then dropLeadingZeros? c rest
    else if Url.isAsciiDigit c || c == '-' then some (c :: rest)
    else none

def dropZeroFraction (cs : List Char) : List Char :=
  match Text.cutAt '.' cs with
  | (front, some (c :: fraction)) => if (c :: fraction).all (· == '0') then front else cs
  | _ => cs

/-- A text without its underscores, if it has any and they stand apart and inside it. -/
def dropUnderscores? (cs : List Char) : Option (List Char) :=
  if cs.contains '_' && cs.head? != some '_' && cs.getLast? != some '_' &&
      (Text.cutAtPhrase? ['_', '_'] cs).isNone then
    some (cs.filter (· != '_'))
  else none

/-- The number of characters that a whole number may have. -/
def textLimit : Nat := 4300

/-- A whole number without any padding: no zero in front of other digits. Too many digits are the
first fault to be seen. -/
def plainWhole (cs : List Char) : Except SettingFault Int :=
  let negative := cs.head? == some '-'
  let body := if negative then cs.drop 1 else cs
  let digits := body.takeWhile Url.isAsciiDigit
  if digits.isEmpty || (digits.head? == some '0' && 1 < body.length) then .error .intParsing
  else if textLimit < digits.length + negative.toNat then .error .intParsingSize
  else if digits.length < body.length then .error .intParsing
  else
    let n : Int := Text.digitsValue digits
    .ok (if negative then -n else n)

/-- Takes off what may surround a whole number: blanks, a plus, zeros, a point and underscores. -/
def bareWhole? (cs : List Char) : Option (List Char) :=
  let body := match Text.dropPadding cs with
    | '+' :: '-' :: _ => none
    | '+' :: rest => some rest
    | rest => some rest
  (body.bind withoutLeadingZeros?).map fun cs =>
    let cs := dropZeroFraction cs
    (dropUnderscores? cs).getD cs

def wholeOfText (cs : List Char) : Except SettingFault Int :=
  (bareWhole? cs).elim (.error .intParsing) plainWhole

/-- The whole number that a number is, if it is one. -/
def integral? (x : Binary64) : Option Int :=
  match x.toRat? with
  | some r => if r.den = 1 then some r.num else none
  | none => none

/-- Whole numbers of smaller size than this are read from numbers. -/
def wholeBound : Nat := Binary64.signBit

def wholeOfNumber (x : Binary64) : Except SettingFault Int :=
  if x.toRat?.isNone then .error .finiteNumber
  else
    match integral? x with
    | none => .error .intFromFloat
    | some n => if n.natAbs < wholeBound then .ok n else .error .intParsingSize

def asWhole (v : ConfigValue) : Except SettingFault Int :=
  match v.text? .intParsing, v with
  | some s, _ => s.bind wholeOfText
  | none, .whole n => .ok n
  | none, .flag b => .ok b.toNat
  | none, .number x => wholeOfNumber x
  | none, _ => .error .intType

/-- A numeral in ASCII digits, or a spelled infinity or NaN, with an optional sign. -/
def numberOfNumeral? (cs : List Char) : Option Binary64 :=
  let (negative, body) := Text.takeSign cs
  if body.contains '_' || !body.all fun c => c.toNat < 0x80 then none
  else Binary64.ofUnsigned? negative body

/-- A numeral with blanks around it, or one with underscores and no blanks. -/
def numberOfText (cs : List Char) : Except SettingFault Binary64 :=
  match numberOfNumeral? (Text.dropPadding cs) <|> (dropUnderscores? cs).bind numberOfNumeral? with
  | some x => .ok x
  | none => .error .floatParsing

def asNumber (v : ConfigValue) : Except SettingFault Binary64 :=
  match v.text? .floatParsing, v with
  | some s, _ => s.bind numberOfText
  | none, .number x => .ok x
  | none, .whole n =>
    match Binary64.ofInt n with
    | .infinite _ => .error .floatType
    | x => .ok x
  | none, .flag b => .ok (.ofInt b.toNat)
  | none, _ => .error .floatType

def trueWords : List String := ["1", "t", "y", "on", "yes", "true"]

def falseWords : List String := ["0", "f", "n", "no", "off", "false"]

def flagOfWhole (n : Int) : Except SettingFault Bool :=
  if n = 0 then .ok false else if n = 1 then .ok true
  else if n.natAbs < wholeBound || n = -(wholeBound : Int) then .error .boolParsing
  else .error .boolType

def flagOfText (cs : List Char) : Except SettingFault Bool :=
  let word := String.ofList (cs.map Char.toLower)
  if trueWords.contains word then .ok true
  else if falseWords.contains word then .ok false
  else .error .boolParsing

def asFlag (v : ConfigValue) : Except SettingFault Bool :=
  match v.text? .boolParsing, v with
  | some s, _ => s.bind flagOfText
  | none, .flag b => .ok b
  | none, .whole n => flagOfWhole n
  | none, .number x =>
    match wholeOfNumber x with
    | .ok n => flagOfWhole n
    | .error _ => .error .boolType
  | none, _ => .error .boolType

def asText (v : ConfigValue) : Except SettingFault String :=
  match v.text? .stringUnicode with
  | some s => s.map String.ofList
  | none => .error .stringType

def asPath : ConfigValue → Except SettingFault String
  | .text s => .ok s
  | _ => .error .pathType

/-- Nothing, or a value that a reader takes. -/
def asOptional {α : Type} (read : ConfigValue → Except SettingFault α) :
    ConfigValue → Except SettingFault (Option α)
  | .null => .ok none
  | v => (read v).map some

def asOneOf (words : List String) : ConfigValue → Except SettingFault String
  | .text s => if words.contains s then .ok s else .error .literalError
  | _ => .error .literalError

def asPositive (v : ConfigValue) : Except SettingFault Binary64 :=
  (asNumber v).bind fun x => if .zero < x then .ok x else .error .greaterThan

def asAtLeast (least : Int) (v : ConfigValue) : Except SettingFault Int :=
  (asWhole v).bind fun n => if n < least then .error .greaterThanEqual else .ok n

def asBetween (least greatest : Int) (v : ConfigValue) : Except SettingFault Int :=
  (asWhole v).bind fun n =>
    if greatest < n then .error .lessThanEqual
    else if n < least then .error .greaterThanEqual
    else .ok n

end ConfigValue

end MetricArchive
