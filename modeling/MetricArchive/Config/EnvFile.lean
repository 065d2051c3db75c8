import MetricArchive.Text.Blank
import MetricArchive.Text.Split

/-!
# Files of environment variables

A line gives a name a value: plain up to a comment or the end of the line, or between quotes, where
it may go over several lines. A line that cannot be read is passed over. A dollar sign with a name
in braces stands for the value of another variable, given earlier or outside.
-/
namespace MetricArchive.EnvFile

open Text (isBlank)

def isBreak (c : Char) : Bool := c == '\n' || c == '\r'

def isInlineBlank (c : Char) : Bool := isBlank c && !isBreak c

def skipInline (cs : List Char) : List Char := cs.dropWhile isInlineBlank

def nextLine (cs : List Char) : List Char :=
  match cs.dropWhile (!isBreak ·) with
  | [] => []
  | _ :: rest => rest

/-- A quoted value up to its closing quote; what stands after a backslash does not close it. -/
def takeQuoted? (quote : Char) : List Char → Option (List Char × List Char)
  | [] => none
  | '\\' :: c :: rest => (takeQuoted? quote rest).map fun (value, tail) => ('\\' :: c :: value, tail)
  | c :: rest =>
    if c == quote then some ([], rest)
    else (takeQuoted? quote rest).map fun (value, tail) => (c :: value, tail)

/-- What letters after a backslash stand for between double quotes. -/
def letterEscapes : List (Char × Char) :=
  [('a', '\x07'), ('b', '\x08'), ('f', '\x0c'), ('n', '\n'), ('r', '\r'), ('t', '\t'),
    ('v', '\x0b'), ('"', '"'), ('\'', '\''), ('\\', '\\')]

def singleEscapes : List (Char × Char) := [('\'', '\''), ('\\', '\\')]

def resolveEscapes (known : List (Char × Char)) : List Char → List Char
  | '\\' :: c :: rest =>
    match known.lookup c with
    | some x => x :: resolveEscapes known rest
    | none => '\\' :: resolveEscapes known (c :: rest)
  | c :: rest => c :: resolveEscapes known rest
  | [] => []

/-- A plain value without the comment that a blank and a number sign begin. -/
def dropComment : List Char → List Char
  | [] => []
  | c :: rest =>
    if isBlank c && (rest.dropWhile isBlank).head? == some '#' then [] else c :: dropComment rest

/-- A value after its equals sign, blanks before it included. -/
def takeValue? (cs : List Char) : Option (List Char × List Char) :=
  match skipInline cs with
  | '\'' :: rest => (takeQuoted? '\'' rest).map fun (v, tail) => (resolveEscapes singleEscapes v, tail)
  | '"' :: rest => (takeQuoted? '"' rest).map fun (v, tail) => (resolveEscapes letterEscapes v, tail)
  | _ => some (Text.trimEnd (skipInline (dropComment (cs.takeWhile (!isBreak ·)))),
      cs.dropWhile (!isBreak ·))

/-- A name, plain or between single quotes; none at a comment. -/
def takeName? (cs : List Char) : Option (Option (List Char) × List Char) :=
  match cs with
  | '#' :: _ => some (none, cs)
  | '\'' :: rest =>
    match Text.cutAt '\'' rest with
    | (_ :: _, none) | ([], _) => none
    | (name, some tail) => some (some name, tail)
  | cs =>
    let name := cs.takeWhile fun c => !(c == '=' || c == '#' || isBlank c)
    if name.isEmpty then none else some (some name, cs.drop name.length)

def dropExport (cs : List Char) : List Char :=
  match cs with
  | 'e' :: 'x' :: 'p' :: 'o' :: 'r' :: 't' :: c :: rest =>
    if isInlineBlank c then skipInline rest else cs
  | _ => cs

/-- Passes a comment and the end of the line. -/
def endLine? (cs : List Char) : Option (List Char) :=
  let rest := skipInline cs
  let rest := if rest.head? == some '#' then rest.dropWhile (!isBreak ·) else rest
  match rest with
  | [] => some []
  | '\r' :: '\n' :: more => some more
  | c :: more => if isBreak c then some more else none

/-- A name with its value, if it has one, and the rest of the file; the rest alone where nothing
could be read. -/
def takeBinding (cs : List Char) : Option (List Char × Option (List Char)) × List Char :=
  let cs := dropExport (Text.trimStart cs)
  match takeName? cs with
  | none => (none, nextLine cs)
  | some (name, rest) =>
    let rest := skipInline rest
    let valued := rest.head? == some '='
    let body := if valued then rest.drop 1 else rest
    match if valued then (takeValue? body).map fun (v, tail) => (some v, tail) else some (none, body) with
    | none => (none, nextLine body)
    | some (value, tail) =>
      match endLine? tail with
      | some rest => (name.map (·, value), rest)
      | none => (none, nextLine tail)

/-- All bindings in order; the first argument bounds their number. -/
def bindings : Nat → List Char → List (List Char × Option (List Char))
  | 0, _ => []
  | n + 1, cs =>
    if cs.isEmpty then []
    else
      let (binding, rest) := takeBinding cs
      binding.toList ++ bindings n rest

/-- What stands between braces: a name, and perhaps what to take if there is no such variable. -/
def takeReference? (cs : List Char) : Option (String × String × List Char) :=
  let name := cs.takeWhile fun c => c != '\x7d' && c != ':'
  match cs.drop name.length with
  | '\x7d' :: rest => some (String.ofList name, "", rest)
  | ':' :: '-' :: more =>
    match Text.cutAt '\x7d' more with
    | (fallback, some rest) => some (String.ofList name, String.ofList fallback, rest)
    | (_, none) => none
  | _ => none

/-- Replaces the references in a value; a variable may be there and have no value. -/
def expand (lookup : String → Option (Option String)) : Nat → List Char → List Char
  | 0, cs => cs
  | _, [] => []
  | n + 1, '$' :: '\x7b' :: rest =>
    match takeReference? rest with
    | some (name, fallback, more) =>
      (((lookup name).getD fallback).getD "").toList ++ expand lookup n more
    | none => '$' :: expand lookup n ('\x7b' :: rest)
  | n + 1, c :: rest => c :: expand lookup n rest

/-- Variables by name, each once, some without a value. -/
abbrev Variables := List (String × Option String)

/-- Gives a variable a value; one that is there already keeps its place. -/
def Variables.assign (l : Variables) (name : String) (value : Option String) : Variables :=
  if l.any (·.1 == name) then l.map fun e => if e.1 == name then (name, value) else e
  else l ++ [(name, value)]

/-- The variables of a file, references to variables around it included. -/
def read (outside : List (String × String)) (text : List Char) : Variables :=
  (bindings (text.length + 1) text).foldl (fun (done : Variables) (name, value) =>
    let lookup := fun key => done.lookup key <|> (outside.lookup key).map some
    done.assign (String.ofList name) (value.map fun v =>
      String.ofList (expand lookup (v.length + 1) v))) []

end MetricArchive.EnvFile
