import MetricArchive.Text.Split

/-!
# Paths

A path is a root and names. Repeated slashes, a slash at the end and single dots mean nothing and
are dropped; double dots are kept, because what they mean depends on the folders there are. Exactly
two slashes at the front are a root of their own.
-/
namespace MetricArchive

structure Path where
  /-- No slash for a relative path. -/
  root : String
  names : List String
  deriving DecidableEq, Repr

namespace Path

def rootOf (slashes : Nat) : String :=
  if slashes = 0 then "" else if slashes = 2 then "//" else "/"

def ofText (s : String) : Path :=
  let cs := s.toList
  let names := (Text.split '/' cs).filter fun n => n != [] && n != ['.']
  ⟨rootOf (cs.takeWhile (· == '/')).length, names.map String.ofList⟩

def text (p : Path) : String :=
  if p.root.isEmpty && p.names.isEmpty then "." else p.root ++ "/".intercalate p.names

def parent (p : Path) : Path := { p with names := p.names.dropLast }

def isRelative (p : Path) : Bool := p.root.isEmpty

/-- The names that are followed. A path without any is the folder that it starts from, and even that
one is looked up as a dot unless it is the root. -/
def steps (p : Path) : List String :=
  if p.isRelative && p.names.isEmpty then ["."] else p.names

/-- Where a path starts that is given in a folder. -/
def origin (p : Path) (folder : List String) : List String := if p.isRelative then folder else []

/-- Where a name leads from a folder. Above the root there is the root. -/
def move (folder : List String) (name : String) : List String :=
  if name == "." then folder else if name == ".." then folder.dropLast else folder ++ [name]

/-- Where people live: the one who runs the program, and others by name. -/
structure Homes where
  own : String
  others : List (String × String)
  deriving DecidableEq, Repr

/-- The home that a name with a tilde in front stands for. -/
def Homes.find? (h : Homes) (tilde : String) : Option String :=
  match tilde.toList with
  | ['~'] => some h.own
  | _ :: name => h.others.lookup (String.ofList name)
  | [] => none

def unknownHomeMessage : String := "Could not determine home directory."

/-- Replaces a tilde name at the front by the home it stands for; fails if there is none. -/
def expandHome? (homes : Homes) (p : Path) : Option Path :=
  match p.names with
  | first :: rest =>
    if p.isRelative && first.startsWith "~" then
      (homes.find? first).map fun home =>
        let base := ofText home
        ⟨base.root, base.names ++ rest⟩
    else some p
  | [] => some p

end Path

end MetricArchive
