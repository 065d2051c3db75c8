/-!
# A cache with staged entries

Entries learned while a transaction is open are staged. They are kept when the transaction commits
and forgotten when it is rolled back.
-/
namespace MetricArchive

/-- A finite map as a list of pairs with distinct keys. -/
abbrev Entries (κ ν : Type) := List (κ × ν)

namespace Entries

variable {κ ν : Type} [DecidableEq κ]

def get? (e : Entries κ ν) (k : κ) : Option ν := (e.find? (·.1 = k)).map (·.2)

def put (e : Entries κ ν) (k : κ) (v : ν) : Entries κ ν :=
  if e.any (·.1 = k) then e.map fun p => if p.1 = k then (k, v) else p
  else e ++ [(k, v)]

end Entries

structure StagedCache (κ ν : Type) where
  committed : Entries κ ν
  staged : Entries κ ν
  deriving DecidableEq, Repr

namespace StagedCache

variable {κ ν : Type} [DecidableEq κ]

def empty : StagedCache κ ν := ⟨[], []⟩

/-- A staged entry hides a committed one. -/
def get? (c : StagedCache κ ν) (k : κ) : Option ν :=
  (c.staged.get? k).or (c.committed.get? k)

def stage (c : StagedCache κ ν) (k : κ) (v : ν) : StagedCache κ ν :=
  { c with staged := c.staged.put k v }

def commit (c : StagedCache κ ν) : StagedCache κ ν :=
  ⟨c.staged.foldl (fun e p => e.put p.1 p.2) c.committed, []⟩

def rollback (c : StagedCache κ ν) : StagedCache κ ν := { c with staged := [] }

def size (c : StagedCache κ ν) : Nat := c.committed.length

end StagedCache

end MetricArchive
