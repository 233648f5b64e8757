import TypedPid.Keyed
import TypedPid.Lookup

/-!
The definitions that a cache keeps. A definition is served for as long as its lifetime lasts; when
there is no room for another one, the one that was stored first has to go.
-/
namespace TypedPid.Cache

structure Config where
  /-- How many definitions are kept; at least one is. -/
  maxEntries : Nat := 1000
  /-- How long a definition is served; without a lifetime, for ever. -/
  lifetime : Option Duration := some (.ofSeconds 600)
  loadTimeout : Duration := .ofSeconds 10

/-- A definition as it came from the registry, with the number of the load that delivered it. -/
structure Loaded where
  load : Nat
  definition : TypeDefinition

/-- A kept definition, with the time of storing it in nanoseconds. -/
structure Stored where
  loaded : Loaded
  storedAt : Nat

abbrev Entries := Keyed Stored

namespace Config

def capacity (c : Config) : Nat := max c.maxEntries 1

def isExpired (c : Config) (now : Nat) (s : Stored) : Bool :=
  c.lifetime.any fun lifetime => lifetime.nanoseconds ≤ now - s.storedAt

/-- Whether a definition stays where another one is stored, unless it has to make room. -/
def outlasts (c : Config) (now : Nat) (s : Stored) : Bool :=
  c.lifetime.all fun lifetime => now - s.storedAt < lifetime.nanoseconds

/-- What stays is just what is still served. -/
theorem outlasts_eq (c : Config) (now : Nat) (s : Stored) :
    c.outlasts now s = !c.isExpired now s := by
  cases h : c.lifetime with
  | none => simp [outlasts, isExpired, h]
  | some lifetime =>
    simp only [outlasts, isExpired, h, Option.all_some, Option.any_some, ← decide_not, Nat.not_le]

end Config

namespace Entries

def find (c : Config) (now : Nat) (identifier : String) (entries : Entries) : Option Loaded :=
  ((Keyed.lookup identifier entries).filter (!c.isExpired now ·)).map (·.loaded)

def purge (c : Config) (now : Nat) (entries : Entries) : Entries :=
  entries.filter (c.outlasts now ·.2)

def oldest : Entries → Option (String × Nat)
  | [] => none
  | (identifier, s) :: rest =>
    match oldest rest with
    | some (other, storedAt) =>
      if storedAt < s.storedAt then some (other, storedAt) else some (identifier, s.storedAt)
    | none => some (identifier, s.storedAt)

/-- Removes one old definition after another until there is room for one under `identifier`. -/
def makeRoom (capacity : Nat) (identifier : String) : (fuel : Nat) → Entries → Entries
  | 0, entries => entries
  | fuel + 1, entries =>
    if capacity ≤ entries.length ∧ !Keyed.contains identifier entries then
      match oldest entries with
      | some (first, _) => makeRoom capacity identifier fuel (Keyed.erase first entries)
      | none => entries
    else entries

def store (c : Config) (now : Nat) (identifier : String) (loaded : Loaded) (entries : Entries) :
    Entries :=
  let entries := purge c now entries
  Keyed.insert identifier ⟨loaded, now⟩
    (makeRoom c.capacity identifier entries.length entries)

end Entries
end TypedPid.Cache
