import TypedPid.Address.Ip
import TypedPid.Text.Hex

/-!
Socket addresses: an internet address and a port. Decimal numbers of an address have no leading
zeros; those of a port may have some.
-/
namespace TypedPid

inductive SocketAddress where
  | v4 (address : Ipv4) (port : Nat)
  | v6 (address : Ipv6) (scope port : Nat)

namespace SocketAddress

def decimal (ds : List Char) : Nat := ds.foldl (fun n c => 10 * n + (c.toNat - '0'.toNat)) 0

def number? (bound : Nat) (cs : List Char) : Option (Nat × List Char) :=
  let (ds, rest) := cs.span Char.isDigit
  if ds ≠ [] ∧ decimal ds < bound then some (decimal ds, rest) else none

def octet? (cs : List Char) : Option (Nat × List Char) :=
  let ds := cs.takeWhile Char.isDigit
  if ds.length ≤ 3 ∧ (ds.head? ≠ some '0' ∨ ds.length = 1) then number? 256 cs else none

def group? (cs : List Char) : Option (Nat × List Char) :=
  let (ds, rest) := cs.span Hex.isDigit
  if 1 ≤ ds.length ∧ ds.length ≤ 4 then some (Hex.value ds, rest) else none

def after? (c : Char) : List Char → Option (List Char)
  | [] => none
  | c' :: cs => if c' = c then some cs else none

def ipv4? (cs : List Char) : Option (Ipv4 × List Char) := do
  let (a, cs) ← octet? cs
  let (b, cs) ← octet? (← after? '.' cs)
  let (c, cs) ← octet? (← after? '.' cs)
  let (d, cs) ← octet? (← after? '.' cs)
  return (⟨a, b, c, d⟩, cs)

/-- Reads up to `limit` groups with colons between them. The last two can be written as an address
of the older kind, which ends the row; the second part of the answer says so. -/
def groups : (limit : Nat) → (first : Bool) → List Char → List Nat × Bool × List Char
  | 0, _, cs => ([], false, cs)
  | limit + 1, first, cs =>
    let start := if first then some cs else after? ':' cs
    match if limit = 0 then none else start.bind ipv4? with
    | some (x, rest) => (x.groups, true, rest)
    | none =>
      match start.bind group? with
      | none => ([], false, cs)
      | some (g, rest) =>
        let (gs, ended, rest) := groups limit false rest
        (g :: gs, ended, rest)

/-- Two colons stand for one or more groups of zeros. -/
def ipv6? (cs : List Char) : Option (Ipv6 × List Char) := do
  let (front, ended, rest) := groups 8 true cs
  if front.length = 8 then return (⟨front⟩, rest)
  else if ended then none
  else
    let rest ← after? ':' (← after? ':' rest)
    let (back, _, rest) := groups (7 - front.length) true rest
    return (⟨front ++ List.replicate (8 - front.length - back.length) 0 ++ back⟩, rest)

def port? (cs : List Char) : Option Nat := do
  let (port, rest) ← number? (Nat.pow 2 16) (← after? ':' cs)
  if rest = [] then some port else none

def scope? (cs : List Char) : Option (Nat × List Char) := do
  number? (Nat.pow 2 32) (← after? '%' cs)

def v4? (cs : List Char) : Option SocketAddress := do
  let (address, rest) ← ipv4? cs
  return .v4 address (← port? rest)

def v6? (cs : List Char) : Option SocketAddress := do
  let (address, rest) ← ipv6? (← after? '[' cs)
  let (scope, rest) := (scope? rest).getD (0, rest)
  return .v6 address scope (← port? (← after? ']' rest))

def ofText? (text : String) : Option SocketAddress := (v4? text.toList).or (v6? text.toList)

/-- An address of the newer kind that stands for one of the older kind shows it. -/
def ipv6Text (x : Ipv6) : String :=
  match x.mapped? with
  | some y => "::ffff:" ++ y.text
  | none => x.text

def text : SocketAddress → String
  | v4 address port => address.text ++ ":" ++ toString port
  | v6 address scope port =>
    "[" ++ ipv6Text address ++ (if scope = 0 then "" else "%" ++ toString scope) ++ "]:" ++
      toString port

end SocketAddress
end TypedPid
