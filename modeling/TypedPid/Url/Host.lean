import TypedPid.Url.Basic
import TypedPid.Url.Domain

/-!
Hosts. A name whose last part is a number is an internet address, written with one to four numbers
in base 8, 10 or 16; in brackets stands an address of the newer kind.
-/
namespace TypedPid.Host

/-- The digits of a number without the sign of its base, and the base. -/
def basedDigits : List Char → Nat × List Char
  | '0' :: 'x' :: cs => (16, cs)
  | '0' :: 'X' :: cs => (16, cs)
  | '0' :: c :: cs => (8, c :: cs)
  | cs => (10, cs)

/-- A number of an address; without digits behind the sign of the base it is zero. -/
def number? (cs : List Char) : Option Nat :=
  let (base, ds) := basedDigits cs
  if cs = [] then none
  else if ds.all fun c => (Hex.digit? c).any (· < base) then
    some (ds.foldl (fun n c => base * n + (Hex.digit? c).getD 0) 0)
  else none

def parts : List Char → List (List Char)
  | [] => [[]]
  | c :: cs =>
    if c = '.' then [] :: parts cs
    else
      match parts cs with
      | [] => [[c]]
      | p :: ps => (c :: p) :: ps

def withoutFinalDot (ps : List (List Char)) : List (List Char) :=
  if ps.getLast? = some [] then ps.dropLast else ps

def endsInNumber (cs : List Char) : Bool :=
  match (withoutFinalDot (parts cs)).getLast? with
  | none => false
  | some last => (last ≠ [] && last.all Char.isDigit) || (number? last).isSome

/-- The last number fills all the places that the others leave. -/
def ofNumbers? (ns : List Nat) : Option Ipv4 :=
  match ns.reverse with
  | [] => none
  | last :: front =>
    if 4 < ns.length ∨ Nat.pow 256 (5 - ns.length) ≤ last ∨ front.any (256 ≤ ·) then none
    else
      let high := (front.reverse ++ List.replicate (4 - front.length) 0).foldl (256 * · + ·) 0
      some (Ipv4.ofNat (high + last))

def ipv4? (cs : List Char) : Option Ipv4 :=
  ((withoutFinalDot (parts cs)).mapM number?).bind ofNumbers?

/-- A number from 0 to 255 without leading zeros, and what follows. -/
def octet? (cs : List Char) : Option (Nat × List Char) :=
  let (ds, rest) := cs.span Char.isDigit
  let n := ds.foldl (fun n c => 10 * n + (c.toNat - '0'.toNat)) 0
  if ds ≠ [] ∧ n ≤ 255 ∧ (ds.head? ≠ some '0' ∨ ds.length = 1) then some (n, rest) else none

def finalOctets? (cs : List Char) : Option (List Nat) := do
  match ← octet? cs with
  | (a, '.' :: cs) =>
    match ← octet? cs with
    | (b, '.' :: cs) =>
      match ← octet? cs with
      | (c, '.' :: cs) =>
        match ← octet? cs with
        | (d, []) => some (Ipv4.groups ⟨a, b, c, d⟩)
        | _ => none
      | _ => none
    | _ => none
  | _ => none

/-- Reads the groups of an address, where `found` holds those before, the last one first, and `gap`
says how many of them stand before the two colons. -/
def groups? (found : List Nat) (gap : Option Nat) :
    (fuel : Nat) → List Char → Option (List Nat × Option Nat)
  | _, [] => some (found.reverse, gap)
  | 0, _ => none
  | fuel + 1, cs =>
    let place := found.length + (if gap.isSome then 1 else 0)
    if 8 ≤ place then none
    else if cs.head? = some ':' then
      if gap.isSome then none else groups? found (some found.length) fuel (cs.drop 1)
    else
      let ds := (cs.take 4).takeWhile Hex.isDigit
      match cs.drop ds.length with
      | [] => groups? (Hex.value ds :: found) gap fuel []
      | ':' :: rest => if rest = [] then none else groups? (Hex.value ds :: found) gap fuel rest
      | '.' :: _ =>
        if ds = [] ∨ 6 < place then none
        else (finalOctets? cs).map fun gs => (found.reverse ++ gs, gap)
      | _ => none

/-- The address between the brackets. The two colons stand for one or more groups of zeros. -/
def ipv6? (cs : List Char) : Option Ipv6 := do
  let start ← match cs with
    | ':' :: ':' :: rest => groups? [] (some 0) rest.length rest
    | ':' :: _ => none
    | [] => none
    | cs => groups? [] none cs.length cs
  match start with
  | (gs, none) => if gs.length = 8 then some ⟨gs⟩ else none
  | (gs, some gap) =>
    if 8 ≤ gs.length then none
    else some ⟨gs.take gap ++ List.replicate (8 - gs.length) 0 ++ gs.drop gap⟩

def bracketed? (cs : List Char) : Except UrlError Host :=
  match cs.getLast?, ipv6? (cs.drop 1).dropLast with
  | some ']', some address => .ok (.v6 address)
  | _, _ => .error .invalidIpv6

def ofText? (cs : List Char) : Except UrlError Host :=
  if cs.head? = some '[' then bracketed? cs
  else
    match (Utf8.decode? (Percent.decode (Utf8.encode (String.ofList cs)))).bind Domain.toAscii? with
    | none => .error .invalidDomainName
    | some name =>
      if name = "" then .error .emptyHost
      else if endsInNumber name.toList then
        match ipv4? name.toList with
        | some address => .ok (.v4 address)
        | none => .error .invalidIpv4
      else .ok (.domain name)

def isForbidden (c : Char) : Bool :=
  ['\x00', '\t', '\n', '\r', ' ', '#', '/', ':', '<', '>', '?', '@', '[', '\\', ']', '^',
    '|'].contains c

/-- Reads any other host, which can be empty. -/
def ofOtherText? (cs : List Char) : Except UrlError Host :=
  if cs.head? = some '[' then bracketed? cs
  else if cs.any isForbidden then .error .invalidDomainCharacter
  else .ok (.domain (Url.encoded Url.isControl cs))

end TypedPid.Host
