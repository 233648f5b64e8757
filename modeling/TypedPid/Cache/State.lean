import TypedPid.Cache.Entries

/-!
A cache of type definitions that many callers share. Of the callers that miss a definition at the
same time, the first one leads: it loads the definition for all of them, and the others follow its
flight. A run of the cache is a row of events; `step` says when an event can happen and what it
does. Between two events of one caller any events of others may happen, and a caller may be
cancelled wherever it can be made to wait.

An event of a caller is one use of what the callers share: of the definitions that are kept, or of
the flights with the table of those underway. To end a flight is one event, although the table is
changed first and the outcome is sent then: who waits for the outcome can do nothing in between.
-/
namespace TypedPid.Cache

abbrev Outcome := Except LookupError Loaded

inductive Phase where
  /-- It will look for a kept definition. -/
  | arriving
  /-- It found none and will follow the flight to its identifier, or lead a new one. -/
  | joining
  | following (flight : Nat)
  /-- The flight that it followed was given up, and it will look for a kept definition again. -/
  | returning
  /-- It leads a flight and will look a second time before it loads. -/
  | leading (flight : Nat)
  /-- It found none again and will begin to load. -/
  | fetching (flight : Nat)
  | loading (flight load since : Nat)
  /-- It will store what it loaded. -/
  | storing (flight : Nat) (loaded : Loaded)
  /-- It has found or stored a definition and will end its flight with it. -/
  | landing (flight : Nat) (loaded : Loaded)
  /-- It has ended its flight and will let go of it. -/
  | leaving (flight : Nat) (outcome : Outcome)
  | answered (outcome : Outcome)
  | cancelled

structure Caller where
  identifier : String
  phase : Phase

structure Channel where
  sent : Option Outcome := none
  /-- Whether nothing can be sent any more. -/
  closed : Bool := false

namespace Channel

/-- What there is to learn: the outcome, or that there will be none. Until then one has to wait. -/
def receive (channel : Channel) : Option (Option Outcome) :=
  match channel.sent with
  | some outcome => some (some outcome)
  | none => if channel.closed then some none else none

def send (channel : Channel) (outcome : Outcome) : Channel := { channel with sent := some outcome }

def close (channel : Channel) : Channel := { channel with closed := true }

end Channel

structure Flight where
  identifier : String
  done : Bool := false
  channel : Channel := {}

inductive Progress where
  | running
  | delivered
  | refused
  | failed
  | dropped
deriving DecidableEq

structure Load where
  identifier : String
  progress : Progress

structure Stats where
  hits : Nat := 0
  misses : Nat := 0
  loads : Nat := 0
  loadFailures : Nat := 0
deriving DecidableEq

structure Report where
  endpoint : String
  entries : Nat
  stats : Stats
deriving DecidableEq

structure State where
  now : Nat := 0
  entries : Entries := []
  /-- The flights underway, by the identifiers they are for. -/
  inFlight : Keyed Nat := []
  /-- All flights and loads there have been, by their numbers. -/
  flights : List Flight := []
  loads : List Load := []
  callers : List Caller := []
  stats : Stats := {}

inductive Event where
  | arrive (identifier : String)
  /-- A caller takes the step that its phase says. -/
  | proceed (caller : Nat)
  | answer (caller : Nat) (result : LoadResult)
  | expire (caller : Nat)
  | cancel (caller : Nat)
  | peek (identifier : String)
  | invalidate (identifier : String)
  | pass (nanoseconds : Nat)

namespace State

def setPhase (s : State) (caller : Nat) (phase : Phase) : State :=
  { s with callers := s.callers.modify caller fun c => { c with phase } }

/-- What is kept and still served under an identifier. -/
def find (c : Config) (s : State) (identifier : String) : Option Loaded :=
  s.entries.find c s.now identifier

def setProgress (s : State) (load : Nat) (progress : Progress) : State :=
  { s with loads := s.loads.modify load fun l => { l with progress } }

/-- Takes the flight to an identifier, whichever it is, out of the table of those underway. -/
def unregister (s : State) (identifier : String) : State :=
  { s with inFlight := Keyed.erase identifier s.inFlight }

/-- Ends a flight with an outcome, which is sent to those who follow it. -/
def complete (s : State) (flight : Nat) (outcome : Outcome) : State :=
  match s.flights[flight]? with
  | none => s
  | some f =>
    { s.unregister f.identifier with
      flights := s.flights.set flight
        { f with done := true, channel := f.channel.send outcome } }

/-- Lets go of a flight. If it was not ended, it is given up. -/
def drop (s : State) (flight : Nat) : State :=
  match s.flights[flight]? with
  | none => s
  | some f =>
    let s := if f.done then s else s.unregister f.identifier
    { s with flights := s.flights.set flight { f with channel := f.channel.close } }

def countHit (s : State) : State := { s with stats := { s.stats with hits := s.stats.hits + 1 } }

def countMiss (s : State) : State :=
  { s with stats := { s.stats with misses := s.stats.misses + 1 } }

def countFailure (s : State) : State :=
  { s with stats := { s.stats with loadFailures := s.stats.loadFailures + 1 } }

def startFlight (s : State) (identifier : String) : State :=
  { s with
    inFlight := Keyed.insert identifier s.flights.length s.inFlight
    flights := s.flights ++ [({ identifier } : Flight)] }

def startLoad (s : State) (identifier : String) : State :=
  { s with
    loads := s.loads ++ [Load.mk identifier .running]
    stats := { s.stats with loads := s.stats.loads + 1 } }

def store (c : Config) (s : State) (identifier : String) (loaded : Loaded) : State :=
  { s with entries := s.entries.store c s.now identifier loaded }

/-- What a caller does next, and how far it has come then. Who waits, for a flight or for the
registry, does nothing. -/
def proceed (c : Config) (s : State) (identifier : String) : Phase → Option (State × Phase)
  | .arriving =>
    match s.find c identifier with
    | some loaded => some (s.countHit, .answered (.ok loaded))
    | none => some (s.countMiss, .joining)
  | .joining =>
    match Keyed.lookup identifier s.inFlight with
    | some flight => some (s, .following flight)
    | none => some (s.startFlight identifier, .leading s.flights.length)
  | .following flight => do
    let f ← s.flights[flight]?
    match ← f.channel.receive with
    | some outcome => some (s, .answered outcome)
    | none => some (s, .returning)
  | .returning =>
    match s.find c identifier with
    | some loaded => some (s, .answered (.ok loaded))
    | none => some (s, .joining)
  | .leading flight =>
    match s.find c identifier with
    | some loaded => some (s, .landing flight loaded)
    | none => some (s, .fetching flight)
  | .fetching flight => some (s.startLoad identifier, .loading flight s.loads.length s.now)
  | .loading _ _ _ => none
  | .storing flight loaded => some (s.store c identifier loaded, .landing flight loaded)
  | .landing flight loaded =>
    some (s.complete flight (.ok loaded), .leaving flight (.ok loaded))
  | .leaving flight outcome => some (s.drop flight, .answered outcome)
  | .answered _ => none
  | .cancelled => none

/-- Ends a load that came to no definition, and the flight that it was for. -/
def miscarry (s : State) (flight load : Nat) (progress : Progress) (e : LookupError) :
    State × Phase :=
  ((s.setProgress load progress).complete flight (.error e), .leaving flight (.error e))

def answer (s : State) (identifier : String) (flight load : Nat) : LoadResult → State × Phase
  | .ok (some definition) => (s.setProgress load .delivered, .storing flight ⟨load, definition⟩)
  | .ok none => s.miscarry flight load .refused (.notFound identifier)
  | .error e => s.countFailure.miscarry flight load .failed (.unavailable e)

/-- A caller is gone. Whoever follows the flight that it leads has to find another way. It cannot go
where it need not wait. -/
def cancel (s : State) : Phase → Option State
  | .arriving => some s
  | .following _ => some s
  | .returning => some s
  | .leading flight => some (s.drop flight)
  | .loading flight load _ => some ((s.setProgress load .dropped).drop flight)
  | .storing flight _ => some (s.drop flight)
  | _ => none

def turn (s : State) (caller : Nat) (act : String → Phase → Option (State × Phase)) :
    Option State := do
  let who ← s.callers[caller]?
  let (s, phase) ← act who.identifier who.phase
  return s.setPhase caller phase

/-- What an event does; none if it cannot happen. `endpoint` is where the registry is. -/
def step (c : Config) (endpoint : String) (s : State) : Event → Option State
  | .arrive identifier => some { s with callers := s.callers ++ [Caller.mk identifier .arriving] }
  | .proceed caller => s.turn caller (s.proceed c)
  | .answer caller result => s.turn caller fun identifier phase =>
    match phase with
    | .loading flight load _ => some (s.answer identifier flight load result)
    | _ => none
  | .expire caller => s.turn caller fun identifier phase =>
    match phase with
    | .loading flight load since =>
      if since + c.loadTimeout.nanoseconds ≤ s.now then
        some (s.answer identifier flight load (.error (.timeout endpoint c.loadTimeout)))
      else none
    | _ => none
  | .cancel caller => s.turn caller fun _ phase => (s.cancel phase).map (·, .cancelled)
  | .peek _ => some s
  | .invalidate identifier => some { s with entries := Keyed.erase identifier s.entries }
  | .pass nanoseconds => some { s with now := s.now + nanoseconds }

end State
end TypedPid.Cache
