import TypedPid.Cache.State

/-!
A cache in front of a registry whose answers are written down beforehand, on a clock that moves only
while everybody waits. Callers take their steps in turn, each as far as it comes.
-/
namespace TypedPid.Cache

/-- A written answer of a registry, and how many milliseconds it takes. -/
structure Response where
  delay : Nat
  result : LoadResult

/-- The answers to the loads of each identifier, one after another; the last one stays. -/
abbrev Script := Keyed (List Response)

namespace Script

/-- The answer to the next load, and what is left. Without a written one it is `otherwise`. -/
def next (identifier : String) (otherwise : Response) (script : Script) : Response × Script :=
  match Keyed.lookup identifier script with
  | some (r :: rest@(_ :: _)) => (r, Keyed.insert identifier rest script)
  | some [r] => (r, script)
  | _ => (otherwise, script)

end Script

structure Due where
  time : Nat
  caller : Nat
  event : Event

structure Simulation where
  config : Config := {}
  endpoint : String
  script : Script := []
  otherwise : String → Response := fun _ => ⟨0, .ok none⟩
  state : State := {}
  ready : List Nat := []
  /-- What will happen, in the order in which it was set up. -/
  due : List Due := []

namespace Simulation

def happen (sim : Simulation) (e : Event) : Simulation :=
  { sim with state := (sim.state.step sim.config sim.endpoint e).getD sim.state }

def awakened (s : State) : List Nat :=
  (s.callers.zipIdx.filter fun (caller, _) =>
    match caller.phase with
    | .following flight => (s.flights[flight]?.bind (·.channel.receive)).isSome
    | _ => false).map (·.2)

def wake (sim : Simulation) : Simulation :=
  { sim with ready := sim.ready ++ (awakened sim.state).filter (!sim.ready.contains ·) }

/-- Asks the registry for a definition that a caller has begun to load. An answer that takes no time
is there at once, and so is the end of a wait that may take none. -/
def ask (sim : Simulation) (caller : Nat) (identifier : String) : Simulation :=
  let (r, script) := sim.script.next identifier (sim.otherwise identifier)
  let limit := sim.config.loadTimeout.milliseconds
  let sim := { sim with script }
  if r.delay = 0 then sim.happen (.answer caller r.result)
  else if limit = 0 then sim.happen (.expire caller)
  else
    let (wait, event) :=
      if r.delay ≤ limit then (r.delay, Event.answer caller r.result)
      else (limit, Event.expire caller)
    let time := sim.state.now + (Duration.ofMilliseconds wait).nanoseconds
    { sim with due := sim.due ++ [⟨time, caller, event⟩] }

def phaseOf (sim : Simulation) (caller : Nat) : Option Phase :=
  sim.state.callers[caller]?.map (·.phase)

def advance (caller : Nat) : (fuel : Nat) → Simulation → Simulation
  | 0, sim => sim
  | fuel + 1, sim =>
    match sim.state.callers[caller]? with
    | none => sim
    | some who =>
      match who.phase with
      | .answered _ => sim
      | .cancelled => sim
      | .loading _ _ _ =>
        match sim.due.find? fun d => d.caller = caller ∧ d.time ≤ sim.state.now with
        | none => sim
        | some d =>
          advance caller fuel
            ({ sim with due := sim.due.filter (·.caller ≠ caller) }.happen d.event)
      | _ =>
        match sim.state.step sim.config sim.endpoint (.proceed caller) with
        | none => sim
        | some state =>
          let sim := { sim with state }
          match sim.phaseOf caller with
          | some (.loading _ _ _) => advance caller fuel (sim.ask caller who.identifier)
          | _ => advance caller fuel sim

def turn : Nat := 16

def settle : (fuel : Nat) → Simulation → Simulation
  | 0, sim => sim
  | fuel + 1, sim =>
    match sim.ready with
    | [] => sim
    | caller :: rest => settle fuel (wake (advance caller turn { sim with ready := rest }))

def turns (sim : Simulation) : Nat := 16 * (sim.state.callers.length + 1)

def settled (sim : Simulation) : Simulation := settle sim.turns sim

def nextTime (sim : Simulation) : Option Nat := (sim.due.map (·.time)).min?

def moveTo (time : Nat) (sim : Simulation) : Simulation :=
  let sim := sim.happen (.pass (time - sim.state.now))
  { sim with ready := sim.ready ++ (sim.due.filter (·.time ≤ time)).map (·.caller) }

/-- Goes on until `stop` holds or nothing is left to happen up to the time `limit`. -/
def runUntil (stop : Simulation → Bool) (limit : Option Nat) :
    (fuel : Nat) → Simulation → Simulation
  | 0, sim => sim.settled
  | fuel + 1, sim =>
    let sim := sim.settled
    if stop sim then sim
    else
      match sim.nextTime with
      | none => sim
      | some time =>
        if limit.any (· < time) then sim
        else runUntil stop limit fuel (sim.moveTo time)

/-- Each caller waits for at most one load. -/
def run (stop : Simulation → Bool) (limit : Option Nat) (sim : Simulation) : Simulation :=
  runUntil stop limit (sim.state.callers.length + 1) sim

def outcome? (sim : Simulation) (caller : Nat) : Option Outcome :=
  match sim.phaseOf caller with
  | some (.answered outcome) => some outcome
  | _ => none

def isFinished (sim : Simulation) (caller : Nat) : Bool :=
  match sim.phaseOf caller with
  | some (.answered _) => true
  | some .cancelled => true
  | _ => false

def start (identifier : String) : StateM Simulation Nat := modifyGet fun sim =>
  let caller := sim.state.callers.length
  (caller, { sim.happen (.arrive identifier) with ready := sim.ready ++ [caller] })

def finish (caller : Nat) : StateM Simulation (Option Outcome) := modifyGet fun sim =>
  let sim := sim.run (·.isFinished caller) none
  (sim.outcome? caller, sim)

def spawn (identifier : String) : StateM Simulation Nat := do
  let caller ← start identifier
  modify settled
  return caller

def get (identifier : String) : StateM Simulation (Option Outcome) := do
  finish (← start identifier)

def burst (identifier : String) (n : Nat) : StateM Simulation (List (Option Outcome)) := do
  let callers ← (List.replicate n identifier).mapM start
  callers.mapM finish

def peek (identifier : String) : StateM Simulation (Option Loaded) := modifyGet fun sim =>
  (sim.state.find sim.config identifier, sim.happen (.peek identifier))

def invalidate (identifier : String) : StateM Simulation Unit :=
  modify (·.happen (.invalidate identifier))

def abort (caller : Nat) : StateM Simulation Unit := modify fun sim =>
  let sim := { sim.happen (.cancel caller) with due := sim.due.filter (·.caller ≠ caller) }
  sim.wake.settled

def wait (milliseconds : Nat) : StateM Simulation Unit := modify fun sim =>
  let time := sim.state.now + (Duration.ofMilliseconds milliseconds).nanoseconds
  let sim := sim.run (fun _ => false) (some time)
  (sim.moveTo time).settled

def answerWith (identifier : String) (responses : List Response) : StateM Simulation Unit :=
  modify fun sim => { sim with script := Keyed.insert identifier responses sim.script }

def lookup (identifier : String) : StateM Simulation (Except LookupError TypeDefinition) := do
  match ← get identifier with
  | some outcome => return outcome.map (·.definition)
  | none => return .error (.notFound identifier)

def report (sim : Simulation) : Report := ⟨sim.endpoint, sim.state.entries.length, sim.state.stats⟩

def asked (sim : Simulation) : List String := sim.state.loads.map (·.identifier)

end Simulation
end TypedPid.Cache
