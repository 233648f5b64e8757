import TypedPid.Cache.Simulation
import TypedPid.Registry
import TypedPid.Service

/-!
A service at work, on the simulated time of its cache. One request after another goes all the way.
-/
namespace TypedPid

structure Running where
  types : Cache.Simulation
  store : Store := {}
  minted : Nat := 0

def Config.registry (c : Config) : Registry :=
  ⟨c.registryUrl, .ofSeconds c.registryTimeoutSeconds⟩

namespace Running

/-- A service as it is configured, with no records yet. `exchange` is what becomes of its requests
to the registry; none of them takes any time. -/
def ofConfig (c : Config) (exchange : Url → Exchange) : Running where
  types := {
    config := c.cache
    endpoint := c.registry.endpoint
    otherwise := fun identifier =>
      ⟨0, Id.run (c.registry.load (fun url => pure (exchange url)) identifier)⟩ }

/-- Does one action. `fresh` gives a text for each number. -/
def answer (fresh : Nat → String) : (action : Action) → StateM Running action.Answer
  | .lookup identifier => modifyGet fun w =>
    let (result, types) := Cache.Simulation.lookup identifier w.types
    (result, { w with types })
  | .mint => modifyGet fun w => (fresh w.minted, { w with minted := w.minted + 1 })
  | .store o => modifyGet fun w =>
    let (result, store) := w.store.perform o
    (result, { w with store })
  | .report => modifyGet fun w => (w.types.report, w)

def run (fresh : Nat → String) (p : Procedure α) : StateM Running α := p.run (answer fresh)

end Running
end TypedPid
