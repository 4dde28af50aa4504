import Intercept.Chain
import Intercept.Journal
import Intercept.Registry
import Intercept.Store

/-!
# The world of a call

Everything that outlives a single call: chains and registries by number, cancelled tokens, the time,
the journal, and whatever else handler code of type `H` keeps in a state of type `U`.
-/

namespace Intercept

structure World (H U : Type) where
  chains : Store (Chain H)
  registries : Store Registry
  cancelled : List Token
  clock : Nat
  journal : Journal
  extra : U

namespace World

variable {H U : Type}

def new (extra : U) : World H U :=
  { chains := .empty
    registries := .empty
    cancelled := []
    clock := 0
    journal := .empty
    extra }

def moment (world : World H U) : Moment :=
  ⟨world.cancelled, world.clock⟩

def record (world : World H U) (event : Event) : World H U :=
  { world with journal := world.journal.record event }

def events (world : World H U) : List Event :=
  world.journal.toList

def cancel (world : World H U) (token : Token) : World H U :=
  { world with cancelled := token :: world.cancelled }

/-! ## Chains -/

def chain (world : World H U) (id : ChainId) : Chain H :=
  world.chains.get id

def addTo (world : World H U) (id : ChainId) (advice : Advice H) : World H U :=
  { world with chains := world.chains.set id ((world.chain id).add advice) }

/-- An empty chain under a number never used before. -/
def newChain (world : World H U) : ChainId × World H U :=
  (world.chains.size, { world with chains := world.chains.push .empty })

/-! ## Registries and their pools -/

def registry (world : World H U) (id : RegistryId) : Registry :=
  world.registries.get id

def setRegistry (world : World H U) (id : RegistryId) (registry : Registry) : World H U :=
  { world with registries := world.registries.set id registry }

def newRegistry (world : World H U) (policy : Policy) : RegistryId × World H U :=
  (world.registries.size, { world with registries := world.registries.push (.ofPolicy policy) })

def pool (id : RegistryId) (world : World H U) : Pool :=
  (world.registry id).pool

def setPool (world : World H U) (id : RegistryId) (pool : Pool) : World H U :=
  world.setRegistry id { world.registry id with pool }

def acquire (world : World H U) (id : RegistryId) (function : Key) (args : List Value)
    (signal : Signal) : Frame × World H U :=
  let (frame, pool) := (world.registry id).pool.acquire function args signal
  (frame, world.setPool id pool)

def recycle (world : World H U) (id : RegistryId) (frame : Frame) : World H U :=
  world.setPool id ((world.registry id).pool.release frame)

/-! ## What each operation shows and leaves alone -/

@[simp] theorem events_record (world : World H U) (event : Event) :
    (world.record event).events = world.events ++ [event] := by
  simp [events, record]

@[simp] theorem registry_record (world : World H U) (event : Event) (id : RegistryId) :
    (world.record event).registry id = world.registry id := rfl

theorem chain_addTo (world : World H U) (id other : ChainId) (advice : Advice H) :
    (world.addTo id advice).chain other =
      if other = id then (world.chain id).add advice else world.chain other := by
  simp [chain, addTo, Store.get_set]

@[simp] theorem chain_newChain (world : World H U) (id : ChainId) :
    (world.newChain.2).chain id =
      if id = world.chains.size then .empty else world.chain id := by
  simp [chain, newChain, Store.push, Store.get_set]

theorem registry_setRegistry (world : World H U) (id other : RegistryId) (registry : Registry) :
    (world.setRegistry id registry).registry other =
      if other = id then registry else world.registry other := by
  simp [World.registry, setRegistry, Store.get_set]

@[simp] theorem pool_record (world : World H U) (event : Event) (id : RegistryId) :
    (world.record event).pool id = world.pool id := rfl

theorem pool_setPool (world : World H U) (id other : RegistryId) (pool : Pool) :
    (world.setPool id pool).pool other = if other = id then pool else world.pool other := by
  rw [World.pool, setPool, registry_setRegistry]
  split <;> rfl

theorem pool_acquire (world : World H U) (id other : RegistryId) (function : Key)
    (args : List Value) (signal : Signal) :
    (world.acquire id function args signal).2.pool other =
      if other = id then ((world.pool id).acquire function args signal).2 else world.pool other :=
  world.pool_setPool id other _

theorem pool_recycle (world : World H U) (id other : RegistryId) (frame : Frame) :
    (world.recycle id frame).pool other =
      if other = id then (world.pool id).release frame else world.pool other :=
  world.pool_setPool id other _

@[simp] theorem acquire_fst (world : World H U) (id : RegistryId) (function : Key)
    (args : List Value) (signal : Signal) :
    (world.acquire id function args signal).1 = .new function args signal := by
  simp [acquire]

end World

end Intercept
