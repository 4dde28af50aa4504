import Intercept.Journal.Events
import Intercept.World

/-!
# Registration

Binding keys to chains and adding advice under a key.  A request that is refused leaves no new world
behind: its result is the refusal alone.
-/

namespace Intercept.World

variable {H U : Type}

def create (world : World H U) (id : RegistryId) (key : Key) : ChainId × World H U :=
  let (chain, world) := world.newChain
  let world := world.setRegistry id ((world.registry id).bind key chain)
  (chain, world.record (.registered key))

def register (world : World H U) (id : RegistryId) (key : Key) :
    Except Registry.Refusal (World H U) :=
  if key.isEmpty then .error .invalidKey
  else if (world.registry id).contains key then .error (.duplicateKey key)
  else .ok (world.create id key).2

def lookup (world : World H U) (id : RegistryId) (key : Key) :
    Except Registry.Refusal ChainId :=
  if key.isEmpty then .error .invalidKey
  else
    match (world.registry id).find? key with
    | none => .error (.notRegistered key)
    | some chain => .ok chain

/-- The chain of the key, which is registered first if it has none.  An empty key unwinds. -/
def obtain (world : World H U) (id : RegistryId) (key : Key) :
    Except Payload (ChainId × World H U) :=
  if key.isEmpty then .error (.ofText Registry.Refusal.emptyKeyText)
  else
    match (world.registry id).find? key with
    | some chain => .ok (chain, world)
    | none => .ok (world.create id key)

def addAdvice (world : World H U) (id : RegistryId) (key : Key) (advice : Advice H) :
    Except Registry.Refusal (World H U) :=
  match world.lookup id key with
  | .error refusal => .error refusal
  | .ok chain => .ok ((world.record (.addingAdvice key advice)).addTo chain advice)

def unregister (world : World H U) (id : RegistryId) (key : Key) : World H U :=
  if (world.registry id).contains key then
    (world.setRegistry id ((world.registry id).erase key)).record (.unregistered key)
  else world

def clear (world : World H U) (id : RegistryId) : World H U :=
  world.setRegistry id (world.registry id).clear

def adviceCount (world : World H U) (id : RegistryId) (key : Key) : Nat :=
  match (world.registry id).find? key with
  | none => 0
  | some chain => (world.chain chain).size

/-! ## Builders -/

/-- A builder adds advice under one key of one registry and registers the key on first use. -/
structure Builder where
  registry : RegistryId
  key : Key
  deriving DecidableEq, Repr

/-- The advice is announced before the key is looked at, so that an empty key unwinds only then. -/
def attach (world : World H U) (builder : Builder) (advice : Advice H) :
    Option Payload × World H U :=
  let world := world.record (.attachingAdvice builder.key advice)
  match world.obtain builder.registry builder.key with
  | .error payload => (some payload, world)
  | .ok (chain, world) => (none, world.addTo chain advice)

/-- What can be asked of a builder.  Copies share the registry and the key. -/
inductive Builder.Request (H : Type) where
  | copy
  | prepared (advice : Advice H)
  | plain (phase : Phase) (handler : H)
  | ranked (phase : Phase) (priority : Int) (handler : H)

def Builder.Request.advice? : Builder.Request H → Option (Advice H)
  | .copy => none
  | .prepared advice => some advice
  | .plain phase handler => some (.ofHandler phase handler)
  | .ranked phase priority handler => some { Advice.ofHandler phase handler with priority }

def build (world : World H U) (builder : Builder) (request : Builder.Request H) :
    Option Payload × World H U :=
  match request.advice? with
  | none => (none, world)
  | some advice => world.attach builder advice

def builderOutline (world : World H U) (builder : Builder) : String :=
  Text.record "Aspect"
    [("key", builder.key.outline),
      ("advice_count", Nat.repr (world.adviceCount builder.registry builder.key))]

/-! ## What registering does to the world -/

theorem registry_create (world : World H U) (id : RegistryId) (key : Key) :
    (world.create id key).2.registry id = (world.registry id).bind key world.chains.size := by
  rw [create, registry_record, registry_setRegistry, if_pos rfl]
  rfl

theorem chain_create (world : World H U) (id : RegistryId) (key : Key) (chain : ChainId) :
    (world.create id key).2.chain chain =
      if chain = world.chains.size then .empty else world.chain chain :=
  world.chain_newChain chain

theorem size_create (world : World H U) (id : RegistryId) (key : Key) :
    (world.create id key).2.chains.size = world.chains.size + 1 :=
  Store.size_push ..

theorem lookup_of_free {world : World H U} {id : RegistryId} {key : Key}
    (hkey : key.isEmpty = false) (hfree : (world.registry id).find? key = none) :
    world.lookup id key = .error (.notRegistered key) := by
  rw [lookup, if_neg (ne_true_of_eq_false hkey), hfree]

theorem lookup_create (world : World H U) (id : RegistryId) {key : Key}
    (hkey : key.isEmpty = false) : (world.create id key).2.lookup id key = .ok world.chains.size := by
  rw [lookup, if_neg (ne_true_of_eq_false hkey), registry_create, Registry.find?_bind, if_pos rfl]

theorem register_eq_ok {world other : World H U} {id : RegistryId} {key : Key}
    (h : world.register id key = .ok other) :
    key.isEmpty = false ∧ (world.registry id).find? key = none ∧
      other = (world.create id key).2 := by
  rw [register] at h
  split at h
  · cases h
  · next hkey =>
      split at h
      · cases h
      · next hfound =>
          cases h
          exact ⟨eq_false_of_ne_true hkey, Option.not_isSome_iff_eq_none.mp hfound, rfl⟩

end Intercept.World
