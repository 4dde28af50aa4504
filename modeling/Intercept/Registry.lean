import Intercept.Key
import Intercept.Pool
import Intercept.Table

/-!
# Registries

A registry binds keys to chains, each by its number, and owns the pool from which calls of its
functions draw their frames.  A key is bound at most once, and the empty key never.
-/

namespace Intercept

abbrev ChainId := Nat

abbrev RegistryId := Nat

structure Registry where
  entries : Table Key ChainId
  pool : Pool

namespace Registry

/-- Why a registry turns a request down. -/
inductive Refusal where
  | invalidKey
  | duplicateKey (key : Key)
  | notRegistered (key : Key)
  deriving DecidableEq, Repr

namespace Refusal

def emptyKeyText : String :=
  "function key cannot be empty"

def text : Refusal → String
  | .invalidKey => emptyKeyText
  | .duplicateKey key => "function '" ++ key.text ++ "' is already registered"
  | .notRegistered key => "function '" ++ key.text ++ "' is not registered"

def name : Refusal → String
  | .invalidKey => "InvalidKey"
  | .duplicateKey _ => "DuplicateKey"
  | .notRegistered _ => "NotRegistered"

def outline : Refusal → String
  | .invalidKey => "InvalidKey"
  | .duplicateKey key => Text.call "DuplicateKey" key.outline
  | .notRegistered key => Text.call "NotRegistered" key.outline

end Refusal

def ofPolicy (policy : Policy) : Registry :=
  ⟨.empty, .ofPolicy policy⟩

instance : Inhabited Registry := ⟨ofPolicy .standard⟩

def find? (registry : Registry) (key : Key) : Option ChainId :=
  registry.entries.find? key

def contains (registry : Registry) (key : Key) : Bool :=
  (registry.find? key).isSome

def erase (registry : Registry) (key : Key) : Registry :=
  { registry with entries := registry.entries.erase key }

def bind (registry : Registry) (key : Key) (chain : ChainId) : Registry :=
  { registry with entries := registry.entries.insert key chain }

def clear (registry : Registry) : Registry :=
  { registry with entries := .empty }

def size (registry : Registry) : Nat :=
  registry.entries.size

/-- In increasing order. -/
def keys (registry : Registry) : List Key :=
  registry.entries.keys.mergeSort fun a b => a.compare b != .gt

def outline (registry : Registry) : String :=
  Text.record "Registry"
    [("function_count", Nat.repr registry.size), ("pool", registry.pool.outline)]

/-! ## What each operation does to the bindings -/

@[simp] theorem find?_clear (registry : Registry) (key : Key) :
    registry.clear.find? key = none := rfl

theorem find?_erase (registry : Registry) (key other : Key) :
    (registry.erase key).find? other = if other = key then none else registry.find? other :=
  registry.entries.find?_erase key other

theorem find?_bind (registry : Registry) (key other : Key) (chain : ChainId) :
    (registry.bind key chain).find? other =
      if other = key then some chain else registry.find? other :=
  registry.entries.find?_insert key other chain

@[simp] theorem pool_bind (registry : Registry) (key : Key) (chain : ChainId) :
    (registry.bind key chain).pool = registry.pool := rfl

end Registry

end Intercept
