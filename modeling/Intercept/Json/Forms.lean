import Intercept.Json.Literal
import Intercept.Json.Read
import Intercept.Key
import Intercept.Phase
import Intercept.Settings

/-!
# Keys, phases and settings in JSON

A key is its bare text and a phase its name.  Settings are a record in which everything has a default,
so that a text states only what differs from `Settings.standard`.
-/

namespace Intercept

namespace Key

def write (key : Key) : String :=
  Json.literal key.text

def read (text : String) : Except Json.Fault Key :=
  match Json.readAll Json.readText text with
  | .error fault => .error fault
  | .ok text => .ok ⟨text⟩

end Key

namespace Phase

def write (phase : Phase) : String :=
  Json.literal phase.name

def read (text : String) : Except Json.Fault Phase :=
  Json.readAll (Json.readVariant ofName?) text

end Phase

namespace Policy

def write (policy : Policy) : String :=
  Json.compactRecord
    [("enabled", Text.boolean policy.enabled),
      ("maxIdle", Nat.repr policy.maxIdle),
      ("maxResultCapacity", Nat.repr policy.maxResultCapacity),
      ("maxMetadataEntries", Nat.repr policy.maxMetadataEntries)]

private def stored {α : Type} (store : α → Policy) : Json.Reading α → Json.Reading Policy
  | .error fault => .error fault
  | .ok (a, rest) => .ok (store a, rest)

def fields : List (Json.Field Policy) :=
  [⟨"enabled", fun policy cs =>
      stored (fun b => { policy with enabled := b }) (Json.readBoolean cs)⟩,
    ⟨"maxIdle", fun policy cs =>
      stored (fun n => { policy with maxIdle := n }) (Json.readWord cs)⟩,
    ⟨"maxResultCapacity", fun policy cs =>
      stored (fun n => { policy with maxResultCapacity := n }) (Json.readWord cs)⟩,
    ⟨"maxMetadataEntries", fun policy cs =>
      stored (fun n => { policy with maxMetadataEntries := n }) (Json.readWord cs)⟩]

end Policy

namespace Settings

/-- Why a text holds no settings. -/
inductive Fault where
  | json (fault : Json.Fault)
  | refused (refusal : Refusal)
  deriving DecidableEq, Repr

def write (settings : Settings) : String :=
  Json.compactRecord [("pool", settings.pool.write)]

/-- The policy named in a text starts from the standard one, whatever came before. -/
def fields : List (Json.Field Settings) :=
  [⟨"pool", fun settings cs =>
      match Json.readRecord Policy.fields .standard cs with
      | .error fault => .error fault
      | .ok (pool, rest) => .ok ({ settings with pool }, rest)⟩]

def parse (text : String) : Except Json.Fault Settings :=
  Json.readAll (Json.readRecord fields .standard) text

def read (text : String) : Except Fault Settings :=
  match parse text with
  | .error fault => .error (.json fault)
  | .ok settings =>
    match settings.validate with
    | .error refusal => .error (.refused refusal)
    | .ok () => .ok settings

end Settings

end Intercept
