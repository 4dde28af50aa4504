import Intercept.Text.Quoted

/-!
# Settings

How frames are pooled.  A pool that is switched on has to be allowed at least one idle frame.
-/

namespace Intercept

structure Policy where
  enabled : Bool
  maxIdle : Nat
  maxResultCapacity : Nat
  maxMetadataEntries : Nat
  deriving DecidableEq, Repr

namespace Policy

def standard : Policy :=
  { enabled := true
    maxIdle := 64
    maxResultCapacity := 16
    maxMetadataEntries := 32 }

instance : Inhabited Policy := ⟨standard⟩

def outline (policy : Policy) : String :=
  Text.record "PoolSettings"
    [("enabled", Text.boolean policy.enabled),
      ("max_idle", Nat.repr policy.maxIdle),
      ("max_result_capacity", Nat.repr policy.maxResultCapacity),
      ("max_metadata_entries", Nat.repr policy.maxMetadataEntries)]

end Policy

structure Settings where
  pool : Policy
  deriving DecidableEq, Repr

namespace Settings

def standard : Settings :=
  ⟨.standard⟩

inductive Refusal where
  | noIdleFrames
  deriving DecidableEq, Repr

namespace Refusal

/-- The value that was refused and why. -/
def reason : Refusal → String
  | .noIdleFrames => "pool.maxIdle must be at least 1 when pooling is enabled"

end Refusal

/-- Any refused value is reported in these words. -/
def refusalText (reason : String) : String :=
  "invalid settings value: " ++ reason

def refusalOutline (reason : String) : String :=
  Text.call "InvalidValue" (Text.quoted reason)

def validate (settings : Settings) : Except Refusal Unit :=
  if settings.pool.enabled ∧ settings.pool.maxIdle = 0 then .error .noIdleFrames else .ok ()

def outline (settings : Settings) : String :=
  Text.record "EngineSettings" [("pool", settings.pool.outline)]

theorem validate_eq_ok_iff (settings : Settings) :
    settings.validate = .ok () ↔ (settings.pool.enabled = true → 0 < settings.pool.maxIdle) := by
  by_cases h : settings.pool.enabled = true ∧ settings.pool.maxIdle = 0
  · simp [validate, h]
  · simp only [validate, h, if_false, true_iff]
    intro henabled
    have hne : settings.pool.maxIdle ≠ 0 := fun hz => h ⟨henabled, hz⟩
    omega

end Settings

end Intercept
