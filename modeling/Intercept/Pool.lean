import Intercept.Frame
import Intercept.Settings

/-!
# Frame pools

A pool keeps finished frames for later calls, up to the number its policy allows.  A frame is reset
when it comes in and again when it goes out, so a new call never sees what an earlier one left.
-/

namespace Intercept

structure Pool where
  policy : Policy
  idle : List Frame
  deriving DecidableEq

namespace Pool

def ofPolicy (policy : Policy) : Pool :=
  ⟨policy, []⟩

instance : Inhabited Pool := ⟨ofPolicy .standard⟩

def idleCount (pool : Pool) : Nat :=
  pool.idle.length

def acquire (pool : Pool) (function : Key) (args : List Value) (signal : Signal) : Frame × Pool :=
  if pool.policy.enabled then
    match pool.idle with
    | [] => (.new function args signal, pool)
    | frame :: rest => (frame.reset.prepare function args signal, { pool with idle := rest })
  else (.new function args signal, pool)

def release (pool : Pool) (frame : Frame) : Pool :=
  if pool.policy.enabled ∧ pool.idle.length < pool.policy.maxIdle then
    let frame := frame.shrink pool.policy.maxResultCapacity pool.policy.maxMetadataEntries
    { pool with idle := frame.reset :: pool.idle }
  else pool

def outline (pool : Pool) : String :=
  Text.record "ContextPool"
    [("enabled", Text.boolean pool.policy.enabled), ("idle_count", Nat.repr pool.idleCount)]

@[simp] theorem acquire_fst (pool : Pool) (function : Key) (args : List Value) (signal : Signal) :
    (pool.acquire function args signal).1 = .new function args signal := by
  unfold acquire
  split
  · split <;> simp
  · rfl

@[simp] theorem policy_acquire (pool : Pool) (function : Key) (args : List Value)
    (signal : Signal) : (pool.acquire function args signal).2.policy = pool.policy := by
  unfold acquire
  split
  · split <;> rfl
  · rfl

@[simp] theorem policy_release (pool : Pool) (frame : Frame) :
    (pool.release frame).policy = pool.policy := by
  unfold release
  split <;> rfl

theorem idleCount_release_of_enabled {pool : Pool} (h : pool.policy.enabled = true)
    (hle : pool.idleCount ≤ pool.policy.maxIdle) (frame : Frame) :
    (pool.release frame).idleCount = min (pool.idleCount + 1) pool.policy.maxIdle := by
  simp only [idleCount] at hle ⊢
  by_cases hlt : pool.idle.length < pool.policy.maxIdle
  · rw [release, if_pos ⟨h, hlt⟩, List.length_cons]
    omega
  · rw [release, if_neg fun hboth => hlt hboth.2]
    omega

theorem idleCount_acquire_of_enabled {pool : Pool} (h : pool.policy.enabled = true)
    (function : Key) (args : List Value) (signal : Signal) :
    (pool.acquire function args signal).2.idleCount = pool.idleCount - 1 := by
  cases hidle : pool.idle <;> simp [acquire, h, hidle, idleCount]

end Pool

end Intercept
