import Intercept.World

/-!
# What pools keep

However frames are drawn from a pool and given back to it, wherever they come from and whatever they
hold, the pool keeps no more of them than its policy allows, and nothing that was in them:
`pools_stay_bounded_and_clean`.
-/

namespace Intercept

structure Frame.HoldsNothing (frame : Frame) : Prop where
  function : frame.function.isEmpty = true
  args : frame.args = []
  results : frame.results.size = 0
  error : frame.error = none
  payload : frame.payload = none
  notes : frame.notes.size = 0
  skipped : frame.skipped = false
  token : frame.signal.token = none
  deadline : frame.signal.deadline = none

theorem Frame.holdsNothing_reset (frame : Frame) : frame.reset.HoldsNothing :=
  ⟨rfl, rfl, rfl, rfl, rfl, rfl, rfl, rfl, rfl⟩

namespace Pool

/-- A frame is drawn for a call, or one from this pool or elsewhere is given back. -/
inductive Use where
  | acquire (function : Key) (args : List Value) (signal : Signal)
  | release (frame : Frame)

def use (pool : Pool) : Use → Pool
  | .acquire function args signal => (pool.acquire function args signal).2
  | .release frame => pool.release frame

def useAll (pool : Pool) (uses : List Use) : Pool :=
  uses.foldl use pool

structure Upkept (policy : Policy) (pool : Pool) : Prop where
  governed : pool.policy = policy
  bounded : pool.idleCount ≤ policy.maxIdle
  disabled : policy.enabled = false → pool.idleCount = 0
  clean : ∀ frame ∈ pool.idle, frame.HoldsNothing

theorem upkept_ofPolicy (policy : Policy) : (ofPolicy policy).Upkept policy where
  governed := rfl
  bounded := Nat.zero_le _
  disabled _ := rfl
  clean := by simp [ofPolicy]

namespace Upkept

variable {policy : Policy} {pool : Pool}

theorem acquire (h : pool.Upkept policy) (function : Key) (args : List Value) (signal : Signal) :
    (pool.acquire function args signal).2.Upkept policy := by
  rw [Pool.acquire]
  split
  · split
    · exact h
    · next frame rest hidle =>
        have hcount : pool.idleCount = rest.length + 1 := congrArg List.length hidle
        have hbounded := h.bounded
        have hdisabled := h.disabled
        rw [hcount] at hbounded hdisabled
        refine ⟨h.governed, Nat.le_of_succ_le hbounded, fun hoff => ?_, fun other hother => ?_⟩
        · exact absurd (hdisabled hoff) (Nat.succ_ne_zero _)
        · exact h.clean other (hidle ▸ List.mem_cons_of_mem frame hother)
  · exact h

theorem release (h : pool.Upkept policy) (frame : Frame) : (pool.release frame).Upkept policy := by
  rw [Pool.release]
  split
  · next hroom =>
      rw [h.governed] at hroom
      refine ⟨h.governed, hroom.2, fun hdisabled => ?_, fun other hother => ?_⟩
      · exact absurd hroom.1 (Bool.eq_false_iff.mp hdisabled)
      · rcases List.mem_cons.mp hother with rfl | hother
        · exact Frame.holdsNothing_reset _
        · exact h.clean other hother
  · exact h

theorem use (h : pool.Upkept policy) (use : Use) : (pool.use use).Upkept policy := by
  cases use with
  | acquire function args signal => exact h.acquire function args signal
  | release frame => exact h.release frame

theorem useAll (h : pool.Upkept policy) (uses : List Use) : (pool.useAll uses).Upkept policy := by
  induction uses generalizing pool with
  | nil => exact h
  | cons use uses ih => exact ih (h.use use)

end Upkept

end Pool

/-! ## The pools of registries -/

namespace World

variable {H U : Type}

def usePool (world : World H U) (id : RegistryId) : Pool.Use → World H U
  | .acquire function args signal => (world.acquire id function args signal).2
  | .release frame => world.recycle id frame

def usePools (world : World H U) (uses : List (RegistryId × Pool.Use)) : World H U :=
  uses.foldl (fun world use => world.usePool use.1 use.2) world

theorem pool_usePool (world : World H U) (id other : RegistryId) (use : Pool.Use) :
    (world.usePool id use).pool other =
      if other = id then (world.pool id).use use else world.pool other := by
  cases use with
  | acquire function args signal => exact world.pool_acquire id other function args signal
  | release frame => exact world.pool_recycle id other frame

theorem upkept_usePools {world : World H U} {id : RegistryId} {policy : Policy}
    (h : (world.pool id).Upkept policy) (uses : List (RegistryId × Pool.Use)) :
    ((world.usePools uses).pool id).Upkept policy := by
  induction uses generalizing world with
  | nil => exact h
  | cons use uses ih =>
      apply ih
      rw [pool_usePool]
      split
      · next hid => exact hid ▸ h.use use.2
      · exact h

end World

/-- Pools by themselves, and the pools of registries among other registries in use. -/
theorem pools_stay_bounded_and_clean {H U : Type} (policy : Policy) :
    (∀ uses, ((Pool.ofPolicy policy).useAll uses).Upkept policy) ∧
      ∀ (world : World H U) uses,
        (((world.newRegistry policy).2.usePools uses).pool
          (world.newRegistry policy).1).Upkept policy := by
  constructor
  · exact fun uses => (Pool.upkept_ofPolicy policy).useAll uses
  · intro world uses
    have hnew : (world.newRegistry policy).2.registry (world.newRegistry policy).1 =
        .ofPolicy policy := Store.get_push_size ..
    apply World.upkept_usePools
    rw [World.pool, hnew]
    exact Pool.upkept_ofPolicy policy

end Intercept
