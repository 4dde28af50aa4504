import Intercept.Proofs.Call.Indifference
import Intercept.Proofs.Call.Single
import Intercept.Registration

/-!
# Chains without advice

A chain without advice has nothing to run, so a call under it comes to what its target alone comes to.
A key that is registered with such a chain is therefore called like one that is not registered:
`invoke_unregistered_like_bare`.
-/

namespace Intercept

variable {H U : Type} {handle : Handle H U} {chain : ChainId} {target : Target H U} {frame : Frame}
  {world : World H U}

/-! ## Phases that run nothing -/

theorem watchPhase_of_bare (h : world.chain chain = .empty) (phase : Phase) (frame : Frame) :
    watchPhase handle chain phase frame world = ⟨[], .passed, frame, world⟩ := by
  have hbucket : (world.chain chain).bucket phase = [] := by rw [h, Chain.bucket_empty]
  simp only [watchPhase, runPhase_of_bucket_eq_nil hbucket]

namespace Progress

structure At (progress : Progress H U) (frame : Frame) (world : World H U) : Prop where
  frame_eq : progress.frame = frame
  world_eq : progress.world = world

namespace At

variable {progress : Progress H U}

theorem watch (h : progress.At frame world) (handle : Handle H U)
    (hbare : world.chain chain = .empty) (phase : Phase) :
    (progress.watch handle chain phase).At frame world := by
  obtain ⟨rfl, rfl⟩ := h
  constructor
  · rw [frame_watch, watchPhase_of_bare hbare]
  · rw [world_watch, watchPhase_of_bare hbare]

theorem watchReturn (h : progress.At frame world) (handle : Handle H U)
    (hbare : world.chain chain = .empty) :
    (progress.watchReturn handle chain).At frame world := by
  rw [Progress.watchReturn]
  split
  · exact h.watch handle hbare .afterReturning
  · exact h

theorem throwWith (h : progress.At frame world) (handle : Handle H U)
    (hbare : world.chain chain = .empty) (payload : Payload) :
    (progress.throwWith handle chain payload).At (frame.setPayload payload) world := by
  have hraised : (progress.raise payload).At (frame.setPayload payload) world := by
    obtain ⟨rfl, rfl⟩ := h
    exact ⟨rfl, rfl⟩
  exact (hraised.watch handle hbare .afterThrowing).watch handle hbare .after

end At

end Progress

/-! ## Calls under a bare chain -/

theorem reaches_of_bare (handle : Handle H U) (h : world.chain chain = .empty) (frame : Frame) :
    Reaches handle chain ⟨[], frame, world⟩
      ((⟨[], frame, world⟩ : Progress H U).pass .before ⟨[], .passed, frame, world⟩) := by
  have hbucket : ∀ phase, (world.chain chain).bucket phase = [] := by
    intro phase
    rw [h, Chain.bucket_empty]
  exact .direct (runPhase_of_bucket_eq_nil (hbucket .before)) rfl (hbucket .around)

theorem runAdvised_of_bare (handle : Handle H U) (hfound : world.chain chain = .empty)
    (hleft : (target frame world).world.chain chain = .empty) (key : Key) :
    (runAdvised handle chain key target frame world).outcome = (target frame world).outcome ∧
      (runAdvised handle chain key target frame world).world = (target frame world).world := by
  have hgates := reaches_of_bare handle hfound frame
  generalize hlanding : target frame world = landing at hleft ⊢
  have harrived : (((⟨[], frame, world⟩ : Progress H U).pass .before
      ⟨[], .passed, frame, world⟩).arrive landing).At landing.frame landing.world := ⟨rfl, rfl⟩
  cases hpayload : landing.payload with
  | none =>
      have hguard := (Guarded.returned hgates hlanding hpayload).eq
      obtain ⟨hframe, hworld⟩ :=
        (harrived.watchReturn handle hleft).watch handle hleft .after
      rw [runAdvised_of_completed key hguard, Landing.outcome, hpayload]
      exact ⟨congrArg Outcome.returned hframe, hworld⟩
  | some payload =>
      have hguard := (Guarded.threw hgates hlanding hpayload).eq
      obtain ⟨hframe, hworld⟩ := harrived.throwWith handle hleft payload
      rw [runAdvised_of_raised key hguard rfl, unwind_eq, Landing.outcome, hpayload]
      exact ⟨Outcome.ofFrame_eq_unwound_iff.mpr (congrArg Frame.payload hframe), hworld⟩

/-! ## Targets that do not touch a registry -/

/-- Worlds that are alike to the target hold the same pool, and no advice in the chain: a target that
leaves such worlds alike touches neither the registry nor the chain. -/
structure Target.Avoids (alike : World H U → World H U → Prop) (registry : RegistryId)
    (chain : ChainId) (target : Target H U) : Prop where
  pool : ∀ {world other}, alike world other →
    (world.registry registry).pool = (other.registry registry).pool
  bare : ∀ {world other}, alike world other → other.chain chain = .empty
  blind : target.Blind alike

def Target.ofChange (change : Frame → Option Payload × Frame) : Target H U := fun frame world =>
  ⟨(change frame).1, (change frame).2, world⟩

theorem Target.blind_ofChange {alike : World H U → World H U → Prop}
    (change : Frame → Option Payload × Frame) : (ofChange change).Blind alike :=
  fun _ _ h _ => ⟨rfl, rfl, h⟩

/-- The worlds differ in what one registry binds, in how many chains were made and in what was
recorded, if at all. -/
structure World.AgreeBeside (registry : RegistryId) (chain : ChainId) (world other : World H U) :
    Prop where
  chains : ∀ id, world.chain id = other.chain id
  bare : other.chain chain = .empty
  registries : ∀ id ≠ registry, world.registry id = other.registry id
  pool : (world.registry registry).pool = (other.registry registry).pool
  cancelled : world.cancelled = other.cancelled
  clock : world.clock = other.clock
  extra : world.extra = other.extra

namespace World.AgreeBeside

variable {other : World H U} {registry : RegistryId}

theorem avoids (h : target.Blind (AgreeBeside registry chain)) :
    target.Avoids (AgreeBeside registry chain) registry chain :=
  ⟨pool, bare, h⟩

theorem record (h : world.AgreeBeside registry chain other) (event : Event) :
    (world.record event).AgreeBeside registry chain other :=
  ⟨h.chains, h.bare, h.registries, h.pool, h.cancelled, h.clock, h.extra⟩

theorem acquire (h : world.AgreeBeside registry chain other) (key : Key) (args : List Value)
    (signal : Signal) :
    (world.acquire registry key args signal).2.AgreeBeside registry chain
      (other.acquire registry key args signal).2 := by
  refine ⟨h.chains, h.bare, ?_, ?_, h.cancelled, h.clock, h.extra⟩
  · intro id hid
    simp only [World.acquire, setPool, registry_setRegistry, if_neg hid, h.registries id hid]
  · simp only [World.acquire, setPool, registry_setRegistry, if_pos, h.pool]

theorem of_create (world : World H U) (registry : RegistryId) (key : Key) :
    world.AgreeBeside registry world.chains.size (world.create registry key).2 where
  chains id := by
    rw [chain_create]
    split
    · next hnew =>
        rw [hnew]
        exact Store.get_eq_default (Nat.le_refl _)
    · rfl
  bare := by rw [chain_create, if_pos rfl]
  registries id hid := by
    rw [create, registry_record, registry_setRegistry, if_neg hid]
    rfl
  pool := by rw [registry_create, Registry.pool_bind]
  cancelled := rfl
  clock := rfl
  extra := rfl

end World.AgreeBeside

/-! ## The two calls -/

theorem like_of_avoids (handle : Handle H U) {other : World H U} {registry : RegistryId} {key : Key}
    {refusal : Registry.Refusal} {alike : World H U → World H U → Prop}
    (havoids : target.Avoids alike registry chain)
    (h : world.lookup registry key = .error refusal) (h' : other.lookup registry key = .ok chain)
    (args : List Value) (signal : Signal)
    (hstart : alike ((world.acquire registry key args signal).2.record (.directCall key))
      (other.acquire registry key args signal).2) :
    (invoke handle registry key args signal target world).Like alike
      (invoke handle registry key args signal target other) := by
  rw [invoke_of_refusal h, invoke_of_lookup h', runDirect_eq]
  have hland := havoids.blind hstart (.new key args signal)
  obtain ⟨houtcome, hworld⟩ :=
    runAdvised_of_bare handle (havoids.bare hstart) (havoids.bare hland.world) key
  refine ⟨?_, ?_⟩
  · rw [houtcome]
    simp only [Landing.outcome, hland.payload, hland.frame]
  · rw [hworld]
    exact hland.world

/--
A key that is not registered and one that is, with a chain without advice, are called alike with every
target that does not touch the registry: both calls end alike and leave the same number of frames in
the pool.  So it makes no difference whether a key is called before or right after it is registered.
-/
theorem invoke_unregistered_like_bare (handle : Handle H U) (registry : RegistryId) (key : Key)
    (args : List Value) (signal : Signal) (world other : World H U) :
    let run := fun target => invoke handle registry key args signal target world
    let run' := fun target => invoke handle registry key args signal target other
    (∀ refusal chain alike target, world.lookup registry key = .error refusal →
      other.lookup registry key = .ok chain → target.Avoids alike registry chain →
      alike ((world.acquire registry key args signal).2.record (.directCall key))
        (other.acquire registry key args signal).2 →
      (run target).outcome = (run' target).outcome ∧
        ((run target).world.registry registry).pool.idleCount =
          ((run' target).world.registry registry).pool.idleCount) ∧
    (world.register registry key = .ok other →
      ∀ target : Target H U, target.Blind (World.AgreeBeside registry world.chains.size) →
        (run target).outcome = (run' target).outcome ∧
          ((run target).world.registry registry).pool.idleCount =
            ((run' target).world.registry registry).pool.idleCount) := by
  intro run run'
  constructor
  · intro refusal chain alike target hrefused hfound havoids hstart
    have hlike := like_of_avoids handle havoids hrefused hfound args signal hstart
    exact ⟨hlike.outcome, congrArg Pool.idleCount (havoids.pool hlike.world)⟩
  · intro hregister target hblind
    obtain ⟨hkey, hfree, rfl⟩ := World.register_eq_ok hregister
    have havoids := World.AgreeBeside.avoids hblind
    have hstart := (World.AgreeBeside.of_create world registry key).acquire key args signal
    have hlike := like_of_avoids handle havoids (World.lookup_of_free hkey hfree)
      (world.lookup_create registry hkey) args signal (hstart.record _)
    exact ⟨hlike.outcome, congrArg Pool.idleCount (havoids.pool hlike.world)⟩

theorem registering_does_not_show :
    let world := ((World.single ⟨"g"⟩ (.empty : Chain Habit)).cancel "gone").recycle 0 .blank
    let other := (world.create 0 ⟨"f"⟩).2
    let late := Target.ofChange fun frame =>
      (some (.ofText "late"), (frame.reset.setSkipped true).setError (.message "lost"))
    let lost := Target.ofChange fun frame => (none, frame.setError (.message "lost"))
    let run := invoke Habit.handle 0 ⟨"f"⟩ [] (.ofToken "gone") late world
    let run' := invoke Habit.handle 0 ⟨"f"⟩ [] (.ofToken "gone") late other
    let cleared := invoke Habit.handle 0 ⟨"g"⟩ [] .never lost (world.unregister 0 ⟨"g"⟩)
    let kept := invoke Habit.handle 0 ⟨"g"⟩ [] .never lost world
    (run.outcome = run'.outcome ∧ run.outcome = .unwound (.ofText "late") ∧
      (run.world.registry 0).pool.idleCount = (run'.world.registry 0).pool.idleCount) ∧
    (cleared.outcome = kept.outcome ∧
      (cleared.world.registry 0).pool.idleCount = (kept.world.registry 0).pool.idleCount) := by
  intro world other late lost run run' cleared kept
  have hfresh := (invoke_unregistered_like_bare Habit.handle 0 ⟨"f"⟩ [] (.ofToken "gone") world
    other).2 rfl late (Target.blind_ofChange _)
  have havoids : lost.Avoids
      (fun (world other : World Habit Unit) =>
        (world.registry 0).pool = (other.registry 0).pool ∧ other.chain 0 = .empty) 0 0 :=
    ⟨And.left, And.right, Target.blind_ofChange _⟩
  have hunbound := (invoke_unregistered_like_bare Habit.handle 0 ⟨"g"⟩ [] .never
    (world.unregister 0 ⟨"g"⟩) world).1 (.notRegistered ⟨"g"⟩) 0 _ lost rfl rfl havoids ⟨rfl, rfl⟩
  exact ⟨⟨hfresh.1, by decide +kernel, hfresh.2⟩, hunbound⟩

end Intercept
