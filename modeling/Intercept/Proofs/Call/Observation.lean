import Intercept.Proofs.Call.Likeness
import Intercept.Proofs.Call.Single

/-!
# Observers do not interfere

A chain can be muted: its observers are taken out and its gatekeepers stay.  As long as observers leave
the frame as they find it, a call comes to what its gatekeepers and its target make of it, however the
observers end.  So a call and the same call under the muted chain start the same and end the same,
provided that no gatekeeper and no target can tell the two worlds apart.
-/

namespace Intercept

variable {H U : Type}

/-! ## Muted chains -/

def Chain.gates (chain : Chain H) : Chain H :=
  ⟨chain.advice.filter fun advice => advice.phase.isGatekeeper⟩

theorem Chain.bucket_gates_of_gatekeeper (chain : Chain H) {phase : Phase}
    (h : phase.isGatekeeper = true) : chain.gates.bucket phase = chain.bucket phase := by
  simp only [gates, bucket, List.filter_filter]
  apply List.filter_congr
  intro advice hmem
  by_cases hphase : advice.phase = phase
  · simp [hphase, h]
  · simp [hphase]

namespace World

def mute (id : ChainId) (world : World H U) : World H U :=
  { world with chains := world.chains.set id (world.chain id).gates }

@[simp] theorem chain_mute_self (world : World H U) (id : ChainId) :
    (world.mute id).chain id = (world.chain id).gates := by
  simp [mute, chain]

@[simp] theorem lookup_mute (world : World H U) (id : ChainId) (registry : RegistryId)
    (key : Key) : (world.mute id).lookup registry key = world.lookup registry key := rfl

@[simp] theorem acquire_mute (world : World H U) (id : ChainId) (registry : RegistryId)
    (key : Key) (args : List Value) (signal : Signal) :
    ((world.mute id).acquire registry key args signal).2 =
      (world.acquire registry key args signal).2.mute id := rfl

end World

/-! ## Quiet observers -/

def Stage.Quiet (stage : Stage H U) : Prop :=
  stage.Watches fun found left => left = found

instance (stage : Stage H U) : Decidable stage.Quiet :=
  inferInstanceAs (Decidable (stage.Watches fun found left => left = found))

namespace Progress

def Quiet (progress : Progress H U) : Prop :=
  progress.All Stage.Quiet

variable {handle : Handle H U} {chain : ChainId} {progress : Progress H U} {phase : Phase}

theorem Quiet.of_watch (h : (progress.watch handle chain phase).Quiet) : progress.Quiet := by
  intro stage hmem
  apply h stage
  rw [stages_watch]
  exact List.mem_append_left _ hmem

theorem Quiet.frame_watch (h : (progress.watch handle chain phase).Quiet)
    (hobserver : phase.isGatekeeper = false) :
    (progress.watch handle chain phase).frame = progress.frame := by
  have hstage : Stage.Quiet (.phase phase progress.frame progress.world
      (watchPhase handle chain phase progress.frame progress.world)) := by
    apply h
    rw [stages_watch]
    exact List.mem_append_right _ (List.mem_singleton_self _)
  exact hstage.rel hobserver (fun _ => rfl) (fun hfg hgk => hgk.trans hfg)

theorem Quiet.frame_watchReturn (h : (progress.watchReturn handle chain).Quiet) :
    (progress.watchReturn handle chain).frame = progress.frame := by
  cases hclean : progress.frame.isClean with
  | true =>
      have hwatch : progress.watchReturn handle chain =
          progress.watch handle chain .afterReturning := if_pos hclean
      rw [hwatch] at h ⊢
      exact h.frame_watch rfl
  | false =>
      have hplain : progress.watchReturn handle chain = progress :=
        if_neg (Bool.eq_false_iff.mp hclean)
      rw [hplain]

theorem Quiet.frame_throwWith {payload : Payload}
    (h : (progress.throwWith handle chain payload).Quiet) :
    (progress.throwWith handle chain payload).frame = progress.frame.setPayload payload := by
  have hthrowing := h.of_watch.frame_watch rfl
  exact (h.frame_watch rfl).trans hthrowing

theorem starts_watchReturn (progress : Progress H U) :
    (progress.watchReturn handle chain).starts = progress.starts := by
  rw [watchReturn]
  split
  · exact starts_watch progress rfl
  · rfl

theorem starts_throwWith (progress : Progress H U) (payload : Payload) :
    (progress.throwWith handle chain payload).starts = progress.starts := by
  rw [throwWith, starts_watch _ rfl, starts_watch _ rfl]
  rfl

end Progress

/-- How a call ends that nobody observes. -/
def Verdict.outcome (verdict : Verdict) (frame : Frame) : Outcome :=
  match verdict.raised? with
  | none => .returned frame
  | some payload => .unwound payload

section

variable {handle : Handle H U} {chain : ChainId} {target : Target H U} {frame : Frame}
  {world : World H U} {verdict : Verdict} {core : Progress H U}

theorem starts_runAdvised (key : Key)
    (h : runGuarded handle chain target ⟨[], frame, world⟩ =
      (verdict, core.settle handle chain verdict)) :
    (runAdvised handle chain key target frame world).stages.flatMap Stage.starts =
      core.starts := by
  have hclosed := closed_runAdvised handle chain key target frame world
  rw [h] at hclosed
  generalize runAdvised handle chain key target frame world = run at hclosed ⊢
  cases hclosed with
  | completed progress => exact (Progress.starts_watch _ rfl).trans core.starts_watchReturn
  | @raised verdict payload progress hraised =>
      rw [unwind_eq, Progress.settle_of_raised hraised]
      have hannounce : (core.announce key verdict).starts = core.starts := by
        rw [Progress.starts, Progress.stages_announce, Progress.starts]
      exact (Progress.starts_throwWith _ payload).trans hannounce

theorem outcome_runAdvised_of_quiet (key : Key)
    (h : runGuarded handle chain target ⟨[], frame, world⟩ =
      (verdict, core.settle handle chain verdict))
    (hquiet : ∀ stage ∈ (runAdvised handle chain key target frame world).stages, stage.Quiet) :
    (runAdvised handle chain key target frame world).outcome = verdict.outcome core.frame := by
  have hclosed := closed_runAdvised handle chain key target frame world
  rw [h] at hclosed
  generalize runAdvised handle chain key target frame world = run at hclosed hquiet ⊢
  cases hclosed with
  | completed progress =>
      have hafter : ((core.watchReturn handle chain).watch handle chain .after).Quiet := hquiet
      have hframe := (hafter.frame_watch rfl).trans hafter.of_watch.frame_watchReturn
      exact congrArg Outcome.returned hframe
  | @raised verdict payload progress hraised =>
      rw [unwind_eq, Progress.settle_of_raised hraised] at hquiet ⊢
      have hthrow : ((core.announce key verdict).throwWith handle chain payload).Quiet := hquiet
      have hleft : ((core.announce key verdict).throwWith handle chain payload).frame.payload =
          some payload := by
        rw [hthrow.frame_throwWith]
        rfl
      rw [Verdict.outcome, hraised]
      exact Outcome.ofFrame_eq_unwound_iff.mpr hleft

end

/-! ## Worlds with the same gatekeepers -/

def World.SameGates (id : ChainId) (world other : World H U) : Prop :=
  world.moment = other.moment ∧ ∀ phase : Phase, phase.isGatekeeper = true →
    (world.chain id).queue phase = (other.chain id).queue phase

theorem World.sameGates_mute (world : World H U) (id : ChainId) :
    SameGates id world (world.mute id) := by
  refine ⟨rfl, ?_⟩
  intro phase hgate
  rw [Chain.queue, Chain.queue, chain_mute_self, Chain.bucket_gates_of_gatekeeper _ hgate]

theorem likeness_sameGates {handle : Handle H U} {target : Target H U} (chain : ChainId)
    (hhandle : ∀ handler frame world other, (handle handler frame world).Like
      (fun left left' => left = world ∧ left' = other) (handle handler frame other))
    (htarget : ∀ frame world other, (target frame world).Like
      (fun left left' => left = world ∧ left' = other) (target frame other)) :
    Likeness (World.SameGates chain) handle chain target := by
  refine ⟨⟨fun h => h.1, fun h event => h⟩, fun h => h.2, ?_, ?_⟩
  · intro _ _ _ phase hgate advice hmem frame world other h
    obtain ⟨hexit, hframe, hworld, hother⟩ := hhandle advice.handler frame world other
    refine ⟨hexit, hframe, ?_⟩
    rw [hworld, hother]
    exact h
  · intro world other h frame
    obtain ⟨hpayload, hframe, hworld, hother⟩ := htarget frame world other
    refine ⟨hpayload, hframe, ?_⟩
    rw [hworld, hother]
    exact h

/-! ## The two calls -/

/--
A call and the same call under the muted chain start the same gatekeepers and the same target on the
same frames, and have the same outcome, if their worlds are alike and their observers quiet.
-/
theorem invoke_mute {world : World H U} {registry : RegistryId} {key : Key} {chain : ChainId}
    (h : world.lookup registry key = .ok chain) {handle : Handle H U} {target : Target H U}
    {alike : World H U → World H U → Prop} (hlike : Likeness alike handle chain target)
    (args : List Value) (signal : Signal)
    (hstart : alike (world.acquire registry key args signal).2
      ((world.mute chain).acquire registry key args signal).2) :
    let run := invoke handle registry key args signal target world
    let muted := invoke handle registry key args signal target (world.mute chain)
    (∀ stage ∈ run.stages, stage.Quiet) → (∀ stage ∈ muted.stages, stage.Quiet) →
      run.stages.flatMap Stage.starts = muted.stages.flatMap Stage.starts ∧
        run.outcome = muted.outcome := by
  rw [invoke_of_lookup h, invoke_of_lookup ((world.lookup_mute chain registry key).trans h)]
  intro run muted hquiet hquiet'
  have hbegin : Progress.Like alike
      ⟨[], .new key args signal, (world.acquire registry key args signal).2⟩
      ⟨[], .new key args signal, ((world.mute chain).acquire registry key args signal).2⟩ :=
    ⟨rfl, rfl, hstart⟩
  obtain ⟨verdict, core, core', hrun, hguard, hcore⟩ :=
    (guarded_runGuarded handle chain target _).like hbegin hlike
  have hrun' := hguard.eq
  constructor
  · exact (starts_runAdvised key hrun).trans (hcore.starts.trans (starts_runAdvised key hrun').symm)
  · have houtcome := outcome_runAdvised_of_quiet key hrun hquiet
    have houtcome' := outcome_runAdvised_of_quiet key hrun' hquiet'
    rw [← hcore.frame] at houtcome'
    exact houtcome.trans houtcome'.symm

theorem counting_gate_tells_muted_chain :
    let handle : Handle Bool Unit := fun strict frame world =>
      ⟨if strict && (world.chain 0).size == 2 then .failed (.message "crowded") else .done,
        frame, world⟩
    let world : World Bool Unit := .single ⟨"f"⟩
      ⟨[⟨.before, 0, "gate", true⟩, ⟨.after, 0, "watch", false⟩]⟩
    let run := invoke handle 0 ⟨"f"⟩ [] .never (.ofResult 0 .unit) world
    let muted := invoke handle 0 ⟨"f"⟩ [] .never (.ofResult 0 .unit) (world.mute 0)
    world.lookup 0 ⟨"f"⟩ = .ok 0 ∧
      (∀ frame world, handle false frame world = ⟨.done, frame, world⟩) ∧
      (∀ stage ∈ run.stages, stage.Quiet) ∧ (∀ stage ∈ muted.stages, stage.Quiet) ∧
      run.outcome ≠ muted.outcome := by
  refine ⟨World.lookup_single (by decide) _, fun _ _ => rfl, ?_⟩
  decide +kernel

theorem failing_observers_do_not_interfere :
    let world : World Habit Unit := .single ⟨"f"⟩
      ⟨[⟨.before, 0, "mark", ⟨(·.setSkipped true), .done⟩⟩,
        ⟨.around, 0, "clear", ⟨(·.setSkipped false), .done⟩⟩,
        ⟨.afterReturning, 0, "count", ⟨id, .unwound (.ofText "offline")⟩⟩,
        ⟨.after, 0, "report", ⟨id, .failed (.message "offline")⟩⟩]⟩
    let target : Target Habit Unit := Landing.ofResult 0 .unit
    let run := invoke Habit.handle 0 ⟨"f"⟩ [] .never target world
    let muted := invoke Habit.handle 0 ⟨"f"⟩ [] .never target (world.mute 0)
    world.lookup 0 ⟨"f"⟩ = .ok 0 ∧ Likeness (World.SameGates 0) Habit.handle 0 target ∧
      World.SameGates 0 (world.acquire 0 ⟨"f"⟩ [] .never).2
        ((world.mute 0).acquire 0 ⟨"f"⟩ [] .never).2 ∧
      (∀ stage ∈ run.stages, stage.Quiet) ∧ (∀ stage ∈ muted.stages, stage.Quiet) ∧
      run.stages.flatMap Stage.starts = muted.stages.flatMap Stage.starts ∧
      run.outcome = muted.outcome := by
  intro world target run muted
  have hlookup : world.lookup 0 ⟨"f"⟩ = .ok 0 := World.lookup_single (by decide) _
  have hlike : Likeness (World.SameGates 0) Habit.handle 0 target := by
    apply likeness_sameGates
    · intro habit frame world other
      exact ⟨rfl, rfl, rfl, rfl⟩
    · intro frame world other
      simp only [target, Landing.ofResult]
      cases frame.setResult 0 .unit with
      | error refusal => exact ⟨rfl, rfl, rfl, rfl⟩
      | ok left => exact ⟨rfl, rfl, rfl, rfl⟩
  have hstart : World.SameGates 0 (world.acquire 0 ⟨"f"⟩ [] .never).2
      ((world.mute 0).acquire 0 ⟨"f"⟩ [] .never).2 := by
    rw [World.acquire_mute]
    exact World.sameGates_mute _ 0
  have hquiet : ∀ stage ∈ run.stages, stage.Quiet := by
    unfold run target world
    decide +kernel
  have hquiet' : ∀ stage ∈ muted.stages, stage.Quiet := by
    unfold muted target world
    decide +kernel
  have hsame := invoke_mute hlookup hlike [] .never hstart hquiet hquiet'
  exact ⟨hlookup, hlike, hstart, hquiet, hquiet', hsame⟩

end Intercept
