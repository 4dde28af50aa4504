import Intercept.Proofs.Call.Closing
import Intercept.Proofs.Call.Single
import Intercept.Proofs.Call.Visits

/-!
# What becomes of an unwinding

A gatekeeper that does not pass and a target that unwinds raise a payload.  It lies in the frame while
AfterThrowing and After run, so the call unwinds with it exactly if it is still there behind After.
Observers that keep the payload of their frame cannot stop an unwinding; one that resets its frame
makes the call return.
-/

namespace Intercept

variable {H U : Type}

namespace Stage

def raised? : Stage H U → Option Payload
  | .phase which _ _ run => if which.isGatekeeper then (run.verdict which).raised? else none
  | .target _ _ landing => landing.payload

def KeepsPayload (stage : Stage H U) : Prop :=
  stage.Watches fun found left => left.payload = found.payload

instance (stage : Stage H U) : Decidable stage.KeepsPayload :=
  inferInstanceAs (Decidable (stage.Watches fun found left => left.payload = found.payload))

end Stage

/-! ## The verdict hears what is raised -/

/-- What a stage behind has raised is what the verdict raises. -/
def Heard (result : Verdict × Progress H U) : Prop :=
  result.2.All fun stage => ∀ payload, stage.raised? = some payload →
    result.1.raised? = some payload

namespace Progress

def Calm (progress : Progress H U) : Prop :=
  progress.All fun stage => stage.raised? = none

variable {handle : Handle H U} {chain : ChainId} {target : Target H U} {progress : Progress H U}

theorem Calm.heard (h : progress.Calm) (verdict : Verdict) : Heard (verdict, progress) := by
  intro stage hmem payload hraised
  rw [h stage hmem] at hraised
  cases hraised

theorem Calm.heard_snoc (h : progress.Calm) {next : Progress H U} {stage : Stage H U}
    {verdict : Verdict} (hstages : next.stages = progress.stages ++ [stage])
    (hstage : stage.raised? = verdict.raised?) : Heard (verdict, next) := by
  apply All.snoc (h.heard verdict) hstages
  intro payload hraised
  rw [← hstage]
  exact hraised

theorem Calm.record (h : progress.Calm) (event : Event) : (progress.record event).Calm := h

theorem Calm.pass (h : progress.Calm) (phase : Phase) {run : PhaseRun H U}
    (passed : run.ending = .passed) : (progress.pass phase run).Calm := by
  apply All.snoc h (progress.stages_pass phase run)
  rw [Stage.raised?, run.verdict_of_passed passed]
  exact ite_self none

theorem Calm.watch (h : progress.Calm) {phase : Phase} (hobserver : phase.isGatekeeper = false) :
    (progress.watch handle chain phase).Calm := by
  apply All.snoc h (progress.stages_watch handle chain phase)
  rw [Stage.raised?, hobserver, if_neg Bool.false_ne_true]

theorem Calm.watchReturn (h : progress.Calm) : (progress.watchReturn handle chain).Calm := by
  rw [Progress.watchReturn]
  split
  · exact h.watch rfl
  · exact h

theorem Calm.arrive (h : progress.Calm) {landing : Landing H U} (landed : landing.payload = none) :
    (progress.arrive landing).Calm :=
  All.snoc h (progress.stages_arrive landing) landed

theorem Calm.entered (h : progress.Calm) {before around : PhaseRun H U}
    (hentered : Entered handle chain progress before around) (passed : around.ending = .passed) :
    ((progress.pass .before before).pass .around around).Calm :=
  (h.pass .before hentered.passed).pass .around passed

theorem Calm.reaches {gates : Progress H U} (h : progress.Calm)
    (hgates : Reaches handle chain progress gates) : gates.Calm := by
  cases hgates with
  | direct hbefore passed bare => exact h.pass .before passed
  | around hentered passed unskipped => exact h.entered hentered passed

theorem Calm.heard_guarded {result : Verdict × Progress H U} (h : progress.Calm)
    (hguard : Guarded handle chain target progress result) : Heard result := by
  cases hguard with
  | heldBefore hbefore held => exact h.heard_snoc (stages_pass ..) rfl
  | heldAround hentered held =>
      exact (h.pass .before hentered.passed).heard_snoc (stages_pass ..) rfl
  | skipped hentered passed skipped =>
      exact ((h.entered hentered passed).record _).watchReturn.heard .completed
  | returned hgates hlanding landed =>
      exact ((h.reaches hgates).arrive landed).watchReturn.heard .completed
  | threw hgates hlanding thrown =>
      exact (h.reaches hgates).heard_snoc (stages_arrive ..) thrown

end Progress

theorem Heard.calm {progress : Progress H U} (h : Heard (.completed, progress)) :
    progress.Calm := by
  intro stage hmem
  cases hraised : stage.raised? with
  | none => rfl
  | some payload => cases h stage hmem payload hraised

theorem runGuarded_of_raising {handle : Handle H U} {chain : ChainId} {key : Key}
    {target : Target H U} {frame : Frame} {world : World H U} {stage : Stage H U}
    {payload : Payload}
    (hmem : stage ∈ (runAdvised handle chain key target frame world).stages)
    (hraised : stage.raised? = some payload) :
    ∃ (verdict : Verdict) (core : Progress H U),
      runGuarded handle chain target ⟨[], frame, world⟩ = (verdict, core) ∧
      verdict.raised? = some payload ∧
      runAdvised handle chain key target frame world =
        unwind handle chain payload (core.announce key verdict) := by
  have hstart : (⟨[], frame, world⟩ : Progress H U).Calm := Progress.all_nil _ frame world
  have hheard := hstart.heard_guarded (guarded_runGuarded handle chain target ⟨[], frame, world⟩)
  have hclosed := closed_runAdvised handle chain key target frame world
  generalize runGuarded handle chain target ⟨[], frame, world⟩ = result at hheard hclosed ⊢
  generalize runAdvised handle chain key target frame world = run at hmem hclosed ⊢
  cases hclosed with
  | completed progress =>
      -- A completed call has raised nothing, against the stage at hand.
      rw [(hheard.calm.watch rfl) stage hmem] at hraised
      cases hraised
  | @raised verdict raised progress hverdict =>
      rw [unwind_eq] at hmem
      simp only [Progress.throwWith, Progress.stages_watch, Progress.stages_raise,
        Progress.stages_announce, List.append_assoc, List.mem_append, List.mem_singleton] at hmem
      have hsame : verdict.raised? = some payload := by
        rcases hmem with hbehind | rfl | rfl
        · exact hheard stage hbehind payload hraised
        · cases hraised
        · cases hraised
      rw [hverdict] at hsame
      cases hsame
      exact ⟨verdict, progress, rfl, hverdict, rfl⟩

theorem runAdvised_of_raising {handle : Handle H U} {chain : ChainId} {key : Key}
    {target : Target H U} {frame : Frame} {world : World H U} {stage : Stage H U}
    {payload : Payload}
    (hmem : stage ∈ (runAdvised handle chain key target frame world).stages)
    (hraised : stage.raised? = some payload) :
    ∃ progress : Progress H U, runAdvised handle chain key target frame world =
      unwind handle chain payload progress := by
  obtain ⟨verdict, core, -, -, hrun⟩ := runGuarded_of_raising hmem hraised
  exact ⟨_, hrun⟩

/-! ## What the caller gets -/

/--
A raised payload reaches the caller exactly if After leaves it in the frame; the call returns exactly
if After leaves none there.  Observers that keep the payload of their frame leave it.
-/
theorem invoke_unwinds_iff_payload_left {world : World H U} {registry : RegistryId} {key : Key}
    {chain : ChainId} (h : world.lookup registry key = .ok chain) (handle : Handle H U)
    (args : List Value) (signal : Signal) (target : Target H U) :
    let run := invoke handle registry key args signal target world
    ∀ stage ∈ run.stages, ∀ payload, stage.raised? = some payload →
      (∃ behind thrown world' throwing after,
        run.stages = behind ++ [.phase .afterThrowing thrown world' throwing,
          .phase .after throwing.frame throwing.world after] ∧
        thrown.payload = some payload ∧
        (run.outcome = .unwound payload ↔ after.frame.payload = some payload) ∧
        ((∃ frame, run.outcome = .returned frame) ↔ after.frame.payload = none)) ∧
      ((∀ other ∈ run.stages, other.KeepsPayload) → run.outcome = .unwound payload) := by
  rw [invoke_of_lookup h]
  intro run stage hmem payload hraised
  obtain ⟨progress, hrun⟩ := runAdvised_of_raising hmem hraised
  rw [unwind_eq] at hrun
  have hstages : run.stages = (progress.throwWith handle chain payload).stages :=
    congrArg CallRun.stages hrun
  have houtcome : run.outcome = .ofFrame (progress.throwWith handle chain payload).frame :=
    congrArg CallRun.outcome hrun
  simp only [Progress.throwWith, Progress.stages_watch, Progress.frame_watch,
    Progress.world_watch, Progress.stages_raise, List.append_assoc,
    List.singleton_append] at hstages
  simp only [Progress.throwWith, Progress.frame_watch, Progress.world_watch] at houtcome
  refine ⟨⟨_, _, _, _, _, hstages, rfl, ?_, ?_⟩, ?_⟩
  · rw [houtcome]
    exact Outcome.ofFrame_eq_unwound_iff
  · rw [houtcome]
    constructor
    · rintro ⟨frame, hreturned⟩
      exact (Outcome.ofFrame_eq_returned_iff.mp hreturned).1
    · intro hnone
      exact ⟨_, Outcome.ofFrame_eq_returned_iff.mpr ⟨hnone, rfl⟩⟩
  · intro hkeep
    rw [hstages] at hkeep
    have hthrowing := Stage.Watches.rel
      (hkeep _ (List.mem_append_right _ List.mem_cons_self)) rfl
      (fun _ => rfl) (fun hfg hgk => hgk.trans hfg)
    have hafter := Stage.Watches.rel
      (hkeep _ (List.mem_append_right _ (List.mem_cons_of_mem _ (List.mem_singleton_self _)))) rfl
      (fun _ => rfl) (fun hfg hgk => hgk.trans hfg)
    rw [houtcome, Outcome.ofFrame_eq_unwound_iff]
    exact hafter.trans hthrowing

theorem reset_absorbs_unwinding :
    let world : World Habit Unit := .single ⟨"f"⟩ ⟨[⟨.after, 0, "wipe", ⟨Frame.reset, .done⟩⟩]⟩
    let run := invoke Habit.handle 0 ⟨"f"⟩ [] .never
      (fun frame world => ⟨some (.ofText "boom"), frame, world⟩) world
    world.lookup 0 ⟨"f"⟩ = .ok 0 ∧
      run.stages.map Stage.raised? = [none, some (.ofText "boom"), none, none] ∧
      run.outcome = .returned .blank := by
  refine ⟨World.lookup_single (by decide) _, ?_⟩
  decide +kernel

theorem complaining_observer_keeps_unwinding :
    let world : World Habit Unit := .single ⟨"f"⟩
      ⟨[⟨.afterThrowing, 0, "report", ⟨(·.setError (.message "late")), .unwound (.ofText "offline")⟩⟩]⟩
    let run := invoke Habit.handle 0 ⟨"f"⟩ [] .never
      (fun frame world => ⟨some (.ofText "boom"), frame, world⟩) world
    world.lookup 0 ⟨"f"⟩ = .ok 0 ∧ ∃ stage ∈ run.stages, stage.raised? = some (.ofText "boom") ∧
      (∀ other ∈ run.stages, other.KeepsPayload) ∧ run.outcome = .unwound (.ofText "boom") := by
  intro world run
  have hlookup : world.lookup 0 ⟨"f"⟩ = .ok 0 := World.lookup_single (by decide) _
  have hraised : ∃ stage ∈ run.stages, stage.raised? = some (.ofText "boom") := by
    unfold run world
    decide +kernel
  have hkeep : ∀ other ∈ run.stages, other.KeepsPayload := by
    unfold run world
    decide +kernel
  obtain ⟨stage, hmem, hstage⟩ := hraised
  have hgets := invoke_unwinds_iff_payload_left hlookup Habit.handle [] .never
    (fun frame world => ⟨some (.ofText "boom"), frame, world⟩) stage hmem _ hstage
  exact ⟨hlookup, stage, hmem, hstage, hkeep, hgets.2 hkeep⟩

end Intercept
