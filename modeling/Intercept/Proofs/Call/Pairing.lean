import Intercept.Proofs.Call.Frames

/-!
# Two calls side by side

Two calls are compared step by step: a relation that is kept whenever both take the same step is kept
along the whole calls, and these end alike.  The comparison may rest on what the stages of the first
call show, which is `T` throughout.
-/

namespace Intercept

variable {H U : Type}

namespace Progress

/-- Where the guarded part ends, for what the gatekeepers and the target left: AfterReturning is due
if nothing is raised. -/
def settle (handle : Handle H U) (chain : ChainId) (verdict : Verdict) (progress : Progress H U) :
    Progress H U :=
  match verdict.raised? with
  | none => progress.watchReturn handle chain
  | some _ => progress

theorem settle_of_raised {handle : Handle H U} {chain : ChainId} {progress : Progress H U}
    {verdict : Verdict} {payload : Payload} (h : verdict.raised? = some payload) :
    progress.settle handle chain verdict = progress := by
  rw [settle, h]

/-- `S` is kept by the steps up to the target, and calls that it relates go on alike. -/
structure Paired (handle : Handle H U) (chain : ChainId) (target : Target H U)
    (T : Stage H U → Prop) (S : Progress H U → Progress H U → Prop) : Prop where
  frame : ∀ {progress other : Progress H U}, S progress other → progress.frame = other.frame
  around : ∀ {progress other : Progress H U}, S progress other →
    ((progress.world.chain chain).bucket .around = [] ↔
      (other.world.chain chain).bucket .around = [])
  pass : ∀ {progress other : Progress H U} {phase : Phase} {run : PhaseRun H U},
    phase.isGatekeeper = true → S progress other →
    runPhase handle chain phase progress.frame progress.world = run →
    T (.phase phase progress.frame progress.world run) →
    let run' := runPhase handle chain phase other.frame other.world
    run.ending = run'.ending ∧ S (progress.pass phase run) (other.pass phase run')
  arrive : ∀ {progress other : Progress H U} {landing : Landing H U}, S progress other →
    target progress.frame progress.world = landing →
    let landing' := target other.frame other.world
    landing.payload = landing'.payload ∧ S (progress.arrive landing) (other.arrive landing')
  record : ∀ {progress other : Progress H U}, S progress other → ∀ event,
    S (progress.record event) (other.record event)

structure PairedThroughout (handle : Handle H U) (chain : ChainId) (target : Target H U)
    (T : Stage H U → Prop) (S : Progress H U → Progress H U → Prop) : Prop
    extends Paired handle chain target T S where
  watch : ∀ {progress other : Progress H U} {phase : Phase}, phase.isGatekeeper = false →
    S progress other →
    T (.phase phase progress.frame progress.world
      (watchPhase handle chain phase progress.frame progress.world)) →
    S (progress.watch handle chain phase) (other.watch handle chain phase)
  raise : ∀ {progress other : Progress H U}, S progress other → ∀ payload,
    S (progress.raise payload) (other.raise payload)

end Progress

variable {handle : Handle H U} {chain : ChainId} {target : Target H U} {T : Stage H U → Prop}
  {S : Progress H U → Progress H U → Prop} {progress other : Progress H U}

/-! ## The guarded part -/

theorem Entered.paired {before around : PhaseRun H U}
    (hentered : Entered handle chain progress before around)
    (hpaired : Progress.Paired handle chain target T S) (h : S progress other)
    (hstages : ((progress.pass .before before).pass .around around).All T) :
    ∃ before' around', Entered handle chain other before' around' ∧
      around.ending = around'.ending ∧
      S ((progress.pass .before before).pass .around around)
        ((other.pass .before before').pass .around around') := by
  obtain ⟨hbefore, passed, advised, haround⟩ := hentered
  obtain ⟨hfirst, hsecond⟩ := Progress.all_pass.mp hstages
  obtain ⟨hending, hpass⟩ := hpaired.pass rfl h hbefore (Progress.all_pass.mp hfirst).2
  obtain ⟨hending', hpass'⟩ := hpaired.pass rfl hpass haround hsecond
  have hbare := hpaired.around hpass
  rw [hending] at passed
  rw [Progress.world_pass, Progress.world_pass] at hbare
  rw [Ne, hbare] at advised
  exact ⟨_, _, ⟨rfl, passed, advised, rfl⟩, hending', hpass'⟩

theorem Reaches.paired {gates : Progress H U} (hgates : Reaches handle chain progress gates)
    (hpaired : Progress.Paired handle chain target T S) (h : S progress other)
    (hstages : gates.All T) : ∃ gates', Reaches handle chain other gates' ∧ S gates gates' := by
  cases hgates with
  | direct hbefore passed bare =>
      obtain ⟨hending, hpass⟩ := hpaired.pass rfl h hbefore (Progress.all_pass.mp hstages).2
      have hbare := hpaired.around hpass
      rw [hending] at passed
      rw [Progress.world_pass, Progress.world_pass] at hbare
      rw [hbare] at bare
      exact ⟨_, .direct rfl passed bare, hpass⟩
  | around hentered passed unskipped =>
      obtain ⟨before', around', hentered', hending, hpass⟩ := hentered.paired hpaired h hstages
      have hframe := hpaired.frame hpass
      rw [hending] at passed
      rw [Progress.frame_pass, Progress.frame_pass] at hframe
      rw [hframe] at unskipped
      exact ⟨_, .around hentered' passed unskipped, hpass⟩

private theorem PhaseRun.verdict_congr {run run' : PhaseRun H U} (hending : run.ending = run'.ending)
    (hframe : run.frame = run'.frame) (phase : Phase) : run.verdict phase = run'.verdict phase := by
  rw [verdict, verdict, hending, hframe]

theorem Guarded.paired {result : Verdict × Progress H U}
    (hguard : Guarded handle chain target progress result)
    (hpaired : Progress.Paired handle chain target T S) (h : S progress other)
    (hstages : result.2.All T) :
    ∃ (verdict : Verdict) (core core' : Progress H U),
      result = (verdict, core.settle handle chain verdict) ∧
      Guarded handle chain target other (verdict, core'.settle handle chain verdict) ∧
      S core core' := by
  cases hguard with
  | @heldBefore before hbefore held =>
      obtain ⟨hending, hpass⟩ := hpaired.pass rfl h hbefore (Progress.all_pass.mp hstages).2
      obtain ⟨payload, hraised⟩ := PhaseRun.exists_raised held .before
      refine ⟨before.verdict .before, _, _, ?_, ?_, hpass⟩
      · rw [Progress.settle_of_raised hraised]
      · rw [Progress.settle_of_raised hraised,
          PhaseRun.verdict_congr hending (hpaired.frame hpass)]
        rw [hending] at held
        exact .heldBefore rfl held
  | @heldAround before around hentered held =>
      obtain ⟨before', around', hentered', hending, hpass⟩ := hentered.paired hpaired h hstages
      obtain ⟨payload, hraised⟩ := PhaseRun.exists_raised held .around
      refine ⟨around.verdict .around, _, _, ?_, ?_, hpass⟩
      · rw [Progress.settle_of_raised hraised]
      · rw [Progress.settle_of_raised hraised,
          PhaseRun.verdict_congr hending (hpaired.frame hpass)]
        rw [hending] at held
        exact .heldAround hentered' held
  | @skipped before around hentered passed skipped =>
      have hgates : ((progress.pass .before before).pass .around around).All T := fun stage hmem =>
        hstages stage (Progress.mem_watchReturn hmem)
      obtain ⟨before', around', hentered', hending, hpass⟩ := hentered.paired hpaired h hgates
      have hframe : around.frame = around'.frame := hpaired.frame hpass
      refine ⟨.completed, _, _, rfl, ?_, hpaired.record hpass _⟩
      rw [hending] at passed
      rw [hframe] at skipped ⊢
      exact .skipped hentered' passed skipped
  | @returned gates landing hgates hlanding landed =>
      have hcore : (gates.arrive landing).All T := fun stage hmem =>
        hstages stage (Progress.mem_watchReturn hmem)
      obtain ⟨gates', hgates', hreach⟩ := hgates.paired hpaired h (Progress.all_arrive.mp hcore).1
      obtain ⟨hpayload, harrive⟩ := hpaired.arrive hreach hlanding
      rw [hpayload] at landed
      exact ⟨.completed, _, _, rfl, .returned hgates' rfl landed, harrive⟩
  | @threw gates landing payload hgates hlanding thrown =>
      obtain ⟨gates', hgates', hreach⟩ := hgates.paired hpaired h (Progress.all_arrive.mp hstages).1
      obtain ⟨hpayload, harrive⟩ := hpaired.arrive hreach hlanding
      rw [hpayload] at thrown
      exact ⟨.unwound payload, _, _, rfl, .threw hgates' rfl thrown, harrive⟩

/-! ## Whole calls -/

namespace Progress.PairedThroughout

variable (hpaired : PairedThroughout handle chain target T S)

include hpaired

theorem settle (h : S progress other) (verdict : Verdict)
    (hstages : (progress.settle handle chain verdict).All T) :
    S (progress.settle handle chain verdict) (other.settle handle chain verdict) := by
  rw [Progress.settle] at hstages ⊢
  rw [Progress.settle]
  cases hraised : verdict.raised? with
  | none =>
      simp only [hraised, watchReturn, ← hpaired.frame h] at hstages ⊢
      split
      · next hclean =>
          rw [if_pos hclean] at hstages
          exact hpaired.watch rfl h (all_watch.mp hstages).2
      · exact h
  | some payload => exact h

theorem announce (h : S progress other) (key : Key) (verdict : Verdict) :
    S (progress.announce key verdict) (other.announce key verdict) := by
  cases verdict with
  | completed => exact h
  | vetoed veto => exact hpaired.record h _
  | unwound payload => exact h

theorem throwWith (h : S progress other) (payload : Payload)
    (hstages : (progress.throwWith handle chain payload).All T) :
    S (progress.throwWith handle chain payload) (other.throwWith handle chain payload) := by
  obtain ⟨hthrowing, hafter⟩ := all_watch.mp hstages
  exact hpaired.watch rfl (hpaired.watch rfl (hpaired.raise h payload) (all_watch.mp hthrowing).2)
    hafter

end Progress.PairedThroughout

structure CallRun.EndsAt (run : CallRun H U) (last : Progress H U) : Prop where
  stages : run.stages = last.stages
  world : run.world = last.world

theorem paired_runAdvised (hpaired : Progress.PairedThroughout handle chain target T S)
    {frame : Frame} {world world' : World H U} (h : S ⟨[], frame, world⟩ ⟨[], frame, world'⟩)
    (key : Key) :
    let run := runAdvised handle chain key target frame world
    let run' := runAdvised handle chain key target frame world'
    (∀ stage ∈ run.stages, T stage) →
      ∃ last last', S last last' ∧ run.EndsAt last ∧ run'.EndsAt last' ∧
        run.outcome = run'.outcome := by
  intro run run' hstages
  have hguard := guarded_runGuarded handle chain target ⟨[], frame, world⟩
  have hcore : (runGuarded handle chain target ⟨[], frame, world⟩).2.All T :=
    fun stage hmem => hstages stage (mem_runAdvised rfl hmem key)
  obtain ⟨verdict, core, core', hrun, hguard', hS⟩ := hguard.paired hpaired.toPaired h hcore
  rw [hrun] at hcore
  have hsettled := hpaired.settle hS verdict hcore
  cases hraised : verdict.raised? with
  | none =>
      have hverdict : verdict = .completed := verdict.raised?_eq_none_iff.mp hraised
      subst hverdict
      have hfinish : run = finish ((core.settle handle chain .completed).watch handle chain .after) :=
        runAdvised_of_completed key hrun
      have hfinish' :
          run' = finish ((core'.settle handle chain .completed).watch handle chain .after) :=
        runAdvised_of_completed key hguard'.eq
      rw [hfinish] at hstages
      have hafter := hpaired.watch rfl hsettled (Progress.all_watch.mp hstages).2
      rw [hfinish, hfinish']
      exact ⟨_, _, hafter, ⟨rfl, rfl⟩, ⟨rfl, rfl⟩, congrArg Outcome.returned (hpaired.frame hafter)⟩
  | some payload =>
      have hunwind : run = unwind handle chain payload
          ((core.settle handle chain verdict).announce key verdict) :=
        runAdvised_of_raised key hrun hraised
      have hunwind' : run' = unwind handle chain payload
          ((core'.settle handle chain verdict).announce key verdict) :=
        runAdvised_of_raised key hguard'.eq hraised
      rw [unwind_eq] at hunwind hunwind'
      rw [hunwind] at hstages ⊢
      rw [hunwind']
      have hthrown := hpaired.throwWith (hpaired.announce hsettled key verdict) payload hstages
      exact ⟨_, _, hthrown, ⟨rfl, rfl⟩, ⟨rfl, rfl⟩, congrArg Outcome.ofFrame (hpaired.frame hthrown)⟩

end Intercept
