import Intercept.Proofs.Call.Continuing
import Intercept.Proofs.Call.Stages
import Intercept.Proofs.Call.Unwinding

/-!
# Calls that throw

The stages of a call lead inward, past the gatekeepers to the target, and outward again, past the
observers.  A call that unwinds under mild handlers turns outward once: behind the stage that raised
the payload come AfterThrowing and After, and both have the payload in sight.
-/

namespace Intercept

variable {H U : Type}

def Mark.isInward : Mark → Bool
  | .phase which => which.isGatekeeper
  | .target => true

def Stage.landing? : Stage H U → Option (Landing H U)
  | .phase _ _ _ _ => none
  | .target _ _ landing => some landing

/-- The stages of a call that unwinds with `payload`, from whose way in AfterThrowing takes over in
`world`. -/
inductive Throws (payload : Payload) (world : World H U) : List (Stage H U) → Prop
  | intro {inward : List (Stage H U)} {frame : Frame} {throwing after : PhaseRun H U}
      (hinward : ∀ stage ∈ inward, stage.mark.isInward = true)
      (hthrowing : ∀ visit ∈ throwing.visits, visit.frame.payload = some payload)
      (hafter : ∀ visit ∈ after.visits, visit.frame.payload = some payload) :
      Throws payload world
        (inward ++ [.phase .afterThrowing frame world throwing,
          .phase .after throwing.frame throwing.world after])

/-! ## The way in -/

namespace Stage

def IsGate (stage : Stage H U) : Prop :=
  stage.mark = .phase .before ∨ stage.mark = .phase .around

theorem IsGate.isInward {stage : Stage H U} (h : stage.IsGate) : stage.mark.isInward = true := by
  rcases h with h | h <;> rw [h] <;> rfl

theorem IsGate.landing? {stage : Stage H U} (h : stage.IsGate) : stage.landing? = none := by
  cases stage with
  | phase which frame world run => rfl
  | target frame world landing => rcases h with h | h <;> cases h

end Stage

variable {handle : Handle H U} {chain : ChainId} {target : Target H U} {frame : Frame}
  {world : World H U} {verdict : Verdict} {core : Progress H U} {payload : Payload}

theorem all_isGate_pass {phase : Phase} {progress : Progress H U} {run : PhaseRun H U}
    (hphase : phase = .before ∨ phase = .around) (h : progress.All Stage.IsGate) :
    (progress.pass phase run).All Stage.IsGate := by
  refine Progress.all_pass.mpr ⟨h, ?_⟩
  rcases hphase with rfl | rfl
  · exact .inl rfl
  · exact .inr rfl

theorem Reaches.all_isGate {gates : Progress H U}
    (h : Reaches handle chain ⟨[], frame, world⟩ gates) : gates.All Stage.IsGate := by
  have hstart : (⟨[], frame, world⟩ : Progress H U).All Stage.IsGate := Progress.all_nil _ frame world
  cases h with
  | direct hbefore passed bare => exact all_isGate_pass (.inl rfl) hstart
  | around hentered passed unskipped =>
      exact all_isGate_pass (.inr rfl) (all_isGate_pass (.inl rfl) hstart)

theorem Guarded.inward_of_raised
    (h : Guarded handle chain target ⟨[], frame, world⟩ (verdict, core))
    (hraised : verdict.raised? = some payload) (key : Key) :
    (core.announce key verdict).All (fun stage => stage.mark.isInward = true) ∧
      (core.announce key verdict).All fun stage =>
        ∀ landing, stage.landing? = some landing →
          landing.world = (core.announce key verdict).world := by
  have hgates : ∀ {gates : Progress H U}, gates.All Stage.IsGate →
      gates.All (fun stage => stage.mark.isInward = true) ∧
        ∀ left : World H U, gates.All fun stage =>
          ∀ landing, stage.landing? = some landing → landing.world = left := by
    intro gates hall
    refine ⟨fun stage hmem => (hall stage hmem).isInward, ?_⟩
    intro left stage hmem landing hlanding
    rw [(hall stage hmem).landing?] at hlanding
    cases hlanding
  have hstart : (⟨[], frame, world⟩ : Progress H U).All Stage.IsGate := Progress.all_nil _ frame world
  simp only [Progress.All, Progress.stages_announce]
  cases h with
  | heldBefore hbefore held =>
      obtain ⟨hinward, hlanding⟩ := hgates (all_isGate_pass (.inl rfl) hstart)
      exact ⟨hinward, hlanding _⟩
  | heldAround hentered held =>
      obtain ⟨hinward, hlanding⟩ :=
        hgates (all_isGate_pass (.inr rfl) (all_isGate_pass (.inl rfl) hstart))
      exact ⟨hinward, hlanding _⟩
  | skipped hentered passed skipped => cases hraised
  | returned hgates' hlanding landed => cases hraised
  | @threw gates landing thrown hreaches hlanding hthrown =>
      obtain ⟨hinward, hnone⟩ := hgates hreaches.all_isGate
      refine ⟨Progress.all_arrive.mpr ⟨hinward, rfl⟩, Progress.all_arrive.mpr ⟨hnone _, ?_⟩⟩
      intro other hother
      cases hother
      rfl

theorem Reaches.passed {gates : Progress H U}
    (h : Reaches handle chain ⟨[], frame, world⟩ gates) {which : Phase} {found : Frame}
    {world' : World H U} {run : PhaseRun H U} (hmem : .phase which found world' run ∈ gates.stages) :
    run.ending = .passed := by
  cases h with
  | direct hbefore passed bare =>
      rw [Progress.stages_pass, List.nil_append, List.mem_singleton] at hmem
      cases hmem
      exact passed
  | around hentered passed unskipped =>
      simp only [Progress.stages_pass, List.nil_append, List.mem_append, List.mem_singleton] at hmem
      rcases hmem with hfirst | hthen
      · cases hfirst
        exact hentered.passed
      · cases hthen
        exact passed

theorem Guarded.continues_of_held
    (h : Guarded handle chain target ⟨[], frame, world⟩ (verdict, core))
    (hraised : verdict.raised? = some payload) (hmild : core.All Stage.Mild) {which : Phase}
    {found : Frame} {world' : World H U} {held : PhaseRun H U}
    (hmem : .phase which found world' held ∈ core.stages) (hheld : held.ending ≠ .passed) :
    frame.Continues held.frame := by
  cases h with
  | heldBefore hbefore held' =>
      rw [Progress.stages_pass, List.nil_append, List.mem_singleton] at hmem
      cases hmem
      exact rel_runPhase .refl .trans hbefore (Progress.all_pass.mp hmild).2
  | heldAround hentered held' =>
      simp only [Progress.stages_pass, List.nil_append, List.mem_append, List.mem_singleton] at hmem
      rcases hmem with hfirst | hthen
      · cases hfirst
        exact absurd hentered.passed hheld
      · cases hthen
        exact hentered.rel .refl .trans hmild
  | skipped hentered passed skipped => cases hraised
  | returned hgates hlanding landed => cases hraised
  | threw hgates hlanding thrown =>
      rw [Progress.stages_arrive, List.mem_append, List.mem_singleton] at hmem
      rcases hmem with hgate | htarget
      · exact absurd (hgates.passed hgate) hheld
      · cases htarget

/-! ## The way out -/

theorem Stage.Mild.found_payload {phase : Phase} {progress : Progress H U}
    (h : Stage.Mild (.phase phase progress.frame progress.world
      (watchPhase handle chain phase progress.frame progress.world)))
    (hpayload : progress.frame.payload = some payload) :
    (∀ visit ∈ (watchPhase handle chain phase progress.frame progress.world).visits,
      visit.frame.payload = some payload) ∧
      (progress.watch handle chain phase).frame.payload = some payload := by
  constructor
  · intro visit hmem
    have hfound := rel_found_watchPhase Frame.Continues.refl .trans h visit hmem
    exact hfound.payload.trans hpayload
  · have hleft := rel_watchPhase Frame.Continues.refl .trans h
    exact hleft.payload.trans hpayload

/-- A call of mild handlers, in which a stage raises a payload, unwinds with it. -/
theorem runAdvised_throws {key : Key} {stage : Stage H U}
    (hmem : stage ∈ (runAdvised handle chain key target frame world).stages)
    (hraised : stage.raised? = some payload)
    (hmild : ∀ other ∈ (runAdvised handle chain key target frame world).stages, other.Mild) :
    (runAdvised handle chain key target frame world).outcome = .unwound payload ∧
      ∃ left, Throws payload left (runAdvised handle chain key target frame world).stages ∧
        ∀ other ∈ (runAdvised handle chain key target frame world).stages,
          ∀ landing, other.landing? = some landing → landing.world = left := by
  obtain ⟨verdict, core, hcore, hverdict, hrun⟩ := runGuarded_of_raising hmem hraised
  have hguard := guarded_runGuarded handle chain target ⟨[], frame, world⟩
  rw [hcore] at hguard
  obtain ⟨hinward, hlandings⟩ := hguard.inward_of_raised hverdict key
  rw [hrun, unwind_eq] at hmild ⊢
  generalize core.announce key verdict = inner at hinward hlandings hmild
  have hall : (inner.throwWith handle chain payload).All Stage.Mild := hmild
  obtain ⟨hfront, hafter⟩ := Progress.all_watch.mp hall
  obtain ⟨-, hthrowing⟩ := Progress.all_watch.mp hfront
  obtain ⟨hseen, hleft⟩ := hthrowing.found_payload rfl
  obtain ⟨hseen', hleft'⟩ := hafter.found_payload hleft
  refine ⟨Outcome.ofFrame_eq_unwound_iff.mpr hleft', inner.world, ?_, ?_⟩
  · simp only [Progress.throwWith, Progress.stages_watch, Progress.stages_raise, List.append_assoc]
    exact .intro hinward hseen hseen'
  · have hnone : ∀ {phase : Phase} {frame : Frame} {world : World H U} {run : PhaseRun H U}
        (landing : Landing H U), (Stage.phase phase frame world run).landing? = some landing →
          landing.world = inner.world := by
      intro phase frame world run landing hlanding
      cases hlanding
    have hraise : (inner.raise payload).All fun stage =>
        ∀ landing, stage.landing? = some landing → landing.world = inner.world := hlandings
    exact Progress.all_watch.mpr ⟨Progress.all_watch.mpr ⟨hraise, hnone⟩, hnone⟩

theorem outcome_runAdvised_of_stopped {key : Key} {which : Phase} {found : Frame}
    {world' : World H U} {held : PhaseRun H U} {stop : Stop}
    (hmem : .phase which found world' held ∈ (runAdvised handle chain key target frame world).stages)
    (hgate : which.isGatekeeper = true) (hstop : held.ending = .stopped stop)
    (hmild : ∀ other ∈ (runAdvised handle chain key target frame world).stages, other.Mild) :
    (runAdvised handle chain key target frame world).outcome =
      .unwound (.veto ⟨frame.function, which, stop⟩) := by
  have hraised : (Stage.phase which found world' held).raised? =
      some (.veto ⟨held.frame.function, which, stop⟩) := by
    simp [Stage.raised?, hgate, PhaseRun.verdict, hstop, Verdict.raised?]
  have houtcome := (runAdvised_throws hmem hraised hmild).1
  obtain ⟨verdict, core, hcore, hverdict, hrun⟩ := runGuarded_of_raising hmem hraised
  have hguard := guarded_runGuarded handle chain target ⟨[], frame, world⟩
  rw [hcore] at hguard
  rw [hrun, unwind_eq] at hmem hmild
  simp only [Progress.throwWith, Progress.stages_watch, Progress.stages_raise,
    Progress.stages_announce, List.append_assoc, List.mem_append, List.mem_singleton] at hmem hmild
  have hheld : held.ending ≠ .passed := by
    intro hpassed
    rw [hstop] at hpassed
    cases hpassed
  have hcontinues : frame.Continues held.frame := by
    rcases hmem with hinner | hthrowing | hafter
    · exact hguard.continues_of_held hverdict (fun stage hstage => hmild stage (.inl hstage))
        hinner hheld
    · rw [(Stage.phase.inj hthrowing).1] at hgate
      cases hgate
    · rw [(Stage.phase.inj hafter).1] at hgate
      cases hgate
  rw [houtcome, hcontinues.function]

end Intercept
