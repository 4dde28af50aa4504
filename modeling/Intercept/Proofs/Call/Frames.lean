import Intercept.Proofs.Call.Closing
import Intercept.Proofs.Call.Visits

/-!
# The frame along a call

What every handler of a stage does to its frame, if it may be done again and again, the gatekeepers of
a call do together, and so do its observers.
-/

namespace Intercept

variable {H U : Type}

/-- `P` holds of every handler that runs in the stage, for the phase it runs in. -/
def Stage.Each (P : Phase → Visit H U → Prop) : Stage H U → Prop
  | .phase which _ _ run => ∀ visit ∈ run.visits, P which visit
  | .target _ _ _ => True

instance (P : Phase → Visit H U → Prop) [∀ which visit, Decidable (P which visit)]
    (stage : Stage H U) : Decidable (stage.Each P) :=
  match stage with
  | .phase which _ _ run => inferInstanceAs (Decidable (∀ visit ∈ run.visits, P which visit))
  | .target _ _ _ => .isTrue trivial

theorem Stage.Each.mono {P Q : Phase → Visit H U → Prop} {stage : Stage H U} (h : stage.Each P)
    (himp : ∀ which visit, P which visit → Q which visit) : stage.Each Q := by
  cases stage with
  | phase which frame world run => exact fun visit hmem => himp which visit (h visit hmem)
  | target frame world landing => trivial

def Visit.Relates (R : Frame → Frame → Prop) (visit : Visit H U) : Prop :=
  R visit.frame visit.step.frame

instance (R : Frame → Frame → Prop) [DecidableRel R] (visit : Visit H U) :
    Decidable (visit.Relates R) :=
  inferInstanceAs (Decidable (R _ _))

namespace Progress

variable {P : Stage H U → Prop}

theorem all_pass {progress : Progress H U} {phase : Phase} {run : PhaseRun H U} :
    (progress.pass phase run).All P ↔
      progress.All P ∧ P (.phase phase progress.frame progress.world run) := by
  simp [All, or_imp, forall_and]

theorem all_arrive {progress : Progress H U} {landing : Landing H U} :
    (progress.arrive landing).All P ↔
      progress.All P ∧ P (.target progress.frame progress.world landing) := by
  simp [All, or_imp, forall_and]

theorem all_watch {handle : Handle H U} {chain : ChainId} {phase : Phase}
    {progress : Progress H U} : (progress.watch handle chain phase).All P ↔
      progress.All P ∧ P (.phase phase progress.frame progress.world
        (watchPhase handle chain phase progress.frame progress.world)) :=
  all_pass

end Progress

section

variable {R : Frame → Frame → Prop} (hrefl : ∀ f, R f f)
  (htrans : ∀ {f g k}, R f g → R g k → R f k)
  {handle : Handle H U} {chain : ChainId}

include hrefl htrans

theorem rel_runPhase {phase : Phase} {frame : Frame} {world : World H U} {run : PhaseRun H U}
    (hrun : runPhase handle chain phase frame world = run)
    (hvisits : ∀ visit ∈ run.visits, visit.Relates R) : R frame run.frame := by
  subst hrun
  exact (ran_runPhase handle chain phase frame world).frame_rel hrefl htrans hvisits

theorem rel_watchPhase {phase : Phase} {frame : Frame} {world : World H U}
    (hvisits : ∀ visit ∈ (watchPhase handle chain phase frame world).visits, visit.Relates R) :
    R frame (watchPhase handle chain phase frame world).frame := by
  rw [visits_watchPhase] at hvisits
  rw [frame_watchPhase]
  exact rel_runPhase hrefl htrans rfl hvisits

theorem rel_found_watchPhase {phase : Phase} {frame : Frame} {world : World H U}
    (hvisits : ∀ visit ∈ (watchPhase handle chain phase frame world).visits, visit.Relates R) :
    ∀ visit ∈ (watchPhase handle chain phase frame world).visits, R frame visit.frame := by
  rw [visits_watchPhase] at hvisits ⊢
  exact (ran_runPhase handle chain phase frame world).found_rel hrefl htrans hvisits

variable {start : Progress H U}

theorem Entered.rel {before around : PhaseRun H U}
    (h : Entered handle chain start before around)
    (hstages : ((start.pass .before before).pass .around around).All
      (Stage.Each fun _ visit => visit.Relates R)) : R start.frame around.frame := by
  obtain ⟨hfirst, haround⟩ := Progress.all_pass.mp hstages
  obtain ⟨-, hbefore⟩ := Progress.all_pass.mp hfirst
  exact htrans (rel_runPhase hrefl htrans h.hbefore hbefore)
    (rel_runPhase hrefl htrans h.haround haround)

theorem Reaches.rel {gates : Progress H U} (h : Reaches handle chain start gates)
    (hstages : gates.All (Stage.Each fun _ visit => visit.Relates R)) :
    R start.frame gates.frame := by
  cases h with
  | direct hbefore passed bare =>
      exact rel_runPhase hrefl htrans hbefore (Progress.all_pass.mp hstages).2
  | around hentered passed unskipped => exact hentered.rel hrefl htrans hstages

theorem rel_watchReturn {progress : Progress H U}
    (hstages : (progress.watchReturn handle chain).All
      (Stage.Each fun _ visit => visit.Relates R)) :
    R progress.frame (progress.watchReturn handle chain).frame := by
  rw [Progress.watchReturn] at hstages ⊢
  split at hstages
  · rw [if_pos (by assumption)]
    exact rel_watchPhase hrefl htrans (Progress.all_watch.mp hstages).2
  · rw [if_neg (by assumption)]
    exact hrefl _

end

end Intercept
