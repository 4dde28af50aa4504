import Intercept.Proofs.Call.Moves
import Intercept.Proofs.Chain.Ranking

/-!
# How a phase goes through its queue

A phase runs its queue from the front.  It passes when all of it ran well, and otherwise stops at the
first handler that fails or unwinds, or in front of the first one that finds the signal tripped; how
the phase ended tells which of these it was.
-/

namespace Intercept

variable {H U : Type} {handle : Handle H U} {phase : Phase} {queue : List (Advice H)}
  {frame : Frame} {world : World H U} {run : PhaseRun H U}

/-! ## How a phase ends -/

def Visit.Done (visit : Visit H U) : Prop :=
  visit.step.exit = .done

/-- All handlers ran well, but perhaps for the last one. -/
inductive PhaseRun.Ends (phase : Phase) (queue : List (Advice H)) (run : PhaseRun H U) : Prop
  | passed (hdone : ∀ visit ∈ run.visits, visit.Done)
      (hall : run.visits.map Visit.advice = queue)
      (hending : run.ending = .passed)
  | interrupted {reason : Trip} (hdone : ∀ visit ∈ run.visits, visit.Done)
      (hdue : run.visits.length < queue.length)
      (tripped : run.frame.signal.check run.world.moment = some reason)
      (hending : run.ending = .stopped (.interrupted phase reason))
  | failed {last : Visit H U} {cause : Trail} (hlast : run.visits.getLast? = some last)
      (hexit : last.step.exit = .failed cause)
      (hending : run.ending = .stopped (.handler phase last.advice.name cause))
  | unwound {last : Visit H U} {payload : Payload} (hlast : run.visits.getLast? = some last)
      (hexit : last.step.exit = .unwound payload)
      (hending : run.ending = .unwound payload)

theorem PhaseRun.Ends.prepend (h : run.Ends phase queue) {visit : Visit H U}
    (hdone : visit.Done) : (run.prepend visit).Ends phase (visit.advice :: queue) := by
  have hkeep : ∀ {last : Visit H U}, run.visits.getLast? = some last →
      (visit :: run.visits).getLast? = some last := by
    intro last hlast
    rw [List.getLast?_cons, hlast, Option.getD_some]
  cases h with
  | passed hrest hall hending =>
      exact .passed (List.forall_mem_cons.mpr ⟨hdone, hrest⟩) (congrArg (_ :: ·) hall) hending
  | interrupted hrest hdue tripped hending =>
      exact .interrupted (List.forall_mem_cons.mpr ⟨hdone, hrest⟩) (Nat.succ_lt_succ hdue) tripped
        hending
  | failed hlast hexit hending => exact .failed (hkeep hlast) hexit hending
  | unwound hlast hexit hending => exact .unwound (hkeep hlast) hexit hending

namespace PhaseRun.Ends

theorem last_not_done (h : run.Ends phase queue) {last : Visit H U}
    (hlast : run.visits.getLast? = some last) (hexit : ¬last.Done) :
    (∃ cause, last.step.exit = .failed cause ∧
      run.ending = .stopped (.handler phase last.advice.name cause)) ∨
      ∃ payload, last.step.exit = .unwound payload ∧ run.ending = .unwound payload := by
  cases h with
  | passed hdone hall hending => exact absurd (hdone last (List.mem_of_getLast? hlast)) hexit
  | interrupted hdone hdue tripped hending =>
      exact absurd (hdone last (List.mem_of_getLast? hlast)) hexit
  | failed hlast' hexit' hending =>
      rw [hlast', Option.some.injEq] at hlast
      subst hlast
      exact .inl ⟨_, hexit', hending⟩
  | unwound hlast' hexit' hending =>
      rw [hlast', Option.some.injEq] at hlast
      subst hlast
      exact .inr ⟨_, hexit', hending⟩

theorem unwound_iff (h : run.Ends phase queue) {payload : Payload} :
    run.ending = .unwound payload ↔
      ∃ last, run.visits.getLast? = some last ∧ last.step.exit = .unwound payload := by
  constructor
  · intro hunwound
    cases h with
    | passed hdone hall hending => simp [hending] at hunwound
    | interrupted hdone hdue tripped hending => simp [hending] at hunwound
    | failed hlast hexit hending => simp [hending] at hunwound
    | unwound hlast hexit hending =>
        simp only [hending, Ending.unwound.injEq] at hunwound
        subst hunwound
        exact ⟨_, hlast, hexit⟩
  · rintro ⟨last, hlast, hexit⟩
    rcases h.last_not_done hlast (by simp [Visit.Done, hexit]) with ⟨cause, hother, -⟩ |
      ⟨other, hother, hending⟩
    · rw [hexit] at hother
      cases hother
    · rw [hexit, Exit.unwound.injEq] at hother
      rw [hending, hother]

end PhaseRun.Ends

/-! ## What the handlers find and leave -/

def Visit.worldLeft (world : World H U) (visits : List (Visit H U)) : World H U :=
  (visits.getLast?.map fun visit => visit.step.world).getD world

theorem Ran.untripped (h : Ran handle phase queue frame world run) :
    ∀ visit ∈ run.visits, visit.frame.signal.check visit.world.moment = none :=
  h.forall_visits fun _ _ _ _ untripped => untripped

theorem Ran.world_eq (h : Ran handle phase queue frame world run) :
    run.world = Visit.worldLeft world run.visits := by
  induction h with
  | finished frame world => rfl
  | interrupted tripped => rfl
  | @done advice queue frame world visit run untripped hvisit hexit hrest ih =>
      rw [Visit.worldLeft] at ih ⊢
      simp only [PhaseRun.prepend, List.getLast?_cons, ih]
      cases run.visits.getLast? <;> rfl
  | failed untripped hvisit hexit => rfl
  | unwound untripped hvisit hexit => rfl

/-! ## The phase -/

end Intercept
