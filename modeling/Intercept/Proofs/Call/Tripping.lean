import Intercept.Proofs.Call.Moves

/-!
# Phases under a tripped signal

A signal trips when its token is cancelled or its deadline has passed.  A phase that begins then
starts no handler: with an empty queue it passes unseen, with any other it is interrupted.
-/

namespace Intercept

variable {H U : Type}

namespace Signal

def Tripped (signal : Signal) (moment : Moment) : Prop :=
  signal.tokenCancelled moment = true ∨ signal.deadlinePassed moment = true

instance (signal : Signal) (moment : Moment) : Decidable (signal.Tripped moment) :=
  inferInstanceAs (Decidable (_ ∨ _))

def reason (signal : Signal) (moment : Moment) : Trip :=
  if signal.tokenCancelled moment then .cancelled else .deadlineExceeded

variable {signal : Signal} {moment : Moment}

theorem check_of_tripped (h : signal.Tripped moment) :
    signal.check moment = some (signal.reason moment) := by
  cases htoken : signal.tokenCancelled moment with
  | true => simp [check, reason, htoken]
  | false =>
      have hdeadline : signal.deadlinePassed moment = true :=
        h.resolve_left (by simp [htoken])
      simp [check, reason, htoken, hdeadline]

theorem tripped_iff_check : signal.Tripped moment ↔ signal.check moment ≠ none := by
  rw [Tripped, Ne, check_eq_none_iff]
  cases signal.tokenCancelled moment <;> cases signal.deadlinePassed moment <;> decide

theorem Tripped.mono {later : Moment} (h : signal.Tripped moment) (hlater : moment.Precedes later) :
    signal.Tripped later :=
  h.imp (tokenCancelled_mono hlater) (deadlinePassed_mono hlater)

end Signal

/-! ## Phases -/

/-- How a phase ends that comes to `queue` when the signal has tripped for that reason. -/
def Phase.halted (phase : Phase) (reason : Trip) : List (Advice H) → Ending
  | [] => .passed
  | _ :: _ => .stopped (.interrupted phase reason)

variable {handle : Handle H U} {chain : ChainId} {phase : Phase} {queue : List (Advice H)}
  {frame : Frame} {world : World H U} {run : PhaseRun H U}

theorem Ran.eq_of_tripped (h : Ran handle phase queue frame world run)
    (htripped : frame.signal.Tripped world.moment) :
    run = ⟨[], phase.halted (frame.signal.reason world.moment) queue, frame, world⟩ := by
  have hcheck := Signal.check_of_tripped htripped
  cases h with
  | finished => rfl
  | interrupted tripped =>
      rw [hcheck, Option.some.injEq] at tripped
      rw [Phase.halted, tripped]
  | done untripped hvisit hexit hrest =>
      rw [hcheck] at untripped
      cases untripped
  | failed untripped hvisit hexit =>
      rw [hcheck] at untripped
      cases untripped
  | unwound untripped hvisit hexit =>
      rw [hcheck] at untripped
      cases untripped

theorem Ran.tripped_of_no_visits (h : Ran handle phase queue frame world run)
    (hvisits : run.visits = []) (hheld : run.ending ≠ .passed) :
    run.frame.signal.Tripped run.world.moment := by
  cases h with
  | finished => exact absurd rfl hheld
  | interrupted tripped =>
      rw [Signal.tripped_iff_check, tripped]
      exact Option.some_ne_none _
  | done untripped hvisit hexit hrest => cases hvisits
  | failed untripped hvisit hexit => cases hvisits
  | unwound untripped hvisit hexit => cases hvisits

@[simp] theorem moment_watchPhase (handle : Handle H U) (chain : ChainId) (phase : Phase)
    (frame : Frame) (world : World H U) :
    (watchPhase handle chain phase frame world).world.moment =
      (runPhase handle chain phase frame world).world.moment := by
  rw [watchPhase]
  split <;> rfl

/-! ## Progress -/

namespace Progress

variable {progress : Progress H U}

def Tripped (progress : Progress H U) : Prop :=
  progress.frame.signal.Tripped progress.world.moment

theorem Tripped.watch (h : progress.Tripped) (handle : Handle H U) (chain : ChainId)
    (phase : Phase) :
    (progress.watch handle chain phase).moves chain = progress.moves chain ∧
      (progress.watch handle chain phase).frame = progress.frame ∧
      (progress.watch handle chain phase).world.moment = progress.world.moment := by
  have hran := ran_runPhase handle chain phase progress.frame progress.world
  have hrun := hran.eq_of_tripped h
  refine ⟨?_, ?_, ?_⟩
  · rw [moves_watch, hrun]
    exact List.append_nil _
  · rw [frame_watch, frame_watchPhase, hrun]
  · rw [world_watch, moment_watchPhase, hrun]

theorem Tripped.moves_throwWith (h : progress.Tripped) (handle : Handle H U) (chain : ChainId)
    (payload : Payload) :
    (progress.throwWith handle chain payload).moves chain = progress.moves chain := by
  have hraise : (progress.raise payload).Tripped := h
  obtain ⟨hmoves, hframe, hmoment⟩ := hraise.watch handle chain .afterThrowing
  have hthrowing : ((progress.raise payload).watch handle chain .afterThrowing).Tripped := by
    rw [Tripped, hframe, hmoment]
    exact hraise
  rw [throwWith, (hthrowing.watch handle chain .after).1, hmoves, moves_raise]

theorem Tripped.announce (h : progress.Tripped) (key : Key) (verdict : Verdict) :
    (progress.announce key verdict).Tripped := by
  cases verdict with
  | completed => exact h
  | vetoed veto => exact h
  | unwound payload => exact h

end Progress

end Intercept
