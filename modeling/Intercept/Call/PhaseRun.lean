import Intercept.Call.Step
import Intercept.Journal.Events

/-!
# Running a phase

The handlers of a phase run one after the other on what the one before left.  Before each the signal
of the frame is checked; a tripped signal, a failing handler or an unwinding one ends the phase.  The
queue is fixed when the phase begins, so advice added meanwhile waits for the next run.
-/

namespace Intercept

inductive Ending where
  | passed
  | stopped (stop : Stop)
  | unwound (payload : Payload)
  deriving DecidableEq

/-- The handlers that ran, how the phase ended, and what it left. -/
structure PhaseRun (H U : Type) where
  visits : List (Visit H U)
  ending : Ending
  frame : Frame
  world : World H U

namespace PhaseRun

variable {H U : Type}

def prepend (visit : Visit H U) (run : PhaseRun H U) : PhaseRun H U :=
  { run with visits := visit :: run.visits }

def record (run : PhaseRun H U) (event : Event) : PhaseRun H U :=
  { run with world := run.world.record event }

end PhaseRun

variable {H U : Type}

def runQueue (handle : Handle H U) (phase : Phase) :
    List (Advice H) → Frame → World H U → PhaseRun H U
  | [], frame, world => ⟨[], .passed, frame, world⟩
  | advice :: queue, frame, world =>
    match frame.signal.check world.moment with
    | some reason => ⟨[], .stopped (.interrupted phase reason), frame, world⟩
    | none =>
      let world := world.record (.runningAdvice frame.function phase advice)
      let step := handle advice.handler frame world
      let visit : Visit H U := ⟨advice, frame, world, step⟩
      match step.exit with
      | .done => (runQueue handle phase queue step.frame step.world).prepend visit
      | .failed cause =>
          ⟨[visit], .stopped (.handler phase advice.name cause), step.frame, step.world⟩
      | .unwound payload => ⟨[visit], .unwound payload, step.frame, step.world⟩

/-- Runs the advice that the chain holds for the phase now. -/
def runPhase (handle : Handle H U) (chain : ChainId) (phase : Phase) (frame : Frame)
    (world : World H U) : PhaseRun H U :=
  runQueue handle phase ((world.chain chain).queue phase) frame world

/-- Runs a phase whose failures are recorded and go no further. -/
def watchPhase (handle : Handle H U) (chain : ChainId) (phase : Phase) (frame : Frame)
    (world : World H U) : PhaseRun H U :=
  let run := runPhase handle chain phase frame world
  match run.ending with
  | .passed => run
  | .stopped stop => run.record (.observerFailed run.frame.function phase stop)
  | .unwound payload => run.record (.observerUnwound run.frame.function phase payload)

@[simp] theorem runQueue_nil (handle : Handle H U) (phase : Phase) (frame : Frame)
    (world : World H U) : runQueue handle phase [] frame world = ⟨[], .passed, frame, world⟩ := rfl

theorem runPhase_of_bucket_eq_nil {handle : Handle H U} {chain : ChainId} {phase : Phase}
    {frame : Frame} {world : World H U} (h : (world.chain chain).bucket phase = []) :
    runPhase handle chain phase frame world = ⟨[], .passed, frame, world⟩ := by
  rw [runPhase, Chain.queue_eq_nil_iff.mpr h, runQueue_nil]

theorem length_visits_runQueue_le (handle : Handle H U) (phase : Phase) (queue : List (Advice H))
    (frame : Frame) (world : World H U) :
    (runQueue handle phase queue frame world).visits.length ≤ queue.length := by
  induction queue generalizing frame world with
  | nil => simp
  | cons advice queue ih =>
      simp only [runQueue]
      split
      · simp
      · split
        · simpa [PhaseRun.prepend] using ih _ _
        · simp
        · simp

end Intercept
