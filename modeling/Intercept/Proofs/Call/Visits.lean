import Intercept.Call

/-!
# The visits of a phase

A phase visits its queue advice by advice, until the queue is empty, the signal has tripped, or a
handler fails or unwinds.  `Ran` has a case for each of these, so what every handler keeps is seen to
be kept by the phase in one induction.
-/

namespace Intercept

variable {H U : Type}

def visitOf (handle : Handle H U) (phase : Phase) (advice : Advice H) (frame : Frame)
    (world : World H U) : Visit H U :=
  let world := world.record (.runningAdvice frame.function phase advice)
  ⟨advice, frame, world, handle advice.handler frame world⟩

inductive Ran (handle : Handle H U) (phase : Phase) :
    List (Advice H) → Frame → World H U → PhaseRun H U → Prop
  | finished (frame : Frame) (world : World H U) :
      Ran handle phase [] frame world ⟨[], .passed, frame, world⟩
  | interrupted {advice : Advice H} {queue : List (Advice H)} {frame : Frame}
      {world : World H U} {reason : Trip}
      (tripped : frame.signal.check world.moment = some reason) :
      Ran handle phase (advice :: queue) frame world
        ⟨[], .stopped (.interrupted phase reason), frame, world⟩
  | done {advice : Advice H} {queue : List (Advice H)} {frame : Frame} {world : World H U}
      {visit : Visit H U} {run : PhaseRun H U}
      (untripped : frame.signal.check world.moment = none)
      (hvisit : visitOf handle phase advice frame world = visit)
      (hexit : visit.step.exit = .done)
      (hrest : Ran handle phase queue visit.step.frame visit.step.world run) :
      Ran handle phase (advice :: queue) frame world (run.prepend visit)
  | failed {advice : Advice H} {queue : List (Advice H)} {frame : Frame} {world : World H U}
      {visit : Visit H U} {cause : Trail}
      (untripped : frame.signal.check world.moment = none)
      (hvisit : visitOf handle phase advice frame world = visit)
      (hexit : visit.step.exit = .failed cause) :
      Ran handle phase (advice :: queue) frame world
        ⟨[visit], .stopped (.handler phase advice.name cause), visit.step.frame,
          visit.step.world⟩
  | unwound {advice : Advice H} {queue : List (Advice H)} {frame : Frame} {world : World H U}
      {visit : Visit H U} {payload : Payload}
      (untripped : frame.signal.check world.moment = none)
      (hvisit : visitOf handle phase advice frame world = visit)
      (hexit : visit.step.exit = .unwound payload) :
      Ran handle phase (advice :: queue) frame world
        ⟨[visit], .unwound payload, visit.step.frame, visit.step.world⟩

theorem ran_runQueue (handle : Handle H U) (phase : Phase) (queue : List (Advice H))
    (frame : Frame) (world : World H U) :
    Ran handle phase queue frame world (runQueue handle phase queue frame world) := by
  induction queue generalizing frame world with
  | nil => exact .finished frame world
  | cons advice queue ih =>
      cases hcheck : frame.signal.check world.moment with
      | some reason =>
          simp only [runQueue, hcheck]
          exact .interrupted hcheck
      | none =>
          generalize hvisit : visitOf handle phase advice frame world = visit
          have hstep : handle advice.handler frame
              (world.record (.runningAdvice frame.function phase advice)) = visit.step :=
            congrArg Visit.step hvisit
          have hform : (⟨advice, frame,
              world.record (.runningAdvice frame.function phase advice), visit.step⟩ :
                Visit H U) = visit := by
            rw [← hstep]
            exact hvisit
          cases hexit : visit.step.exit with
          | done =>
              simp only [runQueue, hcheck, hstep, hform, hexit]
              exact .done hcheck hvisit hexit (ih _ _)
          | failed cause =>
              simp only [runQueue, hcheck, hstep, hform, hexit]
              exact .failed hcheck hvisit hexit
          | unwound payload =>
              simp only [runQueue, hcheck, hstep, hform, hexit]
              exact .unwound hcheck hvisit hexit

theorem ran_runPhase (handle : Handle H U) (chain : ChainId) (phase : Phase) (frame : Frame)
    (world : World H U) :
    Ran handle phase ((world.chain chain).queue phase) frame world
      (runPhase handle chain phase frame world) :=
  ran_runQueue handle phase _ frame world

theorem Ran.eq_runQueue {handle : Handle H U} {phase : Phase} {queue : List (Advice H)}
    {frame : Frame} {world : World H U} {run : PhaseRun H U}
    (h : Ran handle phase queue frame world run) :
    runQueue handle phase queue frame world = run := by
  induction h with
  | finished frame world => rfl
  | interrupted tripped => simp only [runQueue, tripped]
  | done untripped hvisit hexit hrest ih =>
      subst hvisit
      simp only [visitOf] at hexit ih ⊢
      simp only [runQueue, untripped, hexit, ih]
  | failed untripped hvisit hexit =>
      subst hvisit
      simp only [visitOf] at hexit ⊢
      simp only [runQueue, untripped, hexit]
  | unwound untripped hvisit hexit =>
      subst hvisit
      simp only [visitOf] at hexit ⊢
      simp only [runQueue, untripped, hexit]

theorem Ran.forall_visits {P : Visit H U → Prop} {handle : Handle H U} {phase : Phase}
    {queue : List (Advice H)} {frame : Frame} {world : World H U} {run : PhaseRun H U}
    (h : Ran handle phase queue frame world run)
    (hvisit : ∀ advice ∈ queue, ∀ (frame : Frame) (world : World H U),
      frame.signal.check world.moment = none → P (visitOf handle phase advice frame world)) :
    ∀ visit ∈ run.visits, P visit := by
  induction h with
  | finished frame world => exact List.forall_mem_nil _
  | interrupted tripped => exact List.forall_mem_nil _
  | @done advice queue frame world visit run untripped hvisited hexit hrest ih =>
      subst hvisited
      have hhead := hvisit advice List.mem_cons_self frame world untripped
      exact List.forall_mem_cons.mpr
        ⟨hhead, ih fun advice hmem => hvisit advice (List.mem_cons_of_mem _ hmem)⟩
  | @failed advice queue frame world visit cause untripped hvisited hexit =>
      subst hvisited
      exact List.forall_mem_singleton.mpr (hvisit advice List.mem_cons_self frame world untripped)
  | @unwound advice queue frame world visit payload untripped hvisited hexit =>
      subst hvisited
      exact List.forall_mem_singleton.mpr (hvisit advice List.mem_cons_self frame world untripped)

@[simp] theorem frame_of_visitOf {handle : Handle H U} {phase : Phase} {advice : Advice H}
    {frame : Frame} {world : World H U} {visit : Visit H U}
    (h : visitOf handle phase advice frame world = visit) : visit.frame = frame := by
  rw [← h]
  rfl

/-- What every handler does to the frame, if it may be done again and again, the phase does. -/
theorem Ran.frame_rel {R : Frame → Frame → Prop} (hrefl : ∀ f, R f f)
    (htrans : ∀ {f g k}, R f g → R g k → R f k) {handle : Handle H U} {phase : Phase}
    {queue : List (Advice H)} {frame : Frame} {world : World H U} {run : PhaseRun H U}
    (h : Ran handle phase queue frame world run)
    (hvisits : ∀ visit ∈ run.visits, R visit.frame visit.step.frame) : R frame run.frame := by
  induction h with
  | finished frame world => exact hrefl frame
  | @interrupted _ _ frame _ _ tripped => exact hrefl frame
  | done untripped hvisit hexit hrest ih =>
      have hhead := hvisits _ List.mem_cons_self
      rw [frame_of_visitOf hvisit] at hhead
      exact htrans hhead (ih fun visit hmem => hvisits visit (List.mem_cons_of_mem _ hmem))
  | failed untripped hvisit hexit =>
      have hhead := hvisits _ List.mem_cons_self
      rwa [frame_of_visitOf hvisit] at hhead
  | unwound untripped hvisit hexit =>
      have hhead := hvisits _ List.mem_cons_self
      rwa [frame_of_visitOf hvisit] at hhead

theorem Ran.found_rel {R : Frame → Frame → Prop} (hrefl : ∀ f, R f f)
    (htrans : ∀ {f g k}, R f g → R g k → R f k) {handle : Handle H U} {phase : Phase}
    {queue : List (Advice H)} {frame : Frame} {world : World H U} {run : PhaseRun H U}
    (h : Ran handle phase queue frame world run)
    (hvisits : ∀ visit ∈ run.visits, R visit.frame visit.step.frame) :
    ∀ visit ∈ run.visits, R frame visit.frame := by
  induction h with
  | finished frame world => exact fun visit hmem => absurd hmem List.not_mem_nil
  | interrupted tripped => exact fun visit hmem => absurd hmem List.not_mem_nil
  | @done advice queue frame world visit run untripped hvisit hexit hrest ih =>
      have hfound := frame_of_visitOf hvisit
      have hhead := hvisits visit List.mem_cons_self
      rw [hfound] at hhead
      intro other hmem
      rcases List.mem_cons.mp hmem with rfl | hlater
      · rw [hfound]
        exact hrefl frame
      · exact htrans hhead (ih (fun visit hmem => hvisits visit (List.mem_cons_of_mem _ hmem))
          other hlater)
  | failed untripped hvisit hexit =>
      rw [List.forall_mem_singleton, frame_of_visitOf hvisit]
      exact hrefl _
  | unwound untripped hvisit hexit =>
      rw [List.forall_mem_singleton, frame_of_visitOf hvisit]
      exact hrefl _

/-! ## The queue of a phase -/

theorem Ran.advice_prefix {handle : Handle H U} {phase : Phase} {queue : List (Advice H)}
    {frame : Frame} {world : World H U} {run : PhaseRun H U}
    (h : Ran handle phase queue frame world run) : run.visits.map Visit.advice <+: queue := by
  induction h with
  | finished frame world => exact List.prefix_refl _
  | interrupted tripped => exact List.nil_prefix
  | done untripped hvisit hexit hrest ih =>
      subst hvisit
      exact (List.prefix_cons_inj _).mpr ih
  | failed untripped hvisit hexit =>
      subst hvisit
      exact (List.prefix_cons_inj _).mpr List.nil_prefix
  | unwound untripped hvisit hexit =>
      subst hvisit
      exact (List.prefix_cons_inj _).mpr List.nil_prefix

theorem Ran.advice_of_passed {handle : Handle H U} {phase : Phase} {queue : List (Advice H)}
    {frame : Frame} {world : World H U} {run : PhaseRun H U}
    (h : Ran handle phase queue frame world run) (passed : run.ending = .passed) :
    run.visits.map Visit.advice = queue := by
  induction h with
  | finished frame world => rfl
  | interrupted tripped => cases passed
  | done untripped hvisit hexit hrest ih =>
      subst hvisit
      exact congrArg (_ :: ·) (ih passed)
  | failed untripped hvisit hexit => cases passed
  | unwound untripped hvisit hexit => cases passed

/-! ## Watched phases -/

@[simp] theorem visits_watchPhase (handle : Handle H U) (chain : ChainId) (phase : Phase)
    (frame : Frame) (world : World H U) :
    (watchPhase handle chain phase frame world).visits =
      (runPhase handle chain phase frame world).visits := by
  rw [watchPhase]
  split <;> rfl

@[simp] theorem frame_watchPhase (handle : Handle H U) (chain : ChainId) (phase : Phase)
    (frame : Frame) (world : World H U) :
    (watchPhase handle chain phase frame world).frame =
      (runPhase handle chain phase frame world).frame := by
  rw [watchPhase]
  split <;> rfl

@[simp] theorem ending_watchPhase (handle : Handle H U) (chain : ChainId) (phase : Phase)
    (frame : Frame) (world : World H U) :
    (watchPhase handle chain phase frame world).ending =
      (runPhase handle chain phase frame world).ending := by
  rw [watchPhase]
  split <;> rfl

/-- Each observer of the stage, if it has any, leaves a frame that `R` relates to the one it found. -/
def Stage.Watches (R : Frame → Frame → Prop) : Stage H U → Prop
  | .phase which _ _ run => which.isGatekeeper = false →
      ∀ visit ∈ run.visits, R visit.frame visit.step.frame
  | .target _ _ _ => True

instance (R : Frame → Frame → Prop) [DecidableRel R] (stage : Stage H U) :
    Decidable (stage.Watches R) :=
  match stage with
  | .phase which _ _ run => inferInstanceAs (Decidable (which.isGatekeeper = false →
      ∀ visit ∈ run.visits, R visit.frame visit.step.frame))
  | .target _ _ _ => .isTrue trivial

theorem Stage.Watches.rel {R : Frame → Frame → Prop} {handle : Handle H U} {chain : ChainId}
    {phase : Phase} {frame : Frame} {world : World H U}
    (h : Stage.Watches R (.phase phase frame world (watchPhase handle chain phase frame world)))
    (hobserver : phase.isGatekeeper = false) (hrefl : ∀ f, R f f)
    (htrans : ∀ {f g k}, R f g → R g k → R f k) :
    R frame (watchPhase handle chain phase frame world).frame := by
  have hvisits := h hobserver
  rw [visits_watchPhase] at hvisits
  rw [frame_watchPhase]
  exact (ran_runPhase handle chain phase frame world).frame_rel hrefl htrans hvisits

end Intercept
