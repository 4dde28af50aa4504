import Intercept.Proofs.Call.Execution
import Intercept.Proofs.Call.Throwing

/-!
# Whom a veto blames

A veto names the function that was called, the gatekeeper phase that stopped and, if a handler failed
there, the first one of the queue that did.  The causes behind it lead from the stop of the phase to
the root of the trail that the handler failed with: `invoke_veto_names_cause`.
-/

namespace Intercept

/-! ## Causes -/

inductive Cause where
  | veto (veto : Veto)
  | stop (stop : Stop)
  | trip (reason : Trip)
  | trail (trail : Trail)
  deriving DecidableEq

namespace Cause

def text : Cause → String
  | .veto raised => raised.text
  | .stop why => why.text
  | .trip reason => reason.text
  | .trail messages => messages.text

def source? : Cause → Option Cause
  | .veto raised => some (.stop raised.source)
  | .stop (.interrupted _ reason) => some (.trip reason)
  | .stop (.handler _ _ cause) => some (.trail cause)
  | .trip _ => none
  | .trail (.message _) => none
  | .trail (.missingResult _) => none
  | .trail (.context _ cause) => some (.trail cause)

/-- Source by source, these are all the causes behind this one. -/
inductive Traced : Cause → List Cause → Prop
  | root {cause : Cause} (h : cause.source? = none) : Traced cause []
  | link {cause next : Cause} {causes : List Cause} (h : cause.source? = some next)
      (rest : Traced next causes) : Traced cause (next :: causes)

theorem Traced.unique {cause : Cause} {causes others : List Cause} (h : cause.Traced causes)
    (h' : cause.Traced others) : causes = others := by
  induction h generalizing others with
  | root hnone =>
      cases h' with
      | root hnone' => rfl
      | link hsome rest => simp [hnone] at hsome
  | link hsome rest ih =>
      cases h' with
      | root hnone => simp [hnone] at hsome
      | link hsome' rest' =>
          rw [hsome, Option.some.injEq] at hsome'
          subst hsome'
          rw [ih rest']

theorem exists_traced_trail (messages : Trail) :
    ∃ causes, (trail messages).Traced causes ∧
      messages.text :: causes.map text = messages.messages := by
  induction messages with
  | message first => exact ⟨[], .root rfl, rfl⟩
  | missingResult function => exact ⟨[], .root rfl, rfl⟩
  | context first cause ih =>
      obtain ⟨causes, htraced, htexts⟩ := ih
      exact ⟨trail cause :: causes, .link rfl htraced, congrArg (first :: ·) htexts⟩

theorem exists_traced_stop (why : Stop) :
    ∃ causes, (stop why).Traced causes ∧ causes.map text = why.sources := by
  cases why with
  | interrupted phase reason => exact ⟨[trip reason], .link rfl (.root rfl), rfl⟩
  | handler phase name cause =>
      obtain ⟨causes, htraced, htexts⟩ := exists_traced_trail cause
      exact ⟨trail cause :: causes, .link rfl htraced, htexts⟩

theorem exists_traced_veto (raised : Veto) :
    ∃ causes, (veto raised).Traced (stop raised.source :: causes) ∧
      causes.map text = raised.source.sources := by
  obtain ⟨causes, htraced, htexts⟩ := exists_traced_stop raised.source
  exact ⟨causes, .link rfl htraced, htexts⟩

theorem Traced.map_text {raised : Veto} {causes : List Cause} (h : (veto raised).Traced causes) :
    causes.map text = raised.sources := by
  obtain ⟨others, hothers, htexts⟩ := exists_traced_veto raised
  rw [h.unique hothers, List.map_cons, htexts]
  rfl

end Cause

/-! ## Where a phase stops -/

variable {H U : Type} {handle : Handle H U} {phase : Phase} {queue : List (Advice H)}
  {frame : Frame} {world : World H U} {run : PhaseRun H U}

/-- What stopped a phase of this queue: the first handler that failed, or, in front of a handler that
was due, the signal. -/
inductive PhaseRun.StoppedBy (phase : Phase) (queue : List (Advice H)) (run : PhaseRun H U) :
    Stop → Prop
  | failing {earlier : List (Visit H U)} {visit : Visit H U} {later : List (Advice H)}
      {cause : Trail} (hvisits : run.visits = earlier ++ [visit])
      (hqueue : queue = earlier.map Visit.advice ++ visit.advice :: later)
      (hdone : ∀ other ∈ earlier, other.Done) (hexit : visit.step.exit = .failed cause) :
      StoppedBy phase queue run (.handler phase visit.advice.name cause)
  | tripped {due : Advice H} {later : List (Advice H)} {reason : Trip}
      (hqueue : queue = run.visits.map Visit.advice ++ due :: later)
      (hdone : ∀ other ∈ run.visits, other.Done)
      (hcheck : run.frame.signal.check run.world.moment = some reason) :
      StoppedBy phase queue run (.interrupted phase reason)

namespace PhaseRun.StoppedBy

variable {stop : Stop}

theorem phase_eq (h : run.StoppedBy phase queue stop) : stop.phase = phase := by
  cases h with
  | failing hvisits hqueue hdone hexit => rfl
  | tripped hqueue hdone hcheck => rfl

theorem prepend (h : run.StoppedBy phase queue stop) {visit : Visit H U} (hdone : visit.Done) :
    (run.prepend visit).StoppedBy phase (visit.advice :: queue) stop := by
  cases h with
  | @failing earlier last later cause hvisits hqueue hrest hexit =>
      have hvisits' : (run.prepend visit).visits = (visit :: earlier) ++ [last] :=
        congrArg (visit :: ·) hvisits
      have hqueue' : visit.advice :: queue =
          (visit :: earlier).map Visit.advice ++ last.advice :: later :=
        congrArg (visit.advice :: ·) hqueue
      exact .failing hvisits' hqueue' (List.forall_mem_cons.mpr ⟨hdone, hrest⟩) hexit
  | @tripped due later reason hqueue hrest hcheck =>
      have hqueue' : visit.advice :: queue =
          (run.prepend visit).visits.map Visit.advice ++ due :: later :=
        congrArg (visit.advice :: ·) hqueue
      exact .tripped hqueue' (List.forall_mem_cons.mpr ⟨hdone, hrest⟩) hcheck

end PhaseRun.StoppedBy

theorem Ran.stoppedBy (h : Ran handle phase queue frame world run) {stop : Stop}
    (hstop : run.ending = .stopped stop) : run.StoppedBy phase queue stop := by
  induction h with
  | finished frame world => cases hstop
  | interrupted tripped =>
      cases hstop
      exact .tripped rfl (List.forall_mem_nil _) tripped
  | done untripped hvisit hexit hrest ih =>
      subst hvisit
      exact (ih hstop).prepend hexit
  | failed untripped hvisit hexit =>
      subst hvisit
      cases hstop
      exact .failing (List.nil_append _).symm rfl (List.forall_mem_nil _) hexit
  | unwound untripped hvisit hexit => cases hstop

theorem Ran.stopped_of_failed (h : Ran handle phase queue frame world run) {visit : Visit H U}
    (hmem : visit ∈ run.visits) {cause : Trail} (hfailed : visit.step.exit = .failed cause) :
    run.ending = .stopped (.handler phase visit.advice.name cause) := by
  induction h with
  | finished frame world => cases hmem
  | interrupted tripped => cases hmem
  | done untripped hvisit hexit hrest ih =>
      rcases List.mem_cons.mp hmem with rfl | hlater
      · rw [hexit] at hfailed
        cases hfailed
      · exact ih hlater
  | failed untripped hvisit hexit =>
      obtain rfl := List.mem_singleton.mp hmem
      subst hvisit
      rw [hexit, Exit.failed.injEq] at hfailed
      subst hfailed
      rfl
  | unwound untripped hvisit hexit =>
      obtain rfl := List.mem_singleton.mp hmem
      rw [hexit] at hfailed
      cases hfailed

/-! ## Vetoes -/

/--
A gatekeeper phase stops at the first handler that fails, by descending priority, or where the signal
has tripped.  The call then unwinds with a veto that names the key that was called, the phase and what
stopped it.  Behind the veto lies the stop, and behind that message by message the trail of the handler,
or the reason of the interruption.
-/
theorem invoke_veto_names_cause {world : World H U} {registry : RegistryId} {key : Key}
    {chain : ChainId} (h : world.lookup registry key = .ok chain) (handle : Handle H U)
    (args : List Value) (signal : Signal) (target : Target H U) :
    let run := invoke handle registry key args signal target world
    (∀ stage ∈ run.stages, stage.Mild) →
      ∀ which found begun held, .phase which found begun held ∈ run.stages →
        which.isGatekeeper = true →
        (∀ visit ∈ held.visits, ∀ cause, visit.step.exit = .failed cause →
          held.ending = .stopped (.handler which visit.advice.name cause)) ∧
        ∀ stop, held.ending = .stopped stop →
          ∃ veto queue causes, run.outcome = .unwound (.veto veto) ∧
            veto.function = key ∧ veto.phase = which ∧ veto.source.phase = which ∧
            veto.source = stop ∧
            Advice.Ranked ((begun.chain chain).bucket which) queue ∧
            held.StoppedBy which queue stop ∧
            (Cause.veto veto).Traced (.stop stop :: causes) ∧
            (Cause.stop stop :: causes).map Cause.text = veto.sources ∧
            (∀ name trail, stop = .handler which name trail →
              causes.map Cause.text = trail.messages) ∧
            (∀ reason, stop = .interrupted which reason → causes = [.trip reason]) := by
  rw [invoke_of_lookup h]
  intro run hmild which found begun held hmem hgate
  have hran := ran_of_mem_runAdvised hmem hgate
  refine ⟨fun visit hvisit cause hfailed => hran.stopped_of_failed hvisit hfailed, ?_⟩
  intro stop hstop
  have hstopped := hran.stoppedBy hstop
  have houtcome := outcome_runAdvised_of_stopped hmem hgate hstop hmild
  obtain ⟨causes, htraced, htexts⟩ := Cause.exists_traced_veto ⟨key, which, stop⟩
  refine ⟨⟨key, which, stop⟩, _, causes, houtcome, rfl, rfl, hstopped.phase_eq, rfl,
    Chain.ranked_queue _ which, hstopped, htraced, htraced.map_text, ?_, ?_⟩
  · rintro name trail rfl
    exact htexts
  · rintro reason rfl
    have hlinks : (Cause.veto ⟨key, which, .interrupted which reason⟩).Traced
        [.stop (.interrupted which reason), .trip reason] :=
      .link rfl (.link rfl (.root rfl))
    exact (List.cons.inj (htraced.unique hlinks)).2

theorem second_gate_is_blamed :
    let trail : Trail := .context "denied" (.message "expired")
    let world : World Habit Unit := .single ⟨"f"⟩
      ⟨[⟨.before, -1, "late", ⟨id, .failed (.message "late")⟩⟩,
        ⟨.before, 0, "auth", ⟨(·.setSkipped true), .failed trail⟩⟩,
        ⟨.before, 5, "warm", ⟨(·.setError (.message "cold")), .done⟩⟩,
        ⟨.after, 0, "report", ⟨id, .unwound (.ofText "offline")⟩⟩]⟩
    let first : Frame := .new ⟨"f"⟩ [.unit] .never
    let begun := (world.acquire 0 ⟨"f"⟩ [.unit] .never).2
    let held := runPhase Habit.handle 0 .before first begun
    let run := invoke Habit.handle 0 ⟨"f"⟩ [.unit] .never (.ofResult 0 .unit) world
    let veto : Veto := ⟨⟨"f"⟩, .before, .handler .before "auth" trail⟩
    world.lookup 0 ⟨"f"⟩ = .ok 0 ∧ (∀ stage ∈ run.stages, stage.Mild) ∧
      .phase .before first begun held ∈ run.stages ∧ held.ending = .stopped veto.source ∧
      run.outcome = .unwound (.veto veto) ∧
      ∃ causes, (Cause.veto veto).Traced (.stop veto.source :: causes) ∧
        causes.map Cause.text = ["denied", "expired"] := by
  intro trail world first begun held run veto
  have hlookup : world.lookup 0 ⟨"f"⟩ = .ok 0 := World.lookup_single (by decide) _
  -- The priorities ascend, so the queue is the bucket backwards.
  have hqueue : (begun.chain 0).queue .before = ((begun.chain 0).bucket .before).reverse :=
    Chain.queue_eq_of_ranked (.of_strict (List.reverse_perm _) (by decide))
  have hheld : runPhase Habit.handle 0 .before first begun = runQueue _ _ _ _ _ :=
    congrArg (runQueue Habit.handle .before · first begun) hqueue
  have hmild : ∀ stage ∈ run.stages, stage.Mild := by
    unfold run
    rw [invoke_of_lookup hlookup]
    change ∀ stage ∈ (runAdvised Habit.handle 0 ⟨"f"⟩ (.ofResult 0 .unit) first begun).stages, _
    simp only [runAdvised, runGuarded, runGate, hheld]
    unfold first begun world
    decide +kernel
  have hmem : .phase .before first begun held ∈ run.stages := by
    unfold run
    rw [invoke_of_lookup hlookup]
    exact before_mem_runAdvised Habit.handle 0 ⟨"f"⟩ _ first begun
  have hstop : held.ending = .stopped veto.source := by
    unfold held
    rw [hheld]
    rfl
  obtain ⟨⟨function, phase, source⟩, queue, causes, houtcome, rfl, rfl, -, rfl, -, -, htraced, -,
    htexts, -⟩ := (invoke_veto_names_cause hlookup Habit.handle [.unit] .never
      (.ofResult 0 .unit) hmild .before first begun held hmem rfl).2 _ hstop
  exact ⟨hlookup, hmild, hmem, hstop, houtcome, causes, htraced, htexts "auth" trail rfl⟩

end Intercept
