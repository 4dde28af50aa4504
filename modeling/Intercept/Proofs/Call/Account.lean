import Intercept.Proofs.Call.Course
import Intercept.Proofs.Call.Frames
import Intercept.Proofs.Call.Skipping

/-!
# What calls record

A call records each handler that it starts, the skipping of its target, its veto and each failure of its
observers, and nothing else.  So what it recorded can be told from its stages, provided that handlers
and target record nothing themselves and leave the frame its function: `invoke_records_account`.
-/

namespace Intercept

variable {H U : Type}

/-! ## The account of a call -/

/-- What is recorded behind the handlers of a phase of a call of `key`.  Whether the target was skipped
matters to Around advice that passed. -/
def PhaseRun.remarks (key : Key) (skipped : Bool) (which : Phase) (run : PhaseRun H U) :
    List Event :=
  match which.isGatekeeper, run.ending with
  | true, .passed => if which = .around ∧ skipped = true then [.targetSkipped key] else []
  | true, .stopped stop => [.callVetoed key ⟨key, which, stop⟩]
  | true, .unwound _ => []
  | false, .passed => []
  | false, .stopped stop => [.observerFailed key which stop]
  | false, .unwound payload => [.observerUnwound key which payload]

def Stage.account (key : Key) (skipped : Bool) : Stage H U → List Event
  | .phase which _ _ run =>
      run.visits.map (fun visit => .runningAdvice key which visit.advice) ++
        run.remarks key skipped which
  | .target _ _ _ => []

/-- The target is skipped if it is not among the stages. -/
def CallRun.account (key : Key) (run : CallRun H U) : List Event :=
  run.stages.flatMap (Stage.account key (decide ((run.stages.map Stage.mark).count .target = 0)))

/-- Nobody in the stage records anything or gives the frame another function. -/
def Stage.Silent : Stage H U → Prop
  | .phase _ _ _ run => ∀ visit ∈ run.visits,
      visit.step.world.events = visit.world.events ∧
        visit.step.frame.function = visit.frame.function
  | .target frame world landing =>
      landing.world.events = world.events ∧ landing.frame.function = frame.function

instance (stage : Stage H U) : Decidable stage.Silent :=
  match stage with
  | .phase _ _ _ run => inferInstanceAs (Decidable (∀ visit ∈ run.visits,
      visit.step.world.events = visit.world.events ∧
        visit.step.frame.function = visit.frame.function))
  | .target frame world landing => inferInstanceAs (Decidable
      (landing.world.events = world.events ∧ landing.frame.function = frame.function))

/-! ## Phases -/

variable {handle : Handle H U} {chain : ChainId} {phase : Phase}

theorem Ran.recorded {queue : List (Advice H)} {frame : Frame} {world : World H U}
    {run : PhaseRun H U} (h : Ran handle phase queue frame world run)
    (hsilent : Stage.Silent (.phase phase frame world run)) :
    run.world.events = world.events ++
        run.visits.map (fun visit => .runningAdvice frame.function phase visit.advice) ∧
      run.frame.function = frame.function := by
  -- Each handler finds its own event as the last one and leaves it so.
  induction h with
  | finished frame world => exact ⟨(List.append_nil _).symm, rfl⟩
  | interrupted tripped => exact ⟨(List.append_nil _).symm, rfl⟩
  | @done advice queue frame world visit run untripped hvisit hexit hrest ih =>
      subst hvisit
      obtain ⟨hevents, hfunction⟩ := hsilent _ List.mem_cons_self
      obtain ⟨hlater, hlast⟩ := ih fun visit hmem => hsilent visit (List.mem_cons_of_mem _ hmem)
      refine ⟨?_, hlast.trans hfunction⟩
      simp only [PhaseRun.prepend, List.map_cons]
      rw [hlater, hevents, hfunction]
      simp [visitOf]
  | failed untripped hvisit hexit =>
      subst hvisit
      obtain ⟨hevents, hfunction⟩ := hsilent _ List.mem_cons_self
      exact ⟨hevents.trans (World.events_record ..), hfunction⟩
  | unwound untripped hvisit hexit =>
      subst hvisit
      obtain ⟨hevents, hfunction⟩ := hsilent _ List.mem_cons_self
      exact ⟨hevents.trans (World.events_record ..), hfunction⟩

def Visit.Announced (which : Phase) (visit : Visit H U) : Prop :=
  visit.world.events.getLast? = some (.runningAdvice visit.frame.function which visit.advice)

theorem Ran.announced {queue : List (Advice H)} {frame : Frame} {world : World H U}
    {run : PhaseRun H U} (h : Ran handle phase queue frame world run) :
    ∀ visit ∈ run.visits, visit.Announced phase := by
  refine h.forall_visits fun advice hmem found world' untripped => ?_
  simp [Visit.Announced, visitOf]

/-! ## Along a call -/

namespace Progress

structure Told (key : Key) (skipped : Bool) (before : List Event) (progress : Progress H U) :
    Prop where
  events : progress.world.events =
    before ++ progress.stages.flatMap (Stage.account key skipped)
  function : progress.frame.function = key

variable {key : Key} {skipped : Bool} {before : List Event} {progress : Progress H U}

theorem Told.snoc (h : progress.Told key skipped before) {next : Progress H U} {stage : Stage H U}
    (hstages : next.stages = progress.stages ++ [stage])
    (hevents : next.world.events = progress.world.events ++ stage.account key skipped)
    (hfunction : next.frame.function = key) : next.Told key skipped before := by
  refine ⟨?_, hfunction⟩
  rw [hevents, hstages, h.events, List.flatMap_append, List.flatMap_singleton, List.append_assoc]

theorem Told.ran (h : progress.Told key skipped before) {run left : PhaseRun H U}
    (hrun : runPhase handle chain phase progress.frame progress.world = run)
    (hsilent : Stage.Silent (.phase phase progress.frame progress.world run))
    {next : Progress H U}
    (hstages : next.stages = progress.stages ++ [.phase phase progress.frame progress.world left])
    (hvisits : left.visits = run.visits) (hending : left.ending = run.ending)
    (hevents : next.world.events = run.world.events ++ run.remarks key skipped phase)
    (hframe : next.frame = run.frame) : next.Told key skipped before := by
  subst hrun
  obtain ⟨hrecorded, hfunction⟩ :=
    (ran_runPhase handle chain phase progress.frame progress.world).recorded hsilent
  rw [h.function] at hrecorded hfunction
  apply h.snoc hstages
  · rw [hevents, hrecorded, List.append_assoc]
    simp only [Stage.account, PhaseRun.remarks, hvisits, hending]
  · rw [hframe, hfunction]

theorem Told.pass (h : progress.Told key skipped before) {run : PhaseRun H U}
    (hgate : phase.isGatekeeper = true)
    (hrun : runPhase handle chain phase progress.frame progress.world = run)
    (hsilent : Stage.Silent (.phase phase progress.frame progress.world run))
    (passed : run.ending = .passed) (hunskipped : phase = .around → skipped = false) :
    (progress.pass phase run).Told key skipped before := by
  refine h.ran hrun hsilent rfl rfl rfl ?_ rfl
  have hremarks : run.remarks key skipped phase = [] := by
    simp only [PhaseRun.remarks, hgate, passed]
    apply if_neg
    rintro ⟨haround, hskipped⟩
    rw [hunskipped haround] at hskipped
    cases hskipped
  rw [hremarks, List.append_nil]
  rfl

theorem Told.held (h : progress.Told key skipped before) {run : PhaseRun H U}
    (hgate : phase.isGatekeeper = true)
    (hrun : runPhase handle chain phase progress.frame progress.world = run)
    (hsilent : Stage.Silent (.phase phase progress.frame progress.world run))
    (held : run.ending ≠ .passed) :
    ((progress.pass phase run).announce key (run.verdict phase)).Told key skipped before := by
  refine h.ran hrun hsilent (by simp) rfl rfl ?_ (by simp)
  -- A phase that was stopped has its veto recorded, one that unwinds has nothing.
  cases hending : run.ending with
  | passed => exact absurd hending held
  | stopped stop =>
      simp [PhaseRun.verdict, PhaseRun.remarks, hgate, hending, announce, Progress.record,
        Event.callVetoed]
  | unwound payload => simp [PhaseRun.verdict, PhaseRun.remarks, hgate, hending, announce]

theorem Told.watch (h : progress.Told key skipped before) (hobserver : phase.isGatekeeper = false)
    (hsilent : Stage.Silent (.phase phase progress.frame progress.world
      (watchPhase handle chain phase progress.frame progress.world))) :
    (progress.watch handle chain phase).Told key skipped before := by
  rw [Stage.Silent, visits_watchPhase] at hsilent
  have hfunction := ((ran_runPhase handle chain phase progress.frame progress.world).recorded
    hsilent).2.trans h.function
  refine h.ran rfl hsilent (stages_watch ..) (visits_watchPhase ..) (ending_watchPhase ..) ?_
    (by simp)
  rw [world_watch, watchPhase, PhaseRun.remarks, hobserver]
  cases hending : (runPhase handle chain phase progress.frame progress.world).ending with
  | passed => simp
  | stopped stop => simp [hending, PhaseRun.record, hfunction]
  | unwound payload => simp [hending, PhaseRun.record, hfunction]

theorem Told.watchReturn (h : progress.Told key skipped before)
    (hsilent : (progress.watchReturn handle chain).All Stage.Silent) :
    (progress.watchReturn handle chain).Told key skipped before := by
  rw [Progress.watchReturn] at hsilent ⊢
  split at hsilent
  · next hclean =>
      rw [if_pos hclean]
      exact h.watch rfl (all_watch.mp hsilent).2
  · next hdirty =>
      rw [if_neg hdirty]
      exact h

theorem Told.throwWith (h : progress.Told key skipped before) {payload : Payload}
    (hsilent : (progress.throwWith handle chain payload).All Stage.Silent) :
    (progress.throwWith handle chain payload).Told key skipped before := by
  obtain ⟨hthrowing, hafter⟩ := all_watch.mp hsilent
  have hraise : (progress.raise payload).Told key skipped before := ⟨h.events, h.function⟩
  exact (hraise.watch rfl (all_watch.mp hthrowing).2).watch rfl hafter

end Progress

/-! ## The guarded part -/

section

variable {key : Key} {skipped : Bool} {recorded : List Event} {start : Progress H U}

theorem Entered.told {before around : PhaseRun H U}
    (hentered : Entered handle chain start before around) (h : start.Told key skipped recorded)
    (hsilent : (start.pass .before before).All Stage.Silent) :
    (start.pass .before before).Told key skipped recorded :=
  h.pass rfl hentered.hbefore (Progress.all_pass.mp hsilent).2 hentered.passed nofun

theorem Reaches.told {gates : Progress H U} (hgates : Reaches handle chain start gates)
    (h : start.Told key false recorded) (hsilent : gates.All Stage.Silent) :
    gates.Told key false recorded := by
  cases hgates with
  | direct hbefore passed bare =>
      exact h.pass rfl hbefore (Progress.all_pass.mp hsilent).2 passed fun _ => rfl
  | around hentered passed unskipped =>
      obtain ⟨hfirst, hsecond⟩ := Progress.all_pass.mp hsilent
      exact (hentered.told h hfirst).pass rfl hentered.haround hsecond passed fun _ => rfl

theorem Reaches.told_arrive {gates : Progress H U} (hgates : Reaches handle chain start gates)
    (h : start.Told key false recorded) {landing : Landing H U}
    (hsilent : (gates.arrive landing).All Stage.Silent) :
    (gates.arrive landing).Told key false recorded := by
  obtain ⟨hfirst, hevents, hfunction⟩ := Progress.all_arrive.mp hsilent
  have hgate := hgates.told h hfirst
  apply hgate.snoc (Progress.stages_arrive ..)
  · exact hevents.trans (List.append_nil _).symm
  · exact hfunction.trans hgate.function

theorem Entered.told_skipped {before around : PhaseRun H U}
    (hentered : Entered handle chain start before around) (h : start.Told key true recorded)
    (passed : around.ending = .passed)
    (hsilent : ((start.pass .before before).pass .around around).All Stage.Silent) :
    (((start.pass .before before).pass .around around).record
      (.targetSkipped around.frame.function)).Told key true recorded := by
  obtain ⟨hfirst, hsecond⟩ := Progress.all_pass.mp hsilent
  have hbefore := hentered.told h hfirst
  have hran := ran_runPhase handle chain .around before.frame before.world
  rw [hentered.haround] at hran
  have hfunction : around.frame.function = key :=
    (hran.recorded hsecond).2.trans hbefore.function
  refine hbefore.ran hentered.haround hsecond rfl rfl rfl ?_ rfl
  simp [PhaseRun.remarks, Phase.isGatekeeper, passed, hfunction, Progress.record]

theorem Guarded.told {target : Target H U} {frame : Frame} {world : World H U}
    {result : Verdict × Progress H U}
    (hguard : Guarded handle chain target ⟨[], frame, world⟩ result)
    (h : Progress.Told key skipped recorded (⟨[], frame, world⟩ : Progress H U))
    (hsilent : result.2.All Stage.Silent)
    (hskipped : skipped = decide (result.2.landings = 0)) :
    (result.2.announce key result.1).Told key skipped recorded := by
  -- The flag is fixed along the whole call; each way through settles which of the two it is.
  cases hguard with
  | heldBefore hbefore held => exact h.held rfl hbefore (Progress.all_pass.mp hsilent).2 held
  | heldAround hentered held =>
      obtain ⟨hfirst, hsecond⟩ := Progress.all_pass.mp hsilent
      exact (hentered.told h hfirst).held rfl hentered.haround hsecond held
  | @skipped before around hentered passed skipped' =>
      have hnone : skipped = true := by
        simpa using hskipped
      subst hnone
      have htold := hentered.told_skipped h passed fun stage hmem =>
        hsilent stage (Progress.mem_watchReturn hmem)
      exact htold.watchReturn hsilent
  | @returned gates landing hgates hlanding landed =>
      have hone : skipped = false := by
        simpa using hskipped
      subst hone
      have hcore : (gates.arrive landing).All Stage.Silent := fun stage hmem =>
        hsilent stage (Progress.mem_watchReturn hmem)
      exact (hgates.told_arrive h hcore).watchReturn hsilent
  | @threw gates landing payload hgates hlanding thrown =>
      have hone : skipped = false := by
        simpa using hskipped
      subst hone
      exact hgates.told_arrive h hsilent

end

/-! ## Whole calls -/

theorem runAdvised_records_account {target : Target H U} {key : Key} {frame : Frame}
    (hfunction : frame.function = key) {world : World H U} {run : CallRun H U}
    (hrun : runAdvised handle chain key target frame world = run)
    (hsilent : ∀ stage ∈ run.stages, stage.Silent) :
    run.world.events = world.events ++ run.account key := by
  have hstart : Progress.Told key (decide ((run.stages.map Stage.mark).count .target = 0))
      world.events (⟨[], frame, world⟩ : Progress H U) :=
    ⟨(List.append_nil _).symm, hfunction⟩
  have hcore : (runGuarded handle chain target ⟨[], frame, world⟩).2.All Stage.Silent := by
    intro stage hmem
    have hstage := mem_runAdvised rfl hmem key
    rw [hrun] at hstage
    exact hsilent stage hstage
  have hcount : (run.stages.map Stage.mark).count .target =
      (runGuarded handle chain target ⟨[], frame, world⟩).2.landings := by
    rw [← hrun]
    exact count_target_runAdvised key frame world
  have htold := (guarded_runGuarded handle chain target ⟨[], frame, world⟩).told hstart hcore
    (by rw [hcount])
  have hclosed := closed_runAdvised handle chain key target frame world
  rw [hrun] at hclosed
  rw [CallRun.account]
  generalize decide ((run.stages.map Stage.mark).count .target = 0) = skipped at htold ⊢
  generalize runGuarded handle chain target ⟨[], frame, world⟩ = result at htold hclosed
  cases hclosed with
  | completed progress => exact (htold.watch rfl (Progress.all_watch.mp hsilent).2).events
  | @raised verdict payload progress hraised =>
      rw [unwind_eq] at hsilent ⊢
      exact (htold.throwWith hsilent).events

theorem announced_runAdvised (key : Key) (target : Target H U) (frame : Frame)
    (world : World H U) :
    ∀ stage ∈ (runAdvised handle chain key target frame world).stages,
      stage.Each Visit.Announced := by
  apply all_runAdvised
  constructor
  · intro phase hgate found world'
    exact (ran_runPhase handle chain phase found world').announced
  · intro phase hobserver found world'
    rw [Stage.Each, visits_watchPhase]
    exact (ran_runPhase handle chain phase found world').announced
  · intro gates hgates
    trivial

/--
If handlers and target keep silent, a call of a key without advice records that it is direct, and a call
under advice the account of its stages, which are those of one course.  Each handler is announced
before it starts.
-/
theorem invoke_records_account {handle : Handle H U} {registry : RegistryId} {key : Key}
    {args : List Value} {signal : Signal} {target : Target H U} {world : World H U}
    {run : CallRun H U} (hrun : invoke handle registry key args signal target world = run)
    (hsilent : ∀ stage ∈ run.stages, stage.Silent) :
    (match world.lookup registry key with
      | .error _ => run.world.events = world.events ++ [.directCall key]
      | .ok chain =>
          run.world.events = world.events ++ run.account key ∧
            ∃ course : Course, course.Fits chain run.stages) ∧
      ∀ stage ∈ run.stages, stage.Each Visit.Announced := by
  subst hrun
  cases hlookup : world.lookup registry key with
  | error refusal =>
      rw [invoke_of_refusal hlookup, runDirect_eq] at hsilent ⊢
      obtain ⟨hevents, -⟩ := List.forall_mem_singleton.mp hsilent
      exact ⟨hevents.trans (World.events_record ..), List.forall_mem_singleton.mpr trivial⟩
  | ok chain =>
      rw [invoke_of_lookup hlookup] at hsilent ⊢
      exact ⟨⟨runAdvised_records_account rfl rfl hsilent, exists_fits handle chain key target _ _⟩,
        announced_runAdvised key target _ _⟩

theorem failing_observer_is_recorded :
    let world : World Habit Unit := .single ⟨"f"⟩
      ⟨[⟨.before, 1, "check", ⟨id, .done⟩⟩, ⟨.around, 0, "skip", ⟨(·.setSkipped true), .done⟩⟩,
        ⟨.afterReturning, 0, "count", ⟨id, .failed (.message "offline")⟩⟩,
        ⟨.after, 0, "report", ⟨id, .unwound (.ofText "offline")⟩⟩]⟩
    let run := invoke Habit.handle 0 ⟨"f"⟩ [] .never (.ofResult 0 .unit) world
    (∀ stage ∈ run.stages, stage.Silent) ∧
      run.world.events.map Event.message =
        ["running advice", "running advice", "target skipped by around advice", "running advice",
          "observer advice failed, ignoring", "running advice",
          "observer advice panicked, ignoring"] ∧
      run.world.events = world.events ++ run.account ⟨"f"⟩ ∧
      (∃ course : Course, course.Fits 0 run.stages) := by
  intro world run
  have hsilent : ∀ stage ∈ run.stages, stage.Silent := by
    unfold run world
    decide +kernel
  have hlookup : world.lookup 0 ⟨"f"⟩ = .ok 0 := World.lookup_single (by decide) _
  have hrecorded := (invoke_records_account (rfl : _ = run) hsilent).1
  rw [hlookup] at hrecorded
  refine ⟨hsilent, ?_, hrecorded⟩
  unfold run world
  decide +kernel

end Intercept
