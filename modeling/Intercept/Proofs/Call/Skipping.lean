import Intercept.Proofs.Call.Closing
import Intercept.Proofs.Call.Single
import Intercept.Proofs.Call.Stages
import Intercept.Proofs.Call.Visits

/-!
# What becomes of the skip flag

The flag is read once, when Around advice has passed, and whoever raised it counts.  If no Around
handler raises it, the target runs unless Before left it raised and every Around handler left it so.
-/

namespace Intercept

variable {H U : Type} {handle : Handle H U} {chain : ChainId} {target : Target H U}

/-! ## The flag in a phase -/

/-- A visit raises the flag if it is up behind it and was not before. -/
def Visit.Raises (visit : Visit H U) : Prop :=
  visit.step.frame.skipped = true ∧ visit.frame.skipped = false

instance (visit : Visit H U) : Decidable visit.Raises :=
  inferInstanceAs (Decidable (_ ∧ _))

theorem Visit.skipped_of_not_raises {visit : Visit H U} (h : ¬visit.Raises)
    (hleft : visit.step.frame.skipped = true) : visit.frame.skipped = true := by
  cases hfound : visit.frame.skipped with
  | true => rfl
  | false => exact absurd ⟨hleft, hfound⟩ h

theorem Ran.skipped_iff {phase : Phase} {queue : List (Advice H)} {frame : Frame}
    {world : World H U} {run : PhaseRun H U} (h : Ran handle phase queue frame world run)
    (hraise : ∀ visit ∈ run.visits, ¬visit.Raises) :
    run.frame.skipped = true ↔
      frame.skipped = true ∧ ∀ visit ∈ run.visits, visit.step.frame.skipped = true := by
  -- What a visit leaves raised it found raised, and that is what the visit before left.
  induction h with
  | finished frame world => simp
  | interrupted tripped => simp
  | @done advice queue frame world visit run untripped hvisit hexit hrest ih =>
      have hhead := Visit.skipped_of_not_raises (hraise visit List.mem_cons_self)
      rw [frame_of_visitOf hvisit] at hhead
      have hrun := ih fun visit hmem => hraise visit (List.mem_cons_of_mem _ hmem)
      have hvisits : (run.prepend visit).visits = visit :: run.visits := rfl
      rw [hvisits, List.forall_mem_cons]
      constructor
      · intro hleft
        obtain ⟨hstep, hall⟩ := hrun.mp hleft
        exact ⟨hhead hstep, hstep, hall⟩
      · rintro ⟨_, hstep, hall⟩
        exact hrun.mpr ⟨hstep, hall⟩
  | @failed advice queue frame world visit cause untripped hvisit hexit =>
      have hhead := Visit.skipped_of_not_raises (hraise visit List.mem_cons_self)
      rw [frame_of_visitOf hvisit] at hhead
      rw [List.forall_mem_singleton]
      exact ⟨fun hleft => ⟨hhead hleft, hleft⟩, fun hboth => hboth.2⟩
  | @unwound advice queue frame world visit payload untripped hvisit hexit =>
      have hhead := Visit.skipped_of_not_raises (hraise visit List.mem_cons_self)
      rw [frame_of_visitOf hvisit] at hhead
      rw [List.forall_mem_singleton]
      exact ⟨fun hleft => ⟨hhead hleft, hleft⟩, fun hboth => hboth.2⟩

/-! ## Runs of the target -/

def Progress.landings (progress : Progress H U) : Nat :=
  (progress.stages.map Stage.mark).count .target

namespace Progress

@[simp] theorem landings_nil (frame : Frame) (world : World H U) :
    (⟨[], frame, world⟩ : Progress H U).landings = 0 := rfl

@[simp] theorem landings_pass (progress : Progress H U) (phase : Phase) (run : PhaseRun H U) :
    (progress.pass phase run).landings = progress.landings := by
  simp [landings, Stage.mark]

@[simp] theorem landings_record (progress : Progress H U) (event : Event) :
    (progress.record event).landings = progress.landings := rfl

@[simp] theorem landings_arrive (progress : Progress H U) (landing : Landing H U) :
    (progress.arrive landing).landings = progress.landings + 1 := by
  simp [landings, Stage.mark]

@[simp] theorem landings_watch (progress : Progress H U) (phase : Phase) :
    (progress.watch handle chain phase).landings = progress.landings :=
  landings_pass progress phase _

@[simp] theorem landings_watchReturn (progress : Progress H U) :
    (progress.watchReturn handle chain).landings = progress.landings := by
  rw [watchReturn]
  split
  · exact landings_watch progress .afterReturning
  · rfl

@[simp] theorem landings_announce (progress : Progress H U) (key : Key) (verdict : Verdict) :
    (progress.announce key verdict).landings = progress.landings := by
  rw [landings, stages_announce, landings]

@[simp] theorem landings_throwWith (progress : Progress H U) (payload : Payload) :
    (progress.throwWith handle chain payload).landings = progress.landings := by
  rw [throwWith, landings_watch, landings_watch]
  rfl

end Progress

theorem count_target_runAdvised (key : Key) (frame : Frame) (world : World H U) :
    ((runAdvised handle chain key target frame world).stages.map Stage.mark).count .target =
      (runGuarded handle chain target ⟨[], frame, world⟩).2.landings := by
  have hclosed := closed_runAdvised handle chain key target frame world
  generalize runAdvised handle chain key target frame world = run at hclosed ⊢
  generalize runGuarded handle chain target ⟨[], frame, world⟩ = result at hclosed ⊢
  cases hclosed with
  | completed progress => exact progress.landings_watch .after
  | @raised verdict payload progress hraised =>
      rw [unwind_eq]
      exact (Progress.landings_throwWith _ payload).trans (progress.landings_announce key verdict)

theorem landings_runGuarded (target : Target H U) {start : Progress H U}
    {before around : PhaseRun H U} (h : Entered handle chain start before around)
    (passed : around.ending = .passed) :
    (runGuarded handle chain target start).2.landings =
      start.landings + if around.frame.skipped then 0 else 1 := by
  cases hskipped : around.frame.skipped with
  | true =>
      have hguard : Guarded handle chain target start _ := .skipped h passed hskipped
      rw [hguard.eq]
      simp
  | false =>
      have hgates : Reaches handle chain start _ := .around h passed hskipped
      generalize hlanding : target ((start.pass .before before).pass .around around).frame
        ((start.pass .before before).pass .around around).world = landing
      cases hpayload : landing.payload with
      | none =>
          rw [(Guarded.returned hgates hlanding hpayload).eq]
          simp
      | some payload =>
          rw [(Guarded.threw hgates hlanding hpayload).eq]
          simp

/-! ## The decision -/

/--
If no Around handler raises the flag, the target runs exactly once if Before left the flag down or an
Around handler lowered it, and not at all otherwise.
-/
theorem invoke_runs_target_iff {world : World H U} {registry : RegistryId} {key : Key}
    {chain : ChainId} (h : world.lookup registry key = .ok chain) {handle : Handle H U}
    {args : List Value} {signal : Signal} (target : Target H U) {before around : PhaseRun H U}
    (hentered : Entered handle chain
      ⟨[], .new key args signal, (world.acquire registry key args signal).2⟩ before around)
    (passed : around.ending = .passed) (hraise : ∀ visit ∈ around.visits, ¬visit.Raises) :
    let marks := (invoke handle registry key args signal target world).stages.map Stage.mark
    (marks.count .target = 1 ↔ before.frame.skipped = false ∨
      ∃ visit ∈ around.visits, visit.step.frame.skipped = false) ∧
      (marks.count .target = 0 ↔ before.frame.skipped = true ∧
        ∀ visit ∈ around.visits, visit.step.frame.skipped = true) := by
  rw [invoke_of_lookup h]
  intro marks
  have hran := ran_runPhase handle chain .around before.frame before.world
  rw [hentered.haround] at hran
  have hflag := hran.skipped_iff hraise
  have hcount : marks.count .target = if around.frame.skipped then 0 else 1 := by
    have hguard := landings_runGuarded target hentered passed
    exact (count_target_runAdvised key _ _).trans (hguard.trans (Nat.zero_add _))
  have hdown : around.frame.skipped = false ↔ before.frame.skipped = false ∨
      ∃ visit ∈ around.visits, visit.step.frame.skipped = false := by
    rw [← Bool.not_eq_true, hflag, Classical.not_and_iff_not_or_not]
    simp
  rw [hcount, ← hdown, ← hflag]
  cases around.frame.skipped <;> decide

theorem flag_raised_before_skips_target :
    let world : World Habit Unit := .single ⟨"f"⟩
      ⟨[⟨.before, 0, "warm", ⟨(·.setSkipped true), .done⟩⟩, ⟨.around, 0, "trace", ⟨id, .done⟩⟩]⟩
    let start := (world.acquire 0 ⟨"f"⟩ [] .never).2
    let before := runPhase Habit.handle 0 .before (.new ⟨"f"⟩ [] .never) start
    let around := runPhase Habit.handle 0 .around before.frame before.world
    let run := invoke Habit.handle 0 ⟨"f"⟩ [] .never (.ofResult 0 .unit) world
    world.lookup 0 ⟨"f"⟩ = .ok 0 ∧ before.ending = .passed ∧ around.ending = .passed ∧
      around.visits.map (fun visit => (visit.advice.name, visit.step.frame == visit.frame)) =
        [("trace", true)] ∧
      .target ∉ run.stages.map Stage.mark := by
  refine ⟨World.lookup_single (by decide) _, ?_⟩
  decide +kernel

theorem lowered_flag_runs_target :
    let world : World Habit Unit := .single ⟨"f"⟩
      ⟨[⟨.before, 0, "warm", ⟨(·.setSkipped true), .done⟩⟩,
        ⟨.around, 0, "clear", ⟨(·.setSkipped false), .done⟩⟩]⟩
    let start := (world.acquire 0 ⟨"f"⟩ [] .never).2
    let before := runPhase Habit.handle 0 .before (.new ⟨"f"⟩ [] .never) start
    let around := runPhase Habit.handle 0 .around before.frame before.world
    let run := invoke Habit.handle 0 ⟨"f"⟩ [] .never (.ofResult 0 .unit) world
    world.lookup 0 ⟨"f"⟩ = .ok 0 ∧
      Entered Habit.handle 0 ⟨[], .new ⟨"f"⟩ [] .never, start⟩ before around ∧
      around.ending = .passed ∧ (∀ visit ∈ around.visits, ¬visit.Raises) ∧
      (∃ visit ∈ around.visits, visit.step.frame.skipped = false) ∧
      (run.stages.map Stage.mark).count .target = 1 := by
  intro world start before around run
  have hlookup : world.lookup 0 ⟨"f"⟩ = .ok 0 := World.lookup_single (by decide) _
  have hpassed : before.ending = .passed := by
    unfold before start world
    decide +kernel
  have hadvised : ((before.world.chain 0).bucket .around).length = 1 := by
    unfold before start world
    decide +kernel
  have hentered : Entered Habit.handle 0 ⟨[], .new ⟨"f"⟩ [] .never, start⟩ before around :=
    ⟨rfl, hpassed, List.ne_nil_of_length_pos (by omega), rfl⟩
  have hpassed' : around.ending = .passed := by
    unfold around before start world
    decide +kernel
  have hraise : ∀ visit ∈ around.visits, ¬visit.Raises := by
    unfold around before start world
    decide +kernel
  have hlowered : ∃ visit ∈ around.visits, visit.step.frame.skipped = false := by
    unfold around before start world
    decide +kernel
  have hcount := (invoke_runs_target_iff hlookup (.ofResult 0 .unit) hentered hpassed' hraise).1
  exact ⟨hlookup, hentered, hpassed', hraise, hlowered, hcount.mpr (.inr hlowered)⟩

end Intercept
