import Intercept.Proofs.Adapter.Writes
import Intercept.Proofs.Call.Continuing
import Intercept.Proofs.Call.Course
import Intercept.Proofs.Call.Handover

/-!
# What a wrapped function answers

The handlers of a call and its target write to the error of the frame and to slot 0 in turn.  Which of
them wrote last decides what the wrapper answers: `wrap_resolves_by_last_write`.
-/

namespace Intercept

variable {H U : Type} {handle : Handle H U} {chain : ChainId} {log : Visit H U → List Write}
  {function : FallibleFunction H U} {args : List Value}

/-! ## The writes of a call -/

/-- The log of the visit tells what the handler did to the error and to slot 0, and the handler has
neither reset its frame nor put another in its place. -/
structure Visit.Logged (log : Visit H U → List Write) (visit : Visit H U) : Prop where
  continues : visit.Relates Frame.Continues
  cells : visit.step.frame.cells = replay (log visit) visit.frame.cells

instance (log : Visit H U → List Write) (visit : Visit H U) : Decidable (visit.Logged log) :=
  decidable_of_iff
    (visit.Relates Frame.Continues ∧ visit.step.frame.cells = replay (log visit) visit.frame.cells)
    ⟨fun ⟨hcontinues, hcells⟩ => ⟨hcontinues, hcells⟩, fun h => ⟨h.continues, h.cells⟩⟩

def Stage.Logged (log : Visit H U → List Write) (stage : Stage H U) : Prop :=
  stage.Each fun _ visit => visit.Logged log

instance (log : Visit H U → List Write) (stage : Stage H U) : Decidable (stage.Logged log) :=
  inferInstanceAs (Decidable (stage.Each _))

theorem Stage.Mild.logged {stage : Stage H U} (h : stage.Mild) :
    stage.Logged fun visit => visit.frame.cells.writesTo visit.step.frame.cells :=
  h.mono fun _ _ hvisit => ⟨hvisit, (replay_writesTo _ _).symm⟩

def Stage.writes (log : Visit H U → List Write) (function : FallibleFunction H U)
    (args : List Value) : Stage H U → List Write
  | .phase _ _ _ run => run.visits.flatMap log
  | .target _ world _ => function.writes args world

def CallRun.writes (log : Visit H U → List Write) (function : FallibleFunction H U)
    (args : List Value) (run : CallRun H U) : List Write :=
  run.stages.flatMap (Stage.writes log function args)

def Move.writes (log : Visit H U → List Write) (function : FallibleFunction H U)
    (args : List Value) : Move H U → List Write
  | .handler _ _ visit => log visit
  | .target _ world _ => function.writes args world

theorem Phase.writes_moves (phase : Phase) (queue : List (Advice H)) (visits : List (Visit H U)) :
    (phase.moves queue visits).flatMap (Move.writes log function args) = visits.flatMap log := by
  induction visits generalizing queue with
  | nil => rfl
  | cons visit visits ih =>
      rw [Phase.moves, List.flatMap_cons, List.flatMap_cons, ih]
      rfl

theorem Stage.writes_moves (stage : Stage H U) :
    (stage.moves chain).flatMap (Move.writes log function args) = stage.writes log function args := by
  cases stage with
  | phase which frame world run => exact which.writes_moves _ _
  | target frame world landing => exact List.append_nil _

theorem CallRun.writes_moves (chain : ChainId) (run : CallRun H U) :
    (run.moves chain).flatMap (Move.writes log function args) = run.writes log function args := by
  rw [moves, List.flatMap_assoc, writes]
  simp only [Stage.writes_moves]

/-! ## The cells from move to move -/

structure Move.Kept (log : Visit H U → List Write) (function : FallibleFunction H U)
    (args : List Value) (move : Move H U) : Prop where
  owner : move.left.function = move.given.function
  cells : move.left.cells = replay (move.writes log function args) move.given.cells

theorem kept_of_logged {run : CallRun H U} (hlogged : ∀ stage ∈ run.stages, stage.Logged log)
    (hgenuine : ∀ move ∈ run.moves chain, move.Genuine handle (function.target args)) :
    ∀ move ∈ run.moves chain, move.Kept log function args := by
  intro move hmem
  obtain ⟨stage, hstage, hmove⟩ := List.mem_flatMap.mp hmem
  cases stage with
  | phase which frame world held =>
      obtain ⟨rest, visit, hvisit, rfl, -⟩ := Phase.exists_visit_of_mem hmove
      have hvisit := hlogged _ hstage visit hvisit
      exact ⟨hvisit.continues.function, hvisit.cells⟩
  | target frame world landing =>
      have htarget := hgenuine move hmem
      obtain rfl := List.mem_singleton.mp hmove
      obtain rfl : landing = function.target args frame world := htarget
      exact ⟨function.target_function args frame world, function.target_writes args frame world⟩

theorem Shown.kept {found last : Cells} {moves : List (Move H U)}
    (h : Shown Frame.cells found moves last)
    (hkept : ∀ move ∈ moves, move.Kept log function args) :
    last = replay (moves.flatMap (Move.writes log function args)) found := by
  induction moves generalizing found with
  | nil => exact h
  | cons move moves ih =>
      obtain ⟨hmove, hmoves⟩ := List.forall_mem_cons.mp hkept
      rw [ih h.2 hmoves, hmove.cells, h.1, List.flatMap_cons, replay_append]

theorem Conveyed.kept {first last : Frame} {run : CallRun H U} (h : Conveyed chain first run)
    (hkept : ∀ move ∈ run.moves chain, move.Kept log function args)
    (hreturned : run.outcome = .returned last) :
    last.function = first.function ∧
      last.cells = replay (run.writes log function args) first.cells := by
  rw [← CallRun.writes_moves chain]
  obtain ⟨_, howner, hlast⟩ := h.shown Frame.function fun _ _ => rfl
  rw [← hlast last hreturned] at howner
  obtain ⟨_, hcells, hlast⟩ := h.shown Frame.cells Frame.cells_setPayload
  rw [← hlast last hreturned] at hcells
  have hfunction := (howner.constant fun move hmem hfound =>
    (hkept move hmem).owner.trans hfound).1
  exact ⟨hfunction, hcells.kept hkept⟩

theorem invoke_kept {registry : RegistryId} {key : Key} {world : World H U} {last : Frame}
    (hlogged : ∀ stage ∈ (invoke handle registry key args .never (function.target args)
      world).stages, stage.Logged log)
    (hreturned : (invoke handle registry key args .never (function.target args) world).outcome =
      .returned last) :
    last.function = key ∧
      last.cells = replay ((invoke handle registry key args .never (function.target args)
        world).writes log function args) ⟨none, none⟩ := by
  cases hlookup : world.lookup registry key with
  | ok chain =>
      rw [invoke_of_lookup hlookup] at hlogged hreturned ⊢
      have hgenuine := genuine_moves_runAdvised handle chain key (function.target args)
        (.new key args .never) (world.acquire registry key args .never).2
      have hconveyed := conveyed_runAdvised handle chain key (function.target args)
        (rfl : (Frame.new key args .never).skipped = false) (world.acquire registry key args .never).2
      exact hconveyed.kept (kept_of_logged hlogged hgenuine) hreturned
  | error refusal =>
      rw [invoke_of_refusal hlookup, runDirect_eq] at hreturned ⊢
      have hlast : (function.target args (.new key args .never)
          ((world.acquire registry key args .never).2.record (.directCall key))).frame = last := by
        simp only [Landing.outcome] at hreturned
        split at hreturned
        · cases hreturned
        · exact Outcome.returned.inj hreturned
      subst hlast
      refine ⟨function.target_function args _ _, ?_⟩
      rw [function.target_writes, CallRun.writes, List.flatMap_singleton]
      rfl

/-! ## Answers -/

/-- What a wrapper of a function that may fail answers by the writes of its call. -/
inductive Resolves (key : Key) (kind : Kind) (writes : List Write) : Answer → Prop
  | failed {cause : Trail} (left : LeavesError writes cause) :
      Resolves key kind writes (.failed cause)
  | value {value : Value} (clean : ∀ cause, ¬LeavesError writes cause)
      (left : LeavesResult writes value) (hkind : value.kind = kind) :
      Resolves key kind writes (.value value)
  | missing (clean : ∀ cause, ¬LeavesError writes cause)
      (none : ∀ value, LeavesResult writes value → value.kind ≠ kind) :
      Resolves key kind writes (.failed (.missingResult key))

/-- What a wrapper of a plain function answers, which looks at slot 0 only. -/
inductive Expects (key : Key) (kind : Kind) (writes : List Write) : Except Payload Value → Prop
  | value {value : Value} (left : LeavesResult writes value) (hkind : value.kind = kind) :
      Expects key kind writes (.ok value)
  | missing (none : ∀ value, LeavesResult writes value → value.kind ≠ kind) :
      Expects key kind writes (.error (.missingResult key))

theorem takeResult_iff {frame : Frame} {writes : List Write}
    (h : frame.cells = replay writes ⟨none, none⟩) {kind : Kind} {value : Value} :
    (frame.takeResult 0 kind).1 = some value ↔ LeavesResult writes value ∧ value.kind = kind := by
  have hresult : frame.results.get? 0 = (replay writes ⟨none, none⟩).result :=
    congrArg Cells.result h
  have htaken : (frame.takeResult 0 kind).1 = frame.results.read? 0 kind := Slots.take_fst ..
  rw [htaken, Slots.read?, Option.bind_eq_some_iff, hresult,
    ← result_replay_iff (rfl : (⟨none, none⟩ : Cells).result = none)]
  constructor
  · rintro ⟨found, hfound, hkind⟩
    obtain ⟨rfl, hkind⟩ := Value.as?_eq_some_iff.mp hkind
    exact ⟨hfound, hkind⟩
  · rintro ⟨hfound, hkind⟩
    exact ⟨value, hfound, Value.as?_eq_some_iff.mpr ⟨rfl, hkind⟩⟩

theorem error_iff {frame : Frame} {writes : List Write}
    (h : frame.cells = replay writes ⟨none, none⟩) {cause : Trail} :
    frame.error = some cause ↔ LeavesError writes cause := by
  rw [← error_replay_iff (rfl : (⟨none, none⟩ : Cells).error = none), ← h]
  rfl

section

variable {registry : RegistryId} {kind : Kind} {key : Key} {run : CallRun H U} {last : Frame}
  {writes : List Write}

theorem FallibleFunction.resolves_settle (hreturned : run.outcome = .returned last)
    (howner : last.function = key) (hcells : last.cells = replay writes ⟨none, none⟩) :
    Resolves key kind writes (settle registry kind run).1 := by
  rw [settle_of_returned hreturned, howner]
  cases herror : last.error with
  | some cause => exact .failed ((error_iff hcells).mp herror)
  | none =>
      have hclean : ∀ cause, ¬LeavesError writes cause := by
        intro cause hleft
        rw [(error_iff hcells).mpr hleft] at herror
        cases herror
      cases htaken : (last.takeResult 0 kind).1 with
      | some value =>
          obtain ⟨hleft, hkind⟩ := (takeResult_iff hcells).mp htaken
          exact .value hclean hleft hkind
      | none =>
          refine .missing hclean fun value hleft hkind => ?_
          rw [(takeResult_iff hcells).mpr ⟨hleft, hkind⟩] at htaken
          cases htaken

theorem PlainFunction.expects_settle (hreturned : run.outcome = .returned last)
    (howner : last.function = key) (hcells : last.cells = replay writes ⟨none, none⟩) :
    Expects key kind writes (settle registry kind run).1 := by
  rw [settle_of_returned hreturned, howner]
  cases htaken : (last.takeResult 0 kind).1 with
  | some value =>
      obtain ⟨hleft, hkind⟩ := (takeResult_iff hcells).mp htaken
      exact .value hleft hkind
  | none =>
      refine .missing fun value hleft hkind => ?_
      rw [(takeResult_iff hcells).mpr ⟨hleft, hkind⟩] at htaken
      cases htaken

end

/-! ## Wrapped functions -/

structure CallRun.AtMostOnce (run : CallRun H U) (target : Target H U) : Prop where
  once : (run.stages.map Stage.mark).count .target ≤ 1
  genuine : ∀ frame world landing, .target frame world landing ∈ run.stages →
    landing = target frame world

theorem atMostOnce_invoke (handle : Handle H U) (registry : RegistryId) (key : Key)
    (args : List Value) (signal : Signal) (target : Target H U) (world : World H U) :
    (invoke handle registry key args signal target world).AtMostOnce target := by
  cases hlookup : world.lookup registry key with
  | ok chain =>
      rw [invoke_of_lookup hlookup]
      obtain ⟨course, hfits⟩ := exists_fits handle chain key target (.new key args signal)
        (world.acquire registry key args signal).2
      refine ⟨(Course.orderly_of_mem_sequences hfits.mem_sequences).target_once, ?_⟩
      intro frame world' landing hmem
      exact genuine_runAdvised handle chain key target _ _ _ hmem
  | error refusal =>
      rw [invoke_of_refusal hlookup, runDirect_eq]
      refine ⟨Nat.le_refl 1, ?_⟩
      intro frame world' landing hmem
      obtain ⟨rfl, rfl, rfl⟩ := Stage.target.inj (List.mem_singleton.mp hmem)
      rfl

/--
Whatever the advice does, a wrapped function is called at most once, with the arguments of the wrapper.
If the call returns, and no handler resets or replaces the frame, what the wrapper answers is decided by
the last writes: the error that is left comes first, and a plain function passes it over; then the value
last written to slot 0, if it is still there and of the kind asked for; and else a result is missing.
-/
theorem wrap_resolves_by_last_write (handle : Handle H U) (registry : RegistryId) (key : Key)
    (kind : Kind) (args : List Value) (world : World H U) :
    (∀ function : FallibleFunction H U,
      let run := invoke handle registry key args .never (function.target args) world
      run.AtMostOnce (function.target args) ∧
        ∀ log, (∀ stage ∈ run.stages, stage.Logged log) →
          (∃ last, run.outcome = .returned last) →
            Resolves key kind (run.writes log function args)
              (function.wrap handle registry key kind args world).1) ∧
    (∀ function : PlainFunction H U,
      let run := invoke handle registry key args .never (function.target args) world
      run.AtMostOnce (function.target args) ∧
        ∀ log, (∀ stage ∈ run.stages, stage.Logged log) →
          (∃ last, run.outcome = .returned last) →
            Expects key kind (run.writes log function.fallible args)
              (function.wrap handle registry key kind args world).1) := by
  constructor
  · intro function run
    refine ⟨atMostOnce_invoke handle registry key args .never _ world, ?_⟩
    rintro log hlogged ⟨last, hreturned⟩
    obtain ⟨howner, hcells⟩ := invoke_kept hlogged hreturned
    exact FallibleFunction.resolves_settle hreturned howner hcells
  · intro function run
    refine ⟨atMostOnce_invoke handle registry key args .never _ world, ?_⟩
    rintro log hlogged ⟨last, hreturned⟩
    have hrun : run = invoke handle registry key args .never (function.fallible.target args) world := by
      rw [function.target_fallible]
    rw [hrun] at hlogged hreturned
    obtain ⟨howner, hcells⟩ := invoke_kept hlogged hreturned
    rw [← hrun] at hreturned hcells
    exact PlainFunction.expects_settle hreturned howner hcells

theorem recovered_call_answers :
    let world : World Habit Unit := .single ⟨"f"⟩
      ⟨[⟨.around, 0, "prefill", ⟨fun frame => (frame.setResult 0 .unit).toOption.getD frame, .done⟩⟩,
        ⟨.after, 0, "recover", ⟨fun frame =>
          (frame.clearError.setResult 0 (.int32 9)).toOption.getD frame, .done⟩⟩]⟩
    let load : FallibleFunction Habit Unit := fun _ world => (.failed (.message "disk"), world)
    let skip : PlainFunction Habit Unit := fun _ world => (.ok (.text "late"), world)
    let log : Visit Habit Unit → List Write := fun visit =>
      if visit.advice.name = "prefill" then [.setResult .unit]
      else [.clearError, .setResult (.int32 9)]
    let run := invoke Habit.handle 0 ⟨"f"⟩ [.bool true] .never (load.target [.bool true]) world
    let run' := invoke Habit.handle 0 ⟨"f"⟩ [.bool true] .never (skip.target [.bool true]) world
    (∀ stage ∈ run.stages, stage.Logged log) ∧ (∃ last, run.outcome = .returned last) ∧
      (∀ stage ∈ run'.stages, stage.Logged log) ∧ (∃ last, run'.outcome = .returned last) ∧
      run.writes log load [.bool true] = [.setResult .unit, .setError (.message "disk"),
        .clearError, .setResult (.int32 9)] ∧
      Resolves ⟨"f"⟩ .int32 (run.writes log load [.bool true]) (.value (.int32 9)) ∧
      Expects ⟨"f"⟩ .text (run'.writes log skip.fallible [.bool true])
        (.error (.missingResult ⟨"f"⟩)) := by
  intro world load skip log run run'
  have hlogged : ∀ stage ∈ run.stages, stage.Logged log := by
    unfold run log load world
    decide +kernel
  have hlogged' : ∀ stage ∈ run'.stages, stage.Logged log := by
    unfold run' log skip world
    decide +kernel
  have hreturned : run.outcome = .returned
      { Frame.new ⟨"f"⟩ [.bool true] .never with results := ⟨[some (.int32 9)]⟩ } := by
    unfold run load world
    decide +kernel
  have hreturned' : run'.outcome = .returned
      { Frame.new ⟨"f"⟩ [.bool true] .never with results := ⟨[some (.int32 9)]⟩ } := by
    unfold run' skip world
    decide +kernel
  have hwrites : run.writes log load [.bool true] = [.setResult .unit,
      .setError (.message "disk"), .clearError, .setResult (.int32 9)] := by
    unfold run log load world
    decide +kernel
  have hanswer : (load.wrap Habit.handle 0 ⟨"f"⟩ .int32 [.bool true] world).1 =
      .value (.int32 9) := by
    unfold load world
    decide +kernel
  have hanswer' : (skip.wrap Habit.handle 0 ⟨"f"⟩ .text [.bool true] world).1.toOption = none := by
    unfold skip world
    decide +kernel
  have hresolves := ((wrap_resolves_by_last_write Habit.handle 0 ⟨"f"⟩ .int32 [.bool true]
    world).1 load).2 log hlogged ⟨_, hreturned⟩
  have hexpects := ((wrap_resolves_by_last_write Habit.handle 0 ⟨"f"⟩ .text [.bool true]
    world).2 skip).2 log hlogged' ⟨_, hreturned'⟩
  rw [hanswer] at hresolves
  refine ⟨hlogged, ⟨_, hreturned⟩, hlogged', ⟨_, hreturned'⟩, hwrites, hresolves, ?_⟩
  generalize (skip.wrap Habit.handle 0 ⟨"f"⟩ .text [.bool true] world).1 = answer at *
  cases hexpects with
  | value left hkind => cases hanswer'
  | missing hnone => exact .missing hnone

end Intercept
