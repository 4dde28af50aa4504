import Intercept.Proofs.Adapter.Writes
import Intercept.Proofs.Call.Course
import Intercept.Proofs.Call.Handover

/-!
# Which error comes out

Advice and the function it surrounds write to one error of the frame.  What a handler leaves there is
what a wrapper of a function that may fail answers, if no later handler touches it: unless the function
runs after that handler and fails, since its own failure then takes the place of what it found.
-/

namespace Intercept

variable {H U : Type} {handle : Handle H U} {chain : ChainId} {function : FallibleFunction H U}
  {args : List Value}

/-! ## Moves ahead of the target -/

def Mark.isGate : Mark → Bool
  | .phase which => which.isGatekeeper
  | .target => false

def Mark.Ahead (mark other : Mark) : Prop :=
  other = .target → mark.isGate = true

instance (mark other : Mark) : Decidable (mark.Ahead other) :=
  inferInstanceAs (Decidable (_ → _))

theorem Course.ahead_of_mem_sequences {course : Course} {marks : List Mark}
    (h : marks ∈ course.sequences) : marks.Pairwise Mark.Ahead := by
  have hall : ∀ m ∈ course.sequences, m.Pairwise Mark.Ahead := by
    cases course <;> decide
  exact hall marks h

theorem Stage.mark_of_mem_moves {stage : Stage H U} {move : Move H U}
    (h : move ∈ stage.moves chain) : move.mark = stage.mark := by
  cases stage with
  | phase which frame world run =>
      obtain ⟨rest, visit, -, rfl, -⟩ := Phase.exists_visit_of_mem h
      rfl
  | target frame world landing =>
      rw [List.mem_singleton.mp h]
      rfl

theorem Stage.pairwise_moves (chain : ChainId) (stage : Stage H U) :
    (stage.moves chain).Pairwise fun move other => move.mark.Ahead other.mark := by
  cases stage with
  | phase which frame world run =>
      refine List.pairwise_of_forall_mem_list fun move _ other hother htarget => ?_
      rw [mark_of_mem_moves hother] at htarget
      cases htarget
  | target frame world landing => exact List.pairwise_singleton _ _

theorem pairwise_moves_runAdvised (handle : Handle H U) (chain : ChainId) (key : Key)
    (target : Target H U) (frame : Frame) (world : World H U) :
    ((runAdvised handle chain key target frame world).moves chain).Pairwise
      fun move other => move.mark.Ahead other.mark := by
  obtain ⟨course, hfits⟩ := exists_fits handle chain key target frame world
  have hmarks := List.pairwise_map.mp (Course.ahead_of_mem_sequences hfits.mem_sequences)
  refine List.pairwise_flatMap.mpr ⟨fun stage _ => stage.pairwise_moves chain, ?_⟩
  refine hmarks.imp fun hahead move hmove other hother => ?_
  rw [Stage.mark_of_mem_moves hmove, Stage.mark_of_mem_moves hother]
  exact hahead

/-! ## The error from move to move -/

/-- Moves in the order of a call, which lead from one error of the frame to another. -/
structure Leads (handle : Handle H U) (target : Target H U) (found : Option Trail)
    (moves : List (Move H U)) (last : Option Trail) : Prop where
  shown : Shown Frame.error found moves last
  genuine : ∀ move ∈ moves, move.Genuine handle target
  ordered : moves.Pairwise fun move other => move.mark.Ahead other.mark

theorem leads_runAdvised {key : Key} {target : Target H U} {frame last : Frame} {world : World H U}
    (hlowered : frame.skipped = false)
    (hreturned : (runAdvised handle chain key target frame world).outcome = .returned last) :
    Leads handle target frame.error ((runAdvised handle chain key target frame world).moves chain)
      last.error := by
  have hconveyed := conveyed_runAdvised handle chain key target hlowered world
  obtain ⟨_, hshown, hlast⟩ := hconveyed.shown Frame.error fun _ _ => rfl
  rw [← hlast last hreturned] at hshown
  exact ⟨hshown, genuine_moves_runAdvised handle chain key target frame world,
    pairwise_moves_runAdvised handle chain key target frame world⟩

namespace Leads

variable {target : Target H U} {found last : Option Trail} {move : Move H U}
  {earlier later : List (Move H U)}

theorem behind (h : Leads handle target found (earlier ++ move :: later) last) :
    Leads handle target move.left.error later last where
  shown := h.shown.behind
  genuine := fun other hmem =>
    h.genuine other (List.mem_append_right _ (List.mem_cons_of_mem _ hmem))
  ordered := (List.pairwise_cons.mp (List.pairwise_append.mp h.ordered).2.1).2

theorem ahead (h : Leads handle target found (earlier ++ move :: later) last) :
    ∀ other ∈ later, move.mark.Ahead other.mark :=
  (List.pairwise_cons.mp (List.pairwise_append.mp h.ordered).2.1).1

end Leads

/-! ## Errors that last -/

def Fails (function : FallibleFunction H U) (args : List Value) (moves : List (Move H U))
    (cause : Trail) : Prop :=
  ∃ frame world landing, .target frame world landing ∈ moves ∧
    (function args world).1 = .failed cause

/-- No handler among the moves leaves another error than it finds. -/
def Untouched (moves : List (Move H U)) : Prop :=
  ∀ phase rest visit, .handler phase rest visit ∈ moves →
    visit.step.frame.error = visit.frame.error

namespace FallibleFunction

theorem target_error_of_failed {world : World H U} {cause : Trail}
    (h : (function args world).1 = .failed cause) (frame : Frame) :
    (function.target args frame world).frame.error = some cause := by
  have hcells := congrArg Cells.error (function.target_writes args frame world)
  simp only [writes, h] at hcells
  exact hcells

theorem target_error_of_not_failed {world : World H U}
    (h : ∀ cause, (function args world).1 ≠ .failed cause) (frame : Frame) :
    (function.target args frame world).frame.error = frame.error := by
  have hcells := congrArg Cells.error (function.target_writes args frame world)
  cases hanswer : (function args world).1 with
  | failed cause => exact absurd hanswer (h cause)
  | value value =>
      simp only [writes, hanswer] at hcells
      exact hcells
  | unwound payload =>
      simp only [writes, hanswer] at hcells
      exact hcells

end FallibleFunction

namespace Leads

variable {error cause : Trail} {found last : Option Trail} {moves : List (Move H U)}

theorem lasts (h : Leads handle (function.target args) (some error) moves last)
    (huntouched : Untouched moves) (hfails : ∀ cause, Fails function args moves cause → cause = error) :
    last = some error := by
  refine (h.shown.constant fun move hmem hfound => ?_).1
  cases move with
  | handler phase rest visit => exact (huntouched phase rest visit hmem).trans hfound
  | target frame world landing =>
      obtain rfl : landing = function.target args frame world := h.genuine _ hmem
      by_cases hfailed : ∃ cause, (function args world).1 = .failed cause
      · obtain ⟨cause, hcause⟩ := hfailed
        obtain rfl := hfails cause ⟨_, _, _, hmem, hcause⟩
        exact FallibleFunction.target_error_of_failed hcause frame
      · have hnone : ∀ cause, (function args world).1 ≠ .failed cause :=
          fun cause hcause => hfailed ⟨cause, hcause⟩
        exact (FallibleFunction.target_error_of_not_failed hnone frame).trans hfound

theorem replaced (h : Leads handle (function.target args) found moves last)
    (huntouched : Untouched moves) (hfails : Fails function args moves cause) :
    last = some cause := by
  obtain ⟨frame, world, landing, hmem, hcause⟩ := hfails
  obtain rfl : landing = function.target args frame world := h.genuine _ hmem
  obtain ⟨earlier, later, rfl⟩ := List.append_of_mem hmem
  have hbehind := h.behind
  have hleft : (Move.target frame world (function.target args frame world)).left.error = some cause :=
    FallibleFunction.target_error_of_failed hcause frame
  rw [hleft] at hbehind
  refine hbehind.lasts (fun phase rest visit hmove => ?_) ?_
  · exact huntouched phase rest visit (List.mem_append_right _ (List.mem_cons_of_mem _ hmove))
  · -- Only gatekeepers come before a target, so that no second one follows the first.
    rintro other ⟨_, _, _, htarget, -⟩
    have hgate := h.ahead _ htarget rfl
    cases hgate

end Leads

/-! ## Wrapped functions -/

theorem FallibleFunction.settle_of_error {registry : RegistryId} {kind : Kind} {run : CallRun H U}
    {last : Frame} {cause : Trail} (h : run.outcome = .returned last)
    (herror : last.error = some cause) : (settle registry kind run).1 = .failed cause := by
  rw [settle_of_returned h, herror]

/--
A handler that leaves an error in the frame, which no later handler touches, has it answered by the
wrapper of a function that may fail if and only if the function, called after that handler, does not
fail with another error.  If it fails then, its own failure is answered.  The function is never called
after an observer, whose error is answered in any case.
-/
theorem wrap_answers_advice_error_iff {world : World H U} {registry : RegistryId} {key : Key}
    (hlookup : world.lookup registry key = .ok chain) (handle : Handle H U) (kind : Kind)
    (function : FallibleFunction H U) (args : List Value) :
    let run := invoke handle registry key args .never (function.target args) world
    let answer := (function.wrap handle registry key kind args world).1
    ∀ earlier later phase rest visit error last,
      run.moves chain = earlier ++ .handler phase rest visit :: later →
      visit.step.frame.error = some error → Untouched later → run.outcome = .returned last →
        (answer = .failed error ↔ ∀ cause, Fails function args later cause → cause = error) ∧
        (∀ cause, Fails function args later cause → answer = .failed cause) ∧
        (phase.isGatekeeper = false → answer = .failed error) := by
  intro run answer earlier later phase rest visit error last hmoves hleft huntouched hreturned
  have hleads : Leads handle (function.target args) none (run.moves chain) last.error := by
    have hrun : run = runAdvised handle chain key (function.target args) (.new key args .never)
        (world.acquire registry key args .never).2 := invoke_of_lookup hlookup ..
    rw [hrun] at hreturned ⊢
    exact leads_runAdvised rfl hreturned
  rw [hmoves] at hleads
  have hbehind := hleads.behind
  rw [show (Move.handler phase rest visit).left.error = some error from hleft] at hbehind
  have hlasts : (∀ cause, Fails function args later cause → cause = error) →
      answer = .failed error := fun hfails =>
    FallibleFunction.settle_of_error hreturned (hbehind.lasts huntouched hfails)
  have hreplaced : ∀ cause, Fails function args later cause → answer = .failed cause :=
    fun cause hfails =>
      FallibleFunction.settle_of_error hreturned (hbehind.replaced huntouched hfails)
  refine ⟨⟨fun hanswer cause hfails => ?_, hlasts⟩, hreplaced, fun hobserver => ?_⟩
  · rw [hreplaced cause hfails] at hanswer
    exact Answer.failed.inj hanswer
  · refine hlasts fun cause hfails => ?_
    obtain ⟨_, _, _, hmem, -⟩ := hfails
    have hgate : phase.isGatekeeper = true := hleads.ahead _ hmem rfl
    rw [hobserver] at hgate
    cases hgate

theorem spent_quota_is_answered :
    let quota : Trail := .message "spent"
    let world : World Habit Unit := .single ⟨"f"⟩
      ⟨[⟨.around, 0, "quota", ⟨(·.setError quota), .done⟩⟩,
        ⟨.after, 0, "report", ⟨(·.setSkipped true), .failed (.message "offline")⟩⟩]⟩
    let load : FallibleFunction Habit Unit := fun _ world => (.value (.int32 7), world)
    let run := invoke Habit.handle 0 ⟨"f"⟩ [] .never (load.target []) world
    let last : Frame :=
      { Frame.new ⟨"f"⟩ [] .never with
        results := ⟨[some (.int32 7)]⟩, error := some quota, skipped := true }
    world.lookup 0 ⟨"f"⟩ = .ok 0 ∧
      (run.moves 0).map (fun move => (move.mark, move.given.error, move.left.error)) =
        [(.phase .around, none, some quota), (.target, some quota, some quota),
          (.phase .after, some quota, some quota)] ∧
      run.outcome = .returned last ∧
      (load.wrap Habit.handle 0 ⟨"f"⟩ .int32 [] world).1 = .failed quota := by
  intro quota world load run last
  have hlookup : world.lookup 0 ⟨"f"⟩ = .ok 0 := World.lookup_single (by decide) _
  have hmoves : (run.moves 0).map (fun move => (move.mark, move.given.error, move.left.error)) =
      [(.phase .around, none, some quota), (.target, some quota, some quota),
        (.phase .after, some quota, some quota)] := by
    unfold run world
    decide +kernel
  have hlast : run.outcome = .returned last := by
    unfold run last world
    decide +kernel
  obtain ⟨first, later, hrun, hfirst, hlater⟩ := List.map_eq_cons_iff.mp hmoves
  cases first with
  | target frame world landing => cases hfirst
  | handler phase rest visit =>
      have hleft : visit.step.frame.error = some quota := congrArg (·.2.2) hfirst
      have huntouched : Untouched later := by
        intro phase rest visit hmem
        have hthen := List.mem_map_of_mem
          (f := fun move => (move.mark, move.given.error, move.left.error)) hmem
        rw [hlater] at hthen
        simp only [Move.mark, Move.given, Move.left, List.mem_cons, Prod.mk.injEq, reduceCtorEq,
          false_and, List.not_mem_nil, or_false, false_or] at hthen
        exact hthen.2.2.trans hthen.2.1.symm
      have hanswer := wrap_answers_advice_error_iff hlookup Habit.handle .int32 load [] [] later
        phase rest visit quota last hrun hleft huntouched hlast
      refine ⟨hlookup, hmoves, hlast, hanswer.1.mpr ?_⟩
      rintro cause ⟨_, _, _, -, hcause⟩
      cases hcause

theorem failing_function_hides_advice_error :
    let advice : Trail := .message "advice"
    let disk : Trail := .message "disk"
    let world : World Habit Unit := .single ⟨"f"⟩
      ⟨[⟨.before, 0, "refuse", ⟨(·.setError advice), .done⟩⟩]⟩
    let load : FallibleFunction Habit Unit := fun _ world => (.failed disk, world)
    let run := invoke Habit.handle 0 ⟨"f"⟩ [] .never (load.target []) world
    (run.moves 0).map (fun move => (move.mark, move.given.error, move.left.error)) =
        [(.phase .before, none, some advice), (.target, some advice, some disk)] ∧
      run.outcome = .returned { Frame.new ⟨"f"⟩ [] .never with error := some disk } ∧
      (load.wrap Habit.handle 0 ⟨"f"⟩ .int32 [] world).1 ≠ .failed advice := by
  intro advice disk world load run
  refine ⟨?_, ?_, ?_⟩
  · unfold run world
    decide +kernel
  · unfold run world
    decide +kernel
  · unfold world
    decide +kernel

end Intercept
