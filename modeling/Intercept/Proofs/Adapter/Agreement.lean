import Intercept.Proofs.Adapter.Writes
import Intercept.Proofs.Call.Single

/-!
# One function under both wrappers

A plain function can be wrapped as it is, or as one that may fail and never does.  Both wrappers make
the same call.  If that returns without an error in its frame, what the one unwinds with for lack of a
result the other answers; if it unwinds, so do both, even with the report of a missing result of another
function: `wrap_fallible_agrees`.
-/

namespace Intercept

variable {H U : Type} {run : CallRun H U}

/-! ## The same run for both -/

theorem settle_snd (registry : RegistryId) (kind : Kind) (run : CallRun H U) :
    (FallibleFunction.settle registry kind run).2 = (PlainFunction.settle registry kind run).2 := by
  cases h : run.outcome with
  | returned last =>
      rw [PlainFunction.settle_of_returned h, FallibleFunction.settle_of_returned h]
  | unwound payload =>
      rw [PlainFunction.settle_of_unwound h, FallibleFunction.settle_of_unwound h]

/-- What the two wrappers make of a call that leaves no error. -/
inductive Concur (outcome : Outcome) : Except Payload Value → Answer → Prop
  | value {last : Frame} {value : Value} (returned : outcome = .returned last) :
      Concur outcome (.ok value) (.value value)
  | missing {last : Frame} (returned : outcome = .returned last) :
      Concur outcome (.error (.missingResult last.function))
        (.failed (.missingResult last.function))
  | unwound {payload : Payload} (unwound : outcome = .unwound payload) :
      Concur outcome (.error payload) (.unwound payload)

theorem concur_settle (registry : RegistryId) (kind : Kind)
    (hclean : ∀ last, run.outcome = .returned last → last.error = none) :
    Concur run.outcome (PlainFunction.settle registry kind run).1
      (FallibleFunction.settle registry kind run).1 := by
  cases h : run.outcome with
  | returned last =>
      rw [PlainFunction.settle_of_returned h, FallibleFunction.settle_of_returned h, hclean last h]
      cases (last.takeResult 0 kind).1 with
      | some value => exact .value rfl
      | none => exact .missing rfl
  | unwound payload =>
      rw [PlainFunction.settle_of_unwound h, FallibleFunction.settle_of_unwound h]
      exact .unwound rfl

namespace Concur

variable {outcome : Outcome} {plain : Except Payload Value} {answer : Answer}

theorem value_iff (h : Concur outcome plain answer) (value : Value) :
    answer = .value value ↔ plain = .ok value := by
  cases h <;> simp

theorem missing_iff (h : Concur outcome plain answer) (key : Key) :
    answer = .failed (.missingResult key) ↔
      (∃ last, outcome = .returned last) ∧ plain = .error (.missingResult key) := by
  cases h with
  | value returned => simp
  | missing returned => simp [returned]
  | unwound unwound => simp [unwound]

theorem unwound_iff (h : Concur outcome plain answer) (payload : Payload) :
    outcome = .unwound payload ↔ answer = .unwound payload ∧ plain = .error payload := by
  cases h with
  | value returned => simp [returned]
  | missing returned => simp [returned]
  | unwound unwound => simp [unwound]

theorem exists_missing (h : Concur outcome plain answer) {cause : Trail}
    (hfailed : answer = .failed cause) : ∃ key, cause = .missingResult key := by
  cases h with
  | missing returned =>
      cases hfailed
      exact ⟨_, rfl⟩
  | value returned => cases hfailed
  | unwound unwound => cases hfailed

end Concur

/-! ## Both wrappers -/

/--
Wrapped as a plain function and as one that never fails, a function is called alike: the same handlers
run in the same order, and the world after the call, with its pools, is the same.  If the call leaves no
error in its frame, the wrappers agree on the value; the one answers that a result is missing if and
only if the call returned and the other unwinds with that report; and a call that unwinds unwinds both.
-/
theorem wrap_fallible_agrees (handle : Handle H U) (registry : RegistryId) (key : Key) (kind : Kind)
    (function : PlainFunction H U) (args : List Value) (world : World H U) :
    let run := invoke handle registry key args .never (function.target args) world
    let plain := function.wrap handle registry key kind args world
    let answer := function.fallible.wrap handle registry key kind args world
    invoke handle registry key args .never (function.fallible.target args) world = run ∧
    answer.2 = plain.2 ∧
    ((∀ last, run.outcome = .returned last → last.error = none) →
      (∀ value, answer.1 = .value value ↔ plain.1 = .ok value) ∧
      (∀ missing, answer.1 = .failed (.missingResult missing) ↔
        (∃ last, run.outcome = .returned last) ∧ plain.1 = .error (.missingResult missing)) ∧
      (∀ payload, run.outcome = .unwound payload ↔
        answer.1 = .unwound payload ∧ plain.1 = .error payload) ∧
      (∀ cause, answer.1 = .failed cause → ∃ missing, cause = .missingResult missing)) := by
  intro run plain answer
  have hrun : invoke handle registry key args .never (function.fallible.target args) world = run := by
    rw [function.target_fallible]
  have hanswer : answer = FallibleFunction.settle registry kind run := by
    rw [← hrun]
    rfl
  refine ⟨hrun, ?_, fun hclean => ?_⟩
  · rw [hanswer]
    exact settle_snd registry kind run
  · rw [hanswer]
    have hconcur := concur_settle registry kind hclean
    exact ⟨hconcur.value_iff, hconcur.missing_iff, hconcur.unwound_iff,
      fun cause => hconcur.exists_missing⟩

theorem skipped_function_is_missing_in_both :
    let world : World Habit Unit := .single ⟨"f"⟩
      ⟨[⟨.around, 0, "skip", ⟨(·.setSkipped true), .done⟩⟩,
        ⟨.afterReturning, 0, "count", ⟨id, .failed (.message "full")⟩⟩,
        ⟨.after, 0, "report", ⟨id, .unwound (.ofText "offline")⟩⟩]⟩
    let sum : PlainFunction Habit Unit := fun _ world => (.ok (.int32 7), world)
    let run := invoke Habit.handle 0 ⟨"f"⟩ [.unit] .never (sum.target [.unit]) world
    let plain := sum.wrap Habit.handle 0 ⟨"f"⟩ .int32 [.unit] world
    let answer := sum.fallible.wrap Habit.handle 0 ⟨"f"⟩ .int32 [.unit] world
    (∀ last, run.outcome = .returned last → last.error = none) ∧
      answer.1 = .failed (.missingResult ⟨"f"⟩) ∧ plain.1 = .error (.missingResult ⟨"f"⟩) := by
  intro world sum run plain answer
  have hclean : ∀ last, run.outcome = .returned last → last.error = none := by
    have houtcome : run.outcome =
        .returned { Frame.new ⟨"f"⟩ [.unit] .never with skipped := true } := by
      unfold run world
      decide +kernel
    intro last hlast
    rw [houtcome] at hlast
    cases hlast
    rfl
  have hanswer : answer.1 = .failed (.missingResult ⟨"f"⟩) := by
    unfold answer world
    decide +kernel
  obtain ⟨-, hmissing, -, -⟩ :=
    (wrap_fallible_agrees Habit.handle 0 ⟨"f"⟩ .int32 sum [.unit] world).2.2 hclean
  exact ⟨hclean, hanswer, ((hmissing ⟨"f"⟩).mp hanswer).2⟩

/-- A function without advice that calls another whose result is missing: that report comes from the
call of the outer function, and both its wrappers unwind with it. -/
theorem nested_missing_result_unwinds_both :
    let world : World Habit Unit := .single ⟨"f"⟩
      ⟨[⟨.around, 0, "skip", ⟨(·.setSkipped true), .done⟩⟩]⟩
    let inner : PlainFunction Habit Unit :=
      PlainFunction.wrap Habit.handle 0 ⟨"f"⟩ .int32 fun _ world => (.ok (.int32 7), world)
    let run := invoke Habit.handle 0 ⟨"g"⟩ [] .never (inner.target []) world
    let plain := inner.wrap Habit.handle 0 ⟨"g"⟩ .int32 [] world
    let answer := inner.fallible.wrap Habit.handle 0 ⟨"g"⟩ .int32 [] world
    (∀ last, run.outcome = .returned last → last.error = none) ∧
      ¬(answer.1 = .failed (.missingResult ⟨"f"⟩) ↔ plain.1 = .error (.missingResult ⟨"f"⟩)) := by
  intro world inner run plain answer
  have houtcome : run.outcome = .unwound (.missingResult ⟨"f"⟩) := by
    unfold run inner world
    decide +kernel
  have hplain : plain = (.error (.missingResult ⟨"f"⟩), run.world) :=
    PlainFunction.settle_of_unwound houtcome
  have hanswer : answer.1 = .unwound (.missingResult ⟨"f"⟩) := by
    unfold answer inner world
    decide +kernel
  refine ⟨fun last hlast => ?_, fun hboth => ?_⟩
  · rw [houtcome] at hlast
    cases hlast
  · rw [hboth.mpr (congrArg Prod.fst hplain)] at hanswer
    cases hanswer

end Intercept
