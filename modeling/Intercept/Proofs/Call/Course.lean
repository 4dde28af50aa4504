import Intercept.Proofs.Call.Single
import Intercept.Proofs.Call.Stages

/-!
# The courses of a call

A call under advice takes one of five courses.  A gatekeeper holds it, at Before or at Around; or its
target is skipped, returns or throws.  `Course.Fits` says which stages a course has and on what
conditions, read off what the stages before left; `Course.sequences` lists the steps alone.
-/

namespace Intercept

variable {H U : Type}

/-! ## Courses -/

inductive Course where
  | heldBefore
  | heldAround
  | skipped
  | returned
  | threw
  deriving DecidableEq, Repr

namespace Course

def sequences : Course → List (List Mark)
  | .heldBefore => [[.phase .before, .phase .afterThrowing, .phase .after]]
  | .heldAround => [[.phase .before, .phase .around, .phase .afterThrowing, .phase .after]]
  | .skipped =>
      [[.phase .before, .phase .around, .phase .after],
        [.phase .before, .phase .around, .phase .afterReturning, .phase .after]]
  | .returned =>
      [[.phase .before, .target, .phase .after],
        [.phase .before, .target, .phase .afterReturning, .phase .after],
        [.phase .before, .phase .around, .target, .phase .after],
        [.phase .before, .phase .around, .target, .phase .afterReturning, .phase .after]]
  | .threw =>
      [[.phase .before, .target, .phase .afterThrowing, .phase .after],
        [.phase .before, .phase .around, .target, .phase .afterThrowing, .phase .after]]

/-- AfterReturning runs on a frame without error and payload, and on no other. -/
inductive Returning : Frame → List (Stage H U) → Prop
  | ran {left : Frame} {world : World H U} {run : PhaseRun H U}
      (clean : left.error = none ∧ left.payload = none) :
      Returning left [.phase .afterReturning left world run]
  | omitted {left : Frame} (marred : ¬(left.error = none ∧ left.payload = none)) :
      Returning left []

/-- The stages that let a call through to its target, and the frame that the target finds. -/
inductive Passing (chain : ChainId) : List (Stage H U) → Frame → Prop
  | direct {frame : Frame} {world : World H U} {before : PhaseRun H U}
      (passed : before.ending = .passed)
      (bare : (before.world.chain chain).bucket .around = []) :
      Passing chain [.phase .before frame world before] before.frame
  | around {frame : Frame} {world : World H U} {before around : PhaseRun H U}
      (passed : before.ending = .passed)
      (advised : (before.world.chain chain).bucket .around ≠ [])
      (passed' : around.ending = .passed)
      (unskipped : around.frame.skipped = false) :
      Passing chain
        [.phase .before frame world before, .phase .around before.frame before.world around]
        around.frame

/-- The stages of a whole call on the course. -/
inductive Fits (chain : ChainId) : Course → List (Stage H U) → Prop
  | heldBefore {frame thrown : Frame} {world world' : World H U}
      {before throwing after : PhaseRun H U}
      (held : before.ending ≠ .passed) :
      Fits chain .heldBefore
        [.phase .before frame world before, .phase .afterThrowing thrown world' throwing,
          .phase .after throwing.frame throwing.world after]
  | heldAround {frame thrown : Frame} {world world' : World H U}
      {before around throwing after : PhaseRun H U}
      (passed : before.ending = .passed)
      (advised : (before.world.chain chain).bucket .around ≠ [])
      (held : around.ending ≠ .passed) :
      Fits chain .heldAround
        [.phase .before frame world before, .phase .around before.frame before.world around,
          .phase .afterThrowing thrown world' throwing,
          .phase .after throwing.frame throwing.world after]
  | skipped {frame last : Frame} {world world' : World H U} {before around after : PhaseRun H U}
      {returning : List (Stage H U)}
      (passed : before.ending = .passed)
      (advised : (before.world.chain chain).bucket .around ≠ [])
      (passed' : around.ending = .passed)
      (skipped : around.frame.skipped = true)
      (hreturning : Returning around.frame returning) :
      Fits chain .skipped
        ([.phase .before frame world before, .phase .around before.frame before.world around] ++
          returning ++ [.phase .after last world' after])
  | returned {gates returning : List (Stage H U)} {frame last : Frame} {world world' : World H U}
      {landing : Landing H U} {after : PhaseRun H U}
      (hgates : Passing chain gates frame)
      (landed : landing.payload = none)
      (hreturning : Returning landing.frame returning) :
      Fits chain .returned
        (gates ++ [.target frame world landing] ++ returning ++ [.phase .after last world' after])
  | threw {gates : List (Stage H U)} {frame thrown : Frame} {world world' : World H U}
      {landing : Landing H U} {throwing after : PhaseRun H U} {payload : Payload}
      (hgates : Passing chain gates frame)
      (hthrown : landing.payload = some payload) :
      Fits chain .threw
        (gates ++ [.target frame world landing, .phase .afterThrowing thrown world' throwing,
          .phase .after throwing.frame throwing.world after])

/-! ## Steps of the courses -/

theorem Fits.mem_sequences {chain : ChainId} {course : Course} {stages : List (Stage H U)}
    (h : course.Fits chain stages) : stages.map Stage.mark ∈ course.sequences := by
  cases h with
  | heldBefore held => simp [Stage.mark, sequences]
  | heldAround passed advised held => simp [Stage.mark, sequences]
  | skipped passed advised passed' skipped hreturning =>
      cases hreturning <;> simp [Stage.mark, sequences]
  | returned hgates landed hreturning =>
      cases hgates <;> cases hreturning <;> simp [Stage.mark, sequences]
  | threw hgates hthrown => cases hgates <;> simp [Stage.mark, sequences]

theorem eq_of_mem_sequences {course other : Course} {marks : List Mark}
    (h : marks ∈ course.sequences) (h' : marks ∈ other.sequences) : course = other := by
  have hall : ∀ m ∈ course.sequences, m ∈ other.sequences → course = other := by
    cases course <;> cases other <;> decide
  exact hall marks h h'

theorem Passing.ending_of_mem {chain : ChainId} {gates : List (Stage H U)} {left : Frame}
    (h : Passing chain gates left) {phase : Phase} {frame : Frame} {world : World H U}
    {run : PhaseRun H U} (hmem : .phase phase frame world run ∈ gates) :
    run.ending = .passed := by
  cases h with
  | direct passed bare =>
      rw [List.mem_singleton] at hmem
      cases hmem
      exact passed
  | around passed advised passed' unskipped =>
      rw [List.mem_cons, List.mem_singleton] at hmem
      rcases hmem with hbefore | haround
      · cases hbefore
        exact passed
      · cases haround
        exact passed'

theorem Fits.target_not_mem {chain : ChainId} {course : Course} {stages : List (Stage H U)}
    (h : course.Fits chain stages) {phase : Phase} {frame : Frame} {world : World H U}
    {run : PhaseRun H U} (hmem : .phase phase frame world run ∈ stages)
    (hgate : phase.isGatekeeper = true) (held : run.ending ≠ .passed) :
    .target ∉ stages.map Stage.mark := by
  cases h with
  | heldBefore hheld => simp [Stage.mark]
  | heldAround passed advised hheld => simp [Stage.mark]
  | skipped passed advised passed' skipped hreturning =>
      cases hreturning <;> simp [Stage.mark]
  | returned hgates landed hreturning =>
      exfalso
      simp only [List.mem_append, List.mem_singleton, reduceCtorEq, or_false] at hmem
      rcases hmem with (hfirst | hthen) | hlast
      · exact held (hgates.ending_of_mem hfirst)
      · cases hreturning with
        | ran clean =>
            rw [List.mem_singleton] at hthen
            cases hthen
            cases hgate
        | omitted marred => cases hthen
      · cases hlast
        cases hgate
  | threw hgates hthrown =>
      exfalso
      simp only [List.mem_append, List.mem_cons, reduceCtorEq, false_or, List.not_mem_nil,
        or_false] at hmem
      rcases hmem with hfirst | hthrowing | hlast
      · exact held (hgates.ending_of_mem hfirst)
      · cases hthrowing
        cases hgate
      · cases hlast
        cases hgate

theorem Passing.around_mem {chain : ChainId} {gates : List (Stage H U)} {left frame : Frame}
    (h : Passing chain gates left) {found : World H U} {before : PhaseRun H U}
    (hmem : .phase .before frame found before ∈ gates)
    (hadvised : (before.world.chain chain).bucket .around ≠ []) :
    ∃ around, .phase .around before.frame before.world around ∈ gates := by
  cases h with
  | direct passed bare =>
      rw [List.mem_singleton] at hmem
      cases hmem
      exact absurd bare hadvised
  | @around _ _ _ around passed advised passed' unskipped =>
      simp only [List.mem_cons, List.not_mem_nil, or_false] at hmem
      rcases hmem with hfirst | hthen
      · cases hfirst
        exact ⟨around, List.mem_cons_of_mem _ (List.mem_singleton_self _)⟩
      · cases hthen

theorem Fits.around_mem {chain : ChainId} {course : Course} {stages : List (Stage H U)}
    (h : course.Fits chain stages) {frame : Frame} {found : World H U} {before : PhaseRun H U}
    (hmem : .phase .before frame found before ∈ stages) (passed : before.ending = .passed)
    (hadvised : (before.world.chain chain).bucket .around ≠ []) :
    ∃ around, .phase .around before.frame before.world around ∈ stages := by
  cases h with
  | heldBefore held =>
      simp only [List.mem_cons, Stage.phase.injEq, reduceCtorEq, false_and, List.not_mem_nil,
        or_false, true_and] at hmem
      rw [hmem.2.2] at passed
      exact absurd passed held
  | @heldAround _ _ _ _ _ around _ _ passed' advised held =>
      simp only [List.mem_cons, Stage.phase.injEq, reduceCtorEq, false_and, List.not_mem_nil,
        or_false, true_and] at hmem
      rw [hmem.2.2]
      exact ⟨around, by simp⟩
  | @skipped _ _ _ _ first around _ returning passed' advised passed'' skipped hreturning =>
      have hsame : before = first := by
        cases hreturning with
        | ran clean =>
            simp at hmem
            exact hmem.2.2
        | omitted marred =>
            simp at hmem
            exact hmem.2.2
      rw [hsame]
      exact ⟨around, by simp⟩
  | @returned gates returning _ _ _ _ _ _ hgates landed hreturning =>
      have hgate : .phase .before frame found before ∈ gates := by
        cases hreturning with
        | ran clean => simpa using hmem
        | omitted marred => simpa using hmem
      obtain ⟨around, haround⟩ := hgates.around_mem hgate hadvised
      refine ⟨around, ?_⟩
      simp only [List.append_assoc]
      exact List.mem_append_left _ haround
  | threw hgates hthrown =>
      obtain ⟨around, haround⟩ := hgates.around_mem (by simpa using hmem) hadvised
      exact ⟨around, List.mem_append_left _ haround⟩

structure Orderly (marks : List Mark) : Prop where
  after_last : marks.getLast? = some (.phase .after)
  after_once : marks.count (.phase .after) = 1
  target_once : marks.count .target ≤ 1
  target_gated : .target ∈ marks →
    marks.takeWhile (· ≠ .target) = [.phase .before] ∨
      marks.takeWhile (· ≠ .target) = [.phase .before, .phase .around]
  returning_or_throwing : ¬(.phase .afterReturning ∈ marks ∧ .phase .afterThrowing ∈ marks)

theorem orderly_of_mem_sequences {course : Course} {marks : List Mark}
    (h : marks ∈ course.sequences) : Orderly marks := by
  -- Each course has few sequences, and each property is decided on all of them.
  have hlast : ∀ m ∈ course.sequences, m.getLast? = some (.phase .after) := by
    cases course <;> decide
  have honce : ∀ m ∈ course.sequences, m.count (.phase .after) = 1 := by
    cases course <;> decide
  have htarget : ∀ m ∈ course.sequences, m.count .target ≤ 1 := by
    cases course <;> decide
  have hgated : ∀ m ∈ course.sequences, .target ∈ m →
      m.takeWhile (· ≠ .target) = [.phase .before] ∨
        m.takeWhile (· ≠ .target) = [.phase .before, .phase .around] := by
    cases course <;> decide
  have hways : ∀ m ∈ course.sequences,
      ¬(.phase .afterReturning ∈ m ∧ .phase .afterThrowing ∈ m) := by
    cases course <;> decide
  exact ⟨hlast marks h, honce marks h, htarget marks h, hgated marks h, hways marks h⟩

end Course

/-! ## The course of a run -/

private theorem exists_returning (handle : Handle H U) (chain : ChainId)
    (progress : Progress H U) :
    ∃ returning, Course.Returning progress.frame returning ∧
      (progress.watchReturn handle chain).stages = progress.stages ++ returning := by
  cases h : progress.frame.isClean with
  | true =>
      rw [Progress.watchReturn, if_pos h]
      exact ⟨_, .ran (progress.frame.isClean_iff.mp h), Progress.stages_watch ..⟩
  | false =>
      have hmarred : ¬(progress.frame.error = none ∧ progress.frame.payload = none) := by
        rw [← progress.frame.isClean_iff, h]
        exact Bool.false_ne_true
      rw [Progress.watchReturn, h, if_neg Bool.false_ne_true]
      exact ⟨[], .omitted hmarred, (List.append_nil _).symm⟩

private theorem exists_passing {handle : Handle H U} {chain : ChainId} {frame : Frame}
    {world : World H U} {gates : Progress H U}
    (h : Reaches handle chain ⟨[], frame, world⟩ gates) :
    Course.Passing chain gates.stages gates.frame := by
  cases h with
  | direct hbefore passed bare => exact .direct passed bare
  | around hentered passed unskipped =>
      exact .around hentered.passed hentered.advised passed unskipped

theorem exists_fits (handle : Handle H U) (chain : ChainId) (key : Key) (target : Target H U)
    (frame : Frame) (world : World H U) :
    ∃ course : Course,
      course.Fits chain (runAdvised handle chain key target frame world).stages := by
  have hguard := guarded_runGuarded handle chain target ⟨[], frame, world⟩
  generalize hrun : runGuarded handle chain target ⟨[], frame, world⟩ = result at hguard
  cases hguard with
  | heldBefore hbefore held =>
      obtain ⟨payload, hraised⟩ := PhaseRun.exists_raised held .before
      rw [runAdvised_of_raised key hrun hraised, unwind_eq]
      simp only [Progress.throwWith, Progress.stages_watch, Progress.stages_raise,
        Progress.stages_announce, Progress.stages_pass]
      exact ⟨.heldBefore, .heldBefore held⟩
  | heldAround hentered held =>
      obtain ⟨payload, hraised⟩ := PhaseRun.exists_raised held .around
      rw [runAdvised_of_raised key hrun hraised, unwind_eq]
      simp only [Progress.throwWith, Progress.stages_watch, Progress.stages_raise,
        Progress.stages_announce, Progress.stages_pass]
      exact ⟨.heldAround, .heldAround hentered.passed hentered.advised held⟩
  | @skipped before around hentered passed skipped =>
      obtain ⟨returning, hreturning, hstages⟩ := exists_returning handle chain
        ((((⟨[], frame, world⟩ : Progress H U).pass .before before).pass .around around).record
          (.targetSkipped around.frame.function))
      rw [runAdvised_of_completed key hrun]
      simp only [finish, Progress.stages_watch, hstages]
      exact ⟨.skipped, .skipped hentered.passed hentered.advised passed skipped hreturning⟩
  | @returned gates landing hgates hlanding landed =>
      obtain ⟨returning, hreturning, hstages⟩ :=
        exists_returning handle chain (gates.arrive landing)
      rw [runAdvised_of_completed key hrun]
      simp only [finish, Progress.stages_watch, hstages]
      exact ⟨.returned, .returned (exists_passing hgates) landed hreturning⟩
  | @threw gates landing payload hgates hlanding thrown =>
      rw [runAdvised_of_raised key hrun rfl, unwind_eq]
      simp only [Progress.throwWith, Progress.stages_watch, Progress.stages_raise,
        Progress.stages_announce, Progress.stages_arrive, List.append_assoc]
      exact ⟨.threw, .threw (exists_passing hgates) thrown⟩

/--
Every call of a registered key takes exactly one course, each stage of it is genuine, and its steps
are in order.  A gatekeeper that did not pass leaves the target untouched.
-/
theorem invoke_takes_one_course {world : World H U} {registry : RegistryId} {key : Key}
    {chain : ChainId} (h : world.lookup registry key = .ok chain) (handle : Handle H U)
    (args : List Value) (signal : Signal) (target : Target H U) :
    let run := invoke handle registry key args signal target world
    (∃ course : Course, course.Fits chain run.stages ∧
      ∀ other : Course, other.Fits chain run.stages → other = course) ∧
      (∀ stage ∈ run.stages, stage.Genuine handle chain target) ∧
      Course.Orderly (run.stages.map Stage.mark) ∧
      (∀ phase frame world' held, .phase phase frame world' held ∈ run.stages →
        phase.isGatekeeper = true → held.ending ≠ .passed →
        .target ∉ run.stages.map Stage.mark) := by
  rw [invoke_of_lookup h]
  intro run
  obtain ⟨course, hfits⟩ := exists_fits handle chain key target (.new key args signal)
    (world.acquire registry key args signal).2
  refine ⟨⟨course, hfits, ?_⟩, ?_, Course.orderly_of_mem_sequences hfits.mem_sequences, ?_⟩
  · intro other hother
    exact Course.eq_of_mem_sequences hother.mem_sequences hfits.mem_sequences
  · exact genuine_runAdvised handle chain key target _ _
  · intro phase frame world' held hmem hgate hheld
    exact hfits.target_not_mem hmem hgate hheld

theorem turned_down_call_takes_one_course :
    let world : World Habit Unit := .single ⟨"f"⟩
      ⟨[⟨.before, 0, "audit", ⟨id, .done⟩⟩,
        ⟨.around, 0, "quota", ⟨id, .failed (.message "spent")⟩⟩]⟩
    let run := invoke Habit.handle 0 ⟨"f"⟩ [] .never (.ofResult 0 .unit) world
    world.lookup 0 ⟨"f"⟩ = .ok 0 ∧
      (∃ course : Course, course.Fits 0 run.stages ∧
        ∀ other : Course, other.Fits 0 run.stages → other = course) ∧
      (∀ stage ∈ run.stages, stage.Genuine Habit.handle 0 (.ofResult 0 .unit)) ∧
      Course.Orderly (run.stages.map Stage.mark) ∧
      (∀ phase frame world' held, .phase phase frame world' held ∈ run.stages →
        phase.isGatekeeper = true → held.ending ≠ .passed →
        .target ∉ run.stages.map Stage.mark) := by
  intro world run
  have hlookup : world.lookup 0 ⟨"f"⟩ = .ok 0 := World.lookup_single (by decide) _
  exact ⟨hlookup, invoke_takes_one_course hlookup Habit.handle [] .never (.ofResult 0 .unit)⟩

end Intercept
