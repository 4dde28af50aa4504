import Intercept.Call

/-!
# The guarded part of a call

Up to the target and AfterReturning a call runs under guard: what unwinds there is caught and becomes
a verdict.  A verdict other than `completed` raises a payload, which AfterThrowing and After find in
the frame.  There are five ways through the guarded part; `guarded_runGuarded` names them and says
which stages each leaves behind.
-/

namespace Intercept

variable {H U : Type}

/-! ## Verdicts -/

def Verdict.raised? : Verdict → Option Payload
  | .completed => none
  | .vetoed veto => some (.veto veto)
  | .unwound payload => some payload

theorem Verdict.raised?_eq_none_iff {verdict : Verdict} :
    verdict.raised? = none ↔ verdict = .completed := by
  cases verdict <;> simp [raised?]

def PhaseRun.verdict (phase : Phase) (run : PhaseRun H U) : Verdict :=
  match run.ending with
  | .passed => .completed
  | .stopped stop => .vetoed ⟨run.frame.function, phase, stop⟩
  | .unwound payload => .unwound payload

theorem PhaseRun.verdict_of_passed {run : PhaseRun H U} (h : run.ending = .passed)
    (phase : Phase) : run.verdict phase = .completed := by
  rw [verdict, h]

theorem PhaseRun.verdict_ne_completed {run : PhaseRun H U} (h : run.ending ≠ .passed)
    (phase : Phase) : run.verdict phase ≠ .completed := by
  cases hending : run.ending with
  | passed => exact absurd hending h
  | stopped stop => simp [verdict, hending]
  | unwound payload => simp [verdict, hending]

theorem PhaseRun.exists_raised {run : PhaseRun H U} (h : run.ending ≠ .passed) (phase : Phase) :
    ∃ payload, (run.verdict phase).raised? = some payload := by
  cases hraised : (run.verdict phase).raised? with
  | none => exact absurd (Verdict.raised?_eq_none_iff.mp hraised) (run.verdict_ne_completed h phase)
  | some payload => exact ⟨payload, rfl⟩

theorem runGate_eq (handle : Handle H U) (chain : ChainId) (phase : Phase)
    (progress : Progress H U) :
    runGate handle chain phase progress =
      ((runPhase handle chain phase progress.frame progress.world).verdict phase,
        progress.pass phase (runPhase handle chain phase progress.frame progress.world)) := rfl

/-! ## Progress -/

namespace Progress

def arrive (landing : Landing H U) (progress : Progress H U) : Progress H U :=
  ⟨progress.stages ++ [.target progress.frame progress.world landing],
    landing.frame, landing.world⟩

theorem land_eq (target : Target H U) (progress : Progress H U) :
    progress.land target =
      ((target progress.frame progress.world).payload,
        progress.arrive (target progress.frame progress.world)) := rfl

def All (P : Stage H U → Prop) (progress : Progress H U) : Prop :=
  ∀ stage ∈ progress.stages, P stage

theorem all_nil (P : Stage H U → Prop) (frame : Frame) (world : World H U) :
    All P ⟨[], frame, world⟩ := by
  intro stage hmem
  cases hmem

theorem All.snoc {P : Stage H U → Prop} {progress next : Progress H U} {stage : Stage H U}
    (h : progress.All P) (hstages : next.stages = progress.stages ++ [stage]) (hstage : P stage) :
    next.All P := by
  intro other hmem
  rw [hstages, List.mem_append, List.mem_singleton] at hmem
  rcases hmem with hold | rfl
  · exact h other hold
  · exact hstage

@[simp] theorem stages_record (progress : Progress H U) (event : Event) :
    (progress.record event).stages = progress.stages := rfl

@[simp] theorem frame_record (progress : Progress H U) (event : Event) :
    (progress.record event).frame = progress.frame := rfl

@[simp] theorem stages_pass (progress : Progress H U) (phase : Phase) (run : PhaseRun H U) :
    (progress.pass phase run).stages =
      progress.stages ++ [.phase phase progress.frame progress.world run] := rfl

@[simp] theorem frame_pass (progress : Progress H U) (phase : Phase) (run : PhaseRun H U) :
    (progress.pass phase run).frame = run.frame := rfl

@[simp] theorem world_pass (progress : Progress H U) (phase : Phase) (run : PhaseRun H U) :
    (progress.pass phase run).world = run.world := rfl

@[simp] theorem stages_arrive (progress : Progress H U) (landing : Landing H U) :
    (progress.arrive landing).stages =
      progress.stages ++ [.target progress.frame progress.world landing] := rfl

@[simp] theorem frame_arrive (progress : Progress H U) (landing : Landing H U) :
    (progress.arrive landing).frame = landing.frame := rfl

end Progress

/-! ## The ways through -/

/-- Before passed and left Around advice to run, which comes to `around`. -/
structure Entered (handle : Handle H U) (chain : ChainId) (start : Progress H U)
    (before around : PhaseRun H U) : Prop where
  hbefore : runPhase handle chain .before start.frame start.world = before
  passed : before.ending = .passed
  advised : (before.world.chain chain).bucket .around ≠ []
  haround : runPhase handle chain .around before.frame before.world = around

/-- `Reaches handle chain start gates`: the gatekeepers let the call through to its target, and
`gates` is where it is then. -/
inductive Reaches (handle : Handle H U) (chain : ChainId) (start : Progress H U) :
    Progress H U → Prop
  | direct {before : PhaseRun H U}
      (hbefore : runPhase handle chain .before start.frame start.world = before)
      (passed : before.ending = .passed)
      (bare : (before.world.chain chain).bucket .around = []) :
      Reaches handle chain start (start.pass .before before)
  | around {before around : PhaseRun H U}
      (hentered : Entered handle chain start before around)
      (passed : around.ending = .passed)
      (unskipped : around.frame.skipped = false) :
      Reaches handle chain start ((start.pass .before before).pass .around around)

inductive Guarded (handle : Handle H U) (chain : ChainId) (target : Target H U)
    (start : Progress H U) : Verdict × Progress H U → Prop
  | heldBefore {before : PhaseRun H U}
      (hbefore : runPhase handle chain .before start.frame start.world = before)
      (held : before.ending ≠ .passed) :
      Guarded handle chain target start (before.verdict .before, start.pass .before before)
  | heldAround {before around : PhaseRun H U}
      (hentered : Entered handle chain start before around)
      (held : around.ending ≠ .passed) :
      Guarded handle chain target start
        (around.verdict .around, (start.pass .before before).pass .around around)
  | skipped {before around : PhaseRun H U}
      (hentered : Entered handle chain start before around)
      (passed : around.ending = .passed)
      (skipped : around.frame.skipped = true) :
      Guarded handle chain target start
        (.completed, (((start.pass .before before).pass .around around).record
          (.targetSkipped around.frame.function)).watchReturn handle chain)
  | returned {gates : Progress H U} {landing : Landing H U}
      (hgates : Reaches handle chain start gates)
      (hlanding : target gates.frame gates.world = landing)
      (landed : landing.payload = none) :
      Guarded handle chain target start
        (.completed, (gates.arrive landing).watchReturn handle chain)
  | threw {gates : Progress H U} {landing : Landing H U} {payload : Payload}
      (hgates : Reaches handle chain start gates)
      (hlanding : target gates.frame gates.world = landing)
      (thrown : landing.payload = some payload) :
      Guarded handle chain target start (.unwound payload, gates.arrive landing)

/-! ## Every call takes one of them -/

private theorem runGuarded_of_held {handle : Handle H U} {chain : ChainId} {start : Progress H U}
    {before : PhaseRun H U} (target : Target H U)
    (hbefore : runPhase handle chain .before start.frame start.world = before)
    (held : before.ending ≠ .passed) :
    runGuarded handle chain target start =
      (before.verdict .before, start.pass .before before) := by
  have hverdict := PhaseRun.verdict_ne_completed held .before
  rw [runGuarded, runGate_eq, hbefore]
  cases h : before.verdict .before with
  | completed => exact absurd h hverdict
  | vetoed veto => rfl
  | unwound payload => rfl

private theorem runGuarded_of_bare {handle : Handle H U} {chain : ChainId} {start : Progress H U}
    {before : PhaseRun H U} (target : Target H U)
    (hbefore : runPhase handle chain .before start.frame start.world = before)
    (passed : before.ending = .passed)
    (bare : (before.world.chain chain).bucket .around = []) :
    runGuarded handle chain target start =
      runTarget handle chain target (start.pass .before before) := by
  rw [runGuarded, runGate_eq, hbefore, PhaseRun.verdict_of_passed passed]
  exact if_pos (List.isEmpty_iff.mpr bare)

private theorem Entered.runGuarded_eq {handle : Handle H U} {chain : ChainId}
    {start : Progress H U} {before around : PhaseRun H U}
    (h : Entered handle chain start before around) (target : Target H U) :
    runGuarded handle chain target start =
      match (around.verdict .around, (start.pass .before before).pass .around around) with
      | (.completed, progress) => runUnlessSkipped handle chain target progress
      | stopped => stopped := by
  have hnonempty : ¬((before.world.chain chain).bucket .around).isEmpty = true :=
    fun hempty => h.advised (List.isEmpty_iff.mp hempty)
  have hgate : runGate handle chain .around (start.pass .before before) =
      (around.verdict .around, (start.pass .before before).pass .around around) := by
    rw [runGate_eq, Progress.frame_pass, Progress.world_pass, h.haround]
  rw [runGuarded, runGate_eq, h.hbefore, PhaseRun.verdict_of_passed h.passed, ← hgate]
  exact if_neg hnonempty

private theorem Entered.runGuarded_of_held {handle : Handle H U} {chain : ChainId}
    {start : Progress H U} {before around : PhaseRun H U}
    (h : Entered handle chain start before around) (target : Target H U)
    (held : around.ending ≠ .passed) :
    runGuarded handle chain target start =
      (around.verdict .around, (start.pass .before before).pass .around around) := by
  have hverdict := PhaseRun.verdict_ne_completed held .around
  rw [h.runGuarded_eq target]
  cases h : around.verdict .around with
  | completed => exact absurd h hverdict
  | vetoed veto => rfl
  | unwound payload => rfl

private theorem Entered.runGuarded_of_passed {handle : Handle H U} {chain : ChainId}
    {start : Progress H U} {before around : PhaseRun H U}
    (h : Entered handle chain start before around) (target : Target H U)
    (passed : around.ending = .passed) :
    runGuarded handle chain target start =
      runUnlessSkipped handle chain target ((start.pass .before before).pass .around around) := by
  rw [h.runGuarded_eq target, PhaseRun.verdict_of_passed passed]

private theorem runTarget_of_landed {handle : Handle H U} {chain : ChainId}
    {target : Target H U} {gates : Progress H U} {landing : Landing H U}
    (hlanding : target gates.frame gates.world = landing) (landed : landing.payload = none) :
    runTarget handle chain target gates =
      (.completed, (gates.arrive landing).watchReturn handle chain) := by
  rw [runTarget, Progress.land_eq, hlanding, landed]

private theorem runTarget_of_thrown {handle : Handle H U} {chain : ChainId}
    {target : Target H U} {gates : Progress H U} {landing : Landing H U} {payload : Payload}
    (hlanding : target gates.frame gates.world = landing) (thrown : landing.payload = some payload) :
    runTarget handle chain target gates = (.unwound payload, gates.arrive landing) := by
  rw [runTarget, Progress.land_eq, hlanding, thrown]

private theorem guarded_runTarget {handle : Handle H U} {chain : ChainId}
    {start gates : Progress H U} (target : Target H U) (hgates : Reaches handle chain start gates) :
    Guarded handle chain target start (runTarget handle chain target gates) := by
  generalize hlanding : target gates.frame gates.world = landing
  cases hpayload : landing.payload with
  | none =>
      rw [runTarget_of_landed hlanding hpayload]
      exact .returned hgates hlanding hpayload
  | some payload =>
      rw [runTarget_of_thrown hlanding hpayload]
      exact .threw hgates hlanding hpayload

private theorem runUnlessSkipped_of_skipped {handle : Handle H U} {chain : ChainId}
    {progress : Progress H U} (target : Target H U) (skipped : progress.frame.skipped = true) :
    runUnlessSkipped handle chain target progress =
      (.completed, (progress.record
        (.targetSkipped progress.frame.function)).watchReturn handle chain) :=
  if_pos skipped

private theorem runUnlessSkipped_of_unskipped {handle : Handle H U} {chain : ChainId}
    {progress : Progress H U} (target : Target H U) (unskipped : progress.frame.skipped = false) :
    runUnlessSkipped handle chain target progress = runTarget handle chain target progress :=
  if_neg (Bool.eq_false_iff.mp unskipped)

private theorem guarded_runUnlessSkipped {handle : Handle H U} {chain : ChainId}
    {start : Progress H U} {before around : PhaseRun H U} (target : Target H U)
    (hentered : Entered handle chain start before around) (passed : around.ending = .passed) :
    Guarded handle chain target start
      (runUnlessSkipped handle chain target ((start.pass .before before).pass .around around)) := by
  cases hskipped : around.frame.skipped with
  | true =>
      rw [runUnlessSkipped_of_skipped target hskipped]
      exact .skipped hentered passed hskipped
  | false =>
      rw [runUnlessSkipped_of_unskipped target hskipped]
      exact guarded_runTarget target (.around hentered passed hskipped)

theorem guarded_runGuarded (handle : Handle H U) (chain : ChainId) (target : Target H U)
    (start : Progress H U) :
    Guarded handle chain target start (runGuarded handle chain target start) := by
  generalize hbefore : runPhase handle chain .before start.frame start.world = before
  by_cases passed : before.ending = .passed
  · by_cases bare : (before.world.chain chain).bucket .around = []
    · rw [runGuarded_of_bare target hbefore passed bare]
      exact guarded_runTarget target (.direct hbefore passed bare)
    · generalize haround : runPhase handle chain .around before.frame before.world = around
      have hentered : Entered handle chain start before around := ⟨hbefore, passed, bare, haround⟩
      by_cases passed' : around.ending = .passed
      · rw [hentered.runGuarded_of_passed target passed']
        exact guarded_runUnlessSkipped target hentered passed'
      · rw [hentered.runGuarded_of_held target passed']
        exact .heldAround hentered passed'
  · rw [runGuarded_of_held target hbefore passed]
    exact .heldBefore hbefore passed

private theorem Reaches.runGuarded_eq {handle : Handle H U} {chain : ChainId}
    {start gates : Progress H U} (h : Reaches handle chain start gates) (target : Target H U) :
    runGuarded handle chain target start = runTarget handle chain target gates := by
  cases h with
  | direct hbefore passed bare => exact runGuarded_of_bare target hbefore passed bare
  | around hentered passed unskipped =>
      rw [hentered.runGuarded_of_passed target passed]
      exact runUnlessSkipped_of_unskipped target unskipped

theorem Guarded.eq {handle : Handle H U} {chain : ChainId} {target : Target H U}
    {start : Progress H U} {result : Verdict × Progress H U}
    (h : Guarded handle chain target start result) :
    runGuarded handle chain target start = result := by
  cases h with
  | heldBefore hbefore held => exact runGuarded_of_held target hbefore held
  | heldAround hentered held => exact hentered.runGuarded_of_held target held
  | skipped hentered passed skipped =>
      rw [hentered.runGuarded_of_passed target passed]
      exact runUnlessSkipped_of_skipped target skipped
  | returned hgates hlanding landed =>
      rw [hgates.runGuarded_eq target]
      exact runTarget_of_landed hlanding landed
  | threw hgates hlanding thrown =>
      rw [hgates.runGuarded_eq target]
      exact runTarget_of_thrown hlanding thrown

end Intercept
