import Intercept.Adapter
import Intercept.Proofs.Call.Course
import Intercept.Proofs.Call.Single
import Intercept.Proofs.Call.Throwing
import Mathlib.Data.List.Chain

/-!
# Calls inside calls

A target, or a function under advice, may itself make a call.  If it catches nothing, what unwinds in
the innermost call of such a nest goes through every call around it unchanged, and each of them throws
once the call inside it is over: `unwinding_crosses_nested_calls`.
-/

namespace Intercept

variable {H U : Type}

/-! ## Calls as they are made -/

inductive Callee (H U : Type) where
  | target (signal : Signal) (target : Target H U)
  | plain (kind : Kind) (function : PlainFunction H U)
  | fallible (kind : Kind) (function : FallibleFunction H U)

namespace Callee

def signal : Callee H U → Signal
  | .target signal _ => signal
  | .plain _ _ => .never
  | .fallible _ _ => .never

def entry (args : List Value) : Callee H U → Target H U
  | .target _ code => code
  | .plain _ function => function.target args
  | .fallible _ function => function.target args

end Callee

structure Calling (H U : Type) where
  registry : RegistryId
  key : Key
  args : List Value
  callee : Callee H U
  world : World H U

inductive Return where
  | frame (frame : Frame)
  | value (value : Value)
  | failed (cause : Trail)
  deriving DecidableEq

namespace Calling

def IsRegistered (call : Calling H U) : Prop :=
  ∃ chain, call.world.lookup call.registry call.key = .ok chain

def run (handle : Handle H U) (call : Calling H U) : CallRun H U :=
  invoke handle call.registry call.key call.args call.callee.signal (call.callee.entry call.args)
    call.world

/-- What a registered call goes through are phases of its chain and its target, as they are. -/
def Genuine (handle : Handle H U) (call : Calling H U) : Prop :=
  ∀ chain, call.world.lookup call.registry call.key = .ok chain →
    ∀ stage ∈ (call.run handle).stages, stage.Genuine handle chain (call.callee.entry call.args)

def result (handle : Handle H U) (call : Calling H U) : Except Payload Return × World H U :=
  match call.callee with
  | .target signal target =>
    let run := invoke handle call.registry call.key call.args signal target call.world
    match run.outcome with
    | .returned frame => (.ok (.frame frame), run.world)
    | .unwound payload => (.error payload, run.world)
  | .plain kind function =>
    match function.wrap handle call.registry call.key kind call.args call.world with
    | (.ok value, world) => (.ok (.value value), world)
    | (.error payload, world) => (.error payload, world)
  | .fallible kind function =>
    match function.wrap handle call.registry call.key kind call.args call.world with
    | (.value value, world) => (.ok (.value value), world)
    | (.failed cause, world) => (.ok (.failed cause), world)
    | (.unwound payload, world) => (.error payload, world)

end Calling

/-! ## Code that calls and catches nothing

`enter` is what comes before the call, if the code does not end without it, and `leave` what comes
behind it if it returns.
-/

def Target.calling (handle : Handle H U)
    (enter : Frame → World H U → Landing H U ⊕ Frame × Calling H U)
    (leave : Return → Frame → World H U → Landing H U) : Target H U := fun frame world =>
  match enter frame world with
  | .inl landing => landing
  | .inr (frame, call) =>
    match call.result handle with
    | (.ok returned, world) => leave returned frame world
    | (.error payload, world) => ⟨some payload, frame, world⟩

def PlainFunction.calling (handle : Handle H U)
    (enter : List Value → World H U → (Except Payload Value × World H U) ⊕ Calling H U)
    (leave : Return → World H U → Except Payload Value × World H U) : PlainFunction H U :=
  fun args world =>
    match enter args world with
    | .inl ended => ended
    | .inr call =>
      match call.result handle with
      | (.ok returned, world) => leave returned world
      | (.error payload, world) => (.error payload, world)

def FallibleFunction.calling (handle : Handle H U)
    (enter : List Value → World H U → (Answer × World H U) ⊕ Calling H U)
    (leave : Return → World H U → Answer × World H U) : FallibleFunction H U := fun args world =>
  match enter args world with
  | .inl ended => ended
  | .inr call =>
    match call.result handle with
    | (.ok returned, world) => leave returned world
    | (.error payload, world) => (.unwound payload, world)

inductive Callee.Makes (handle : Handle H U) (args : List Value) (frame : Frame)
    (world : World H U) : Callee H U → Calling H U → Prop
  | target (signal : Signal) {enter : Frame → World H U → Landing H U ⊕ Frame × Calling H U}
      (leave : Return → Frame → World H U → Landing H U) {left : Frame} {call : Calling H U}
      (entered : enter frame world = .inr (left, call)) :
      Makes handle args frame world (.target signal (.calling handle enter leave)) call
  | plain (kind : Kind)
      {enter : List Value → World H U → (Except Payload Value × World H U) ⊕ Calling H U}
      (leave : Return → World H U → Except Payload Value × World H U) {call : Calling H U}
      (entered : enter args world = .inr call) :
      Makes handle args frame world (.plain kind (.calling handle enter leave)) call
  | fallible (kind : Kind)
      {enter : List Value → World H U → (Answer × World H U) ⊕ Calling H U}
      (leave : Return → World H U → Answer × World H U) {call : Calling H U}
      (entered : enter args world = .inr call) :
      Makes handle args frame world (.fallible kind (.calling handle enter leave)) call

/-- Wherever `outer` gets to its target, that makes the call `inner`. -/
def Calling.Nests (handle : Handle H U) (outer inner : Calling H U) : Prop :=
  ∀ frame world landing, .target frame world landing ∈ (outer.run handle).stages →
    outer.callee.Makes handle outer.args frame world inner

def Stage.LetsThrough : Stage H U → Prop
  | .phase which _ _ held => which.isGatekeeper = true →
      held.ending = .passed ∧ (which = .around → held.frame.skipped = false)
  | .target _ _ _ => True

instance (stage : Stage H U) : Decidable stage.LetsThrough :=
  match stage with
  | .phase which _ _ held => inferInstanceAs (Decidable (which.isGatekeeper = true →
      held.ending = .passed ∧ (which = .around → held.frame.skipped = false)))
  | .target _ _ _ => .isTrue trivial

/-! ## One call of a nest -/

theorem Course.Fits.exists_target {chain : ChainId} {course : Course} {run : CallRun H U}
    (h : course.Fits chain run.stages) (hgates : ∀ stage ∈ run.stages, stage.LetsThrough) :
    ∃ frame world landing, .target frame world landing ∈ run.stages := by
  generalize run.stages = stages at h hgates ⊢
  cases h with
  | @heldBefore frame _ world _ before _ _ held =>
      exact absurd (hgates (.phase .before frame world before) List.mem_cons_self rfl).1 held
  | @heldAround _ _ _ _ before around _ _ passed advised held =>
      exact absurd (hgates (.phase .around before.frame before.world around)
        (List.mem_cons_of_mem _ List.mem_cons_self) rfl).1 held
  | @skipped _ _ _ _ before around _ _ passed advised passed' skipped hreturning =>
      have hdown := (hgates (.phase .around before.frame before.world around) (by simp) rfl).2 rfl
      rw [skipped] at hdown
      cases hdown
  | @returned _ _ frame _ world _ landing _ hpassing landed hreturning =>
      exact ⟨frame, world, landing, by simp⟩
  | @threw _ frame _ world _ landing _ _ _ hpassing thrown =>
      exact ⟨frame, world, landing, by simp⟩

namespace Calling

variable {handle : Handle H U} {call outer inner : Calling H U} {payload : Payload}

theorem result_of_unwound (h : (call.run handle).outcome = .unwound payload) :
    call.result handle = (.error payload, (call.run handle).world) := by
  obtain ⟨registry, key, args, callee, world⟩ := call
  cases callee with
  | target signal target =>
      simp only [run, Callee.signal, Callee.entry] at h ⊢
      simp only [result, h]
  | plain kind function =>
      simp only [run, Callee.signal, Callee.entry] at h ⊢
      simp only [result, PlainFunction.wrap, PlainFunction.settle, h]
  | fallible kind function =>
      simp only [run, Callee.signal, Callee.entry] at h ⊢
      simp only [result, FallibleFunction.wrap, FallibleFunction.settle, h]

theorem run_of_registered {chain : ChainId}
    (h : call.world.lookup call.registry call.key = .ok chain) :
    call.run handle = runAdvised handle chain call.key (call.callee.entry call.args)
      (.new call.key call.args call.callee.signal)
      (call.world.acquire call.registry call.key call.args call.callee.signal).2 :=
  invoke_of_lookup h ..

theorem run_of_refusal {refusal : Registry.Refusal}
    (h : call.world.lookup call.registry call.key = .error refusal) :
    call.run handle = runDirect call.key (call.callee.entry call.args)
      (.new call.key call.args call.callee.signal)
      (call.world.acquire call.registry call.key call.args call.callee.signal).2 :=
  invoke_of_refusal h ..

theorem genuine (handle : Handle H U) (call : Calling H U) : call.Genuine handle := by
  intro chain hlookup
  rw [run_of_registered hlookup]
  exact genuine_runAdvised handle chain call.key _ _ _

theorem landing_eq {frame : Frame} {world : World H U} {landing : Landing H U}
    (hmem : .target frame world landing ∈ (call.run handle).stages) :
    landing = call.callee.entry call.args frame world := by
  cases hlookup : call.world.lookup call.registry call.key with
  | ok chain => exact call.genuine handle chain hlookup _ hmem
  | error refusal =>
      rw [run_of_refusal hlookup, runDirect_eq, List.mem_singleton] at hmem
      cases hmem
      rfl

theorem exists_target (hgates : ∀ stage ∈ (call.run handle).stages, stage.LetsThrough) :
    ∃ frame world landing, .target frame world landing ∈ (call.run handle).stages := by
  cases hlookup : call.world.lookup call.registry call.key with
  | ok chain =>
      obtain ⟨course, hfits⟩ := exists_fits handle chain call.key
        (call.callee.entry call.args) (.new call.key call.args call.callee.signal)
        (call.world.acquire call.registry call.key call.args call.callee.signal).2
      rw [← run_of_registered hlookup] at hfits
      exact hfits.exists_target hgates
  | error refusal =>
      rw [run_of_refusal hlookup, runDirect_eq]
      exact ⟨_, _, _, List.mem_singleton_self _⟩

theorem throws_of_raised {stage : Stage H U} (hmem : stage ∈ (call.run handle).stages)
    (hraised : stage.raised? = some payload)
    (hmild : ∀ other ∈ (call.run handle).stages, other.Mild) :
    call.result handle = (.error payload, (call.run handle).world) ∧
      ∃ left, (call.IsRegistered → Throws payload left (call.run handle).stages) ∧
        (¬call.IsRegistered → (call.run handle).world = left) ∧
        ∀ other ∈ (call.run handle).stages,
          ∀ landing, other.landing? = some landing → landing.world = left := by
  cases hlookup : call.world.lookup call.registry call.key with
  | ok chain =>
      have hrun : call.run handle = _ := run_of_registered hlookup
      rw [hrun] at hmem hmild
      obtain ⟨houtcome, left, hthrows, hlandings⟩ := runAdvised_throws hmem hraised hmild
      rw [← hrun] at houtcome hthrows hlandings
      exact ⟨result_of_unwound houtcome, left, fun _ => hthrows,
        fun hnot => absurd ⟨chain, hlookup⟩ hnot, hlandings⟩
  | error refusal =>
      have hrun : call.run handle = _ := run_of_refusal hlookup
      rw [runDirect_eq] at hrun
      have houtcome : (call.run handle).outcome = .unwound payload := by
        rw [hrun] at hmem ⊢
        rw [List.mem_singleton] at hmem
        subst hmem
        simp only [Stage.raised?] at hraised
        simp only [Landing.outcome, hraised]
      refine ⟨result_of_unwound houtcome, (call.run handle).world, ?_, fun _ => rfl, ?_⟩
      · rintro ⟨chain, hchain⟩
        rw [hlookup] at hchain
        cases hchain
      · rw [hrun]
        intro other hother landing hlanding
        rw [List.mem_singleton] at hother
        subst hother
        cases hlanding
        rfl

theorem result_of_stopped {which : Phase} {frame : Frame} {world : World H U}
    {held : PhaseRun H U} {stop : Stop}
    (hmem : .phase which frame world held ∈ (call.run handle).stages)
    (hgate : which.isGatekeeper = true) (hstop : held.ending = .stopped stop)
    (hmild : ∀ other ∈ (call.run handle).stages, other.Mild) :
    call.result handle = (.error (.veto ⟨call.key, which, stop⟩), (call.run handle).world) := by
  apply result_of_unwound
  cases hlookup : call.world.lookup call.registry call.key with
  | ok chain =>
      rw [run_of_registered hlookup] at hmem hmild ⊢
      exact outcome_runAdvised_of_stopped hmem hgate hstop hmild
  | error refusal =>
      rw [run_of_refusal hlookup, runDirect_eq, List.mem_singleton] at hmem
      cases hmem

end Calling

theorem Callee.Makes.landing {handle : Handle H U} {args : List Value} {frame : Frame}
    {world left : World H U} {callee : Callee H U} {inner : Calling H U} {payload : Payload}
    (h : callee.Makes handle args frame world inner)
    (hinner : inner.result handle = (.error payload, left)) :
    (callee.entry args frame world).payload = some payload ∧
      (callee.entry args frame world).world = left := by
  cases h with
  | target signal leave entered => simp [Callee.entry, Target.calling, entered, hinner]
  | plain kind leave entered =>
      simp [Callee.entry, PlainFunction.target, PlainFunction.calling, entered, hinner]
  | fallible kind leave entered =>
      simp [Callee.entry, FallibleFunction.target, FallibleFunction.calling, entered, hinner]

theorem Calling.Nests.exists_raised {handle : Handle H U} {outer inner : Calling H U}
    {payload : Payload} {left : World H U} (h : outer.Nests handle inner)
    (hgates : ∀ stage ∈ (outer.run handle).stages, stage.LetsThrough)
    (hinner : inner.result handle = (.error payload, left)) :
    ∃ stage ∈ (outer.run handle).stages, stage.raised? = some payload ∧
      ∃ landing, stage.landing? = some landing ∧ landing.world = left := by
  obtain ⟨frame, world, landing, hmem⟩ := Calling.exists_target hgates
  obtain ⟨hpayload, hworld⟩ := (h frame world landing hmem).landing hinner
  rw [← Calling.landing_eq hmem] at hpayload hworld
  exact ⟨_, hmem, hpayload, landing, rfl, hworld⟩

/-! ## The nest -/

/-- `call` throws as soon as the call inside it is over; without advice it is over then, too. -/
structure Calling.ThrowsAfter (handle : Handle H U) (payload : Payload) (call inner : Calling H U) :
    Prop where
  registered : call.IsRegistered →
    Throws payload (inner.run handle).world (call.run handle).stages
  unregistered : ¬call.IsRegistered → (call.run handle).world = (inner.run handle).world

private theorem raised_of_nested {handle : Handle H U} {outer : List (Calling H U)}
    {last : Calling H U} {payload : Payload}
    (hnested : (outer ++ [last]).IsChain (Calling.Nests handle))
    (hgates : ∀ call ∈ outer, ∀ stage ∈ (call.run handle).stages, stage.LetsThrough)
    (hmild : ∀ call ∈ outer ++ [last], ∀ stage ∈ (call.run handle).stages, stage.Mild)
    (hraised : ∃ stage ∈ (last.run handle).stages, stage.raised? = some payload) :
    (∀ call ∈ outer ++ [last], ∃ stage ∈ (call.run handle).stages,
      stage.raised? = some payload) ∧
      (outer ++ [last]).IsChain (Calling.ThrowsAfter handle payload) := by
  induction outer with
  | nil =>
      refine ⟨?_, List.isChain_singleton last⟩
      intro call hmem
      rw [List.nil_append, List.mem_singleton] at hmem
      rw [hmem]
      exact hraised
  | cons first rest ih =>
      rw [List.cons_append, List.isChain_cons] at hnested
      rw [List.cons_append, List.forall_mem_cons] at hmild ⊢
      rw [List.forall_mem_cons] at hgates
      obtain ⟨hrest, hchain⟩ := ih hnested.2 hgates.2 hmild.2
      have hnext : ∀ inner ∈ (rest ++ [last]).head?,
          (∃ stage ∈ (first.run handle).stages, stage.raised? = some payload) ∧
            first.ThrowsAfter handle payload inner := by
        intro inner hhead
        have hinner := List.mem_of_mem_head? hhead
        -- The call inside unwinds, and nothing on the way to `first` catches that.
        obtain ⟨stage, hstage, hstage'⟩ := hrest inner hinner
        have hresult := (Calling.throws_of_raised hstage hstage' (hmild.2 inner hinner)).1
        obtain ⟨raising, hraising, hraises, landing, hlanding, hworld⟩ :=
          (hnested.1 inner hhead).exists_raised hgates.1 hresult
        obtain ⟨-, left, hthrows, hover, hleft⟩ :=
          Calling.throws_of_raised hraising hraises hmild.1
        rw [← hleft raising hraising landing hlanding, hworld] at hthrows hover
        exact ⟨⟨raising, hraising, hraises⟩, hthrows, hover⟩
      obtain ⟨inner, hhead⟩ : ∃ inner, (rest ++ [last]).head? = some inner := by
        cases rest with
        | nil => exact ⟨last, rfl⟩
        | cons next rest => exact ⟨next, rfl⟩
      exact ⟨⟨(hnext inner hhead).1, hrest⟩,
        List.isChain_cons.mpr ⟨fun other hother => (hnext other hother).2, hchain⟩⟩

/--
In a nest of calls that catches nothing, what is raised in the innermost call comes to the caller of
every call.  Each registered call throws, and does so in the world that the call inside it left; all
its stages are genuine.  The veto of a gatekeeper of the innermost call still names the function of
that call.
-/
theorem unwinding_crosses_nested_calls {handle : Handle H U} {outer : List (Calling H U)}
    {last : Calling H U} {payload : Payload}
    (hnested : (outer ++ [last]).IsChain (Calling.Nests handle))
    (hgates : ∀ call ∈ outer, ∀ stage ∈ (call.run handle).stages, stage.LetsThrough)
    (hmild : ∀ call ∈ outer ++ [last], ∀ stage ∈ (call.run handle).stages, stage.Mild)
    (hraised : ∃ stage ∈ (last.run handle).stages, stage.raised? = some payload) :
    (∀ call ∈ outer ++ [last],
      call.result handle = (.error payload, (call.run handle).world)) ∧
    (outer ++ [last]).IsChain (Calling.ThrowsAfter handle payload) ∧
    (∀ call ∈ outer ++ [last], call.Genuine handle) ∧
    (last.IsRegistered → ∃ left, Throws payload left (last.run handle).stages) ∧
    (∀ phase frame world held stop,
      .phase phase frame world held ∈ (last.run handle).stages → phase.isGatekeeper = true →
        held.ending = .stopped stop → payload = .veto ⟨last.key, phase, stop⟩) := by
  obtain ⟨hall, hchain⟩ := raised_of_nested hnested hgates hmild hraised
  have hlast : last ∈ outer ++ [last] := List.mem_append_right _ (List.mem_singleton_self _)
  obtain ⟨stage, hstage, hstage'⟩ := hraised
  obtain ⟨hresult, left, hleft, -, -⟩ :=
    Calling.throws_of_raised hstage hstage' (hmild last hlast)
  refine ⟨?_, hchain, fun call _ => call.genuine handle,
    fun hregistered => ⟨left, hleft hregistered⟩, ?_⟩
  · intro call hmem
    obtain ⟨raising, hraising, hraises⟩ := hall call hmem
    exact (Calling.throws_of_raised hraising hraises (hmild call hmem)).1
  · intro phase frame world held stop hmem hgate hstop
    have hveto := Calling.result_of_stopped hmem hgate hstop (hmild last hlast)
    rw [hresult, Prod.mk.injEq, Except.error.injEq] at hveto
    exact hveto.1

theorem unwinding_crosses_bare_and_advised_call :
    let report : Chain Habit := ⟨[⟨.around, 0, "mark", ⟨(·.setError (.message "seen")), .done⟩⟩,
      ⟨.afterThrowing, 0, "report", ⟨id, .unwound (.ofText "offline")⟩⟩,
      ⟨.after, 0, "tidy", ⟨Frame.clearError, .failed (.message "stuck")⟩⟩]⟩
    let deep (world : World Habit Unit) : Calling Habit Unit :=
      ⟨0, ⟨"f"⟩, [], .target .never fun frame world => ⟨some (.ofText "boom"), frame, world⟩, world⟩
    let bare (world : World Habit Unit) : Calling Habit Unit :=
      ⟨0, ⟨"g"⟩, [], .fallible .unit (.calling Habit.handle (fun _ world => .inr (deep world))
        fun _ world => (.value .unit, world)), world⟩
    let first : Calling Habit Unit :=
      ⟨0, ⟨"f"⟩, [], .plain .unit (.calling Habit.handle (fun _ world => .inr (bare world))
        fun _ world => (.ok .unit, world)), .single ⟨"f"⟩ report⟩
    let start := (first.world.acquire 0 ⟨"f"⟩ [] .never).2
    let before := runPhase Habit.handle 0 .before (.new ⟨"f"⟩ [] .never) start
    let around := runPhase Habit.handle 0 .around before.frame before.world
    let second := bare around.world
    let last := deep ((around.world.acquire 0 ⟨"g"⟩ [] .never).2.record (.directCall ⟨"g"⟩))
    first.IsRegistered ∧ ¬second.IsRegistered ∧
      first.result Habit.handle = (.error (.ofText "boom"), (first.run Habit.handle).world) ∧
      [first, second, last].IsChain (Calling.ThrowsAfter Habit.handle (.ofText "boom")) ∧
      ∀ call ∈ [first, second, last], call.Genuine Habit.handle := by
  intro report deep bare first start before around second last
  have hregistered : first.world.lookup 0 ⟨"f"⟩ = .ok 0 := World.lookup_single (by decide) _
  have hunregistered : second.world.lookup 0 ⟨"g"⟩ = .error (.notRegistered ⟨"g"⟩) := by
    unfold second around before start first report bare
    decide +kernel
  have hadvised : ((before.world.chain 0).bucket .around).isEmpty = false := by
    unfold before start first report
    decide +kernel
  have hregistered' : ¬second.IsRegistered := by
    rintro ⟨chain, hchain⟩
    have hrefused := hunregistered.symm.trans hchain
    cases hrefused
  have hfirst : first.Nests Habit.handle second := by
    intro frame world landing hmem
    rw [Calling.run_of_registered hregistered] at hmem
    obtain ⟨gates, hgates, -, hworld⟩ := reached_runAdvised _ _ _ _ _ _ _ hmem
    have hentered : world = around.world := by
      rw [← hworld]
      cases hgates with
      | direct hbefore passed bare =>
          rw [← List.isEmpty_iff, ← hbefore] at bare
          exact absurd bare (Bool.eq_false_iff.mp hadvised)
      | around hentered passed unskipped =>
          obtain ⟨rfl, -, -, rfl⟩ := hentered
          rfl
    rw [hentered]
    exact .plain _ _ rfl
  have hsecond : second.Nests Habit.handle last := by
    intro frame world landing hmem
    rw [Calling.run_of_refusal hunregistered, runDirect_eq, List.mem_singleton] at hmem
    cases hmem
    exact .fallible _ _ rfl
  have hnested : ([first, second] ++ [last]).IsChain (Calling.Nests Habit.handle) :=
    List.isChain_cons_cons.mpr ⟨hfirst, List.isChain_pair.mpr hsecond⟩
  have hgates : ∀ call ∈ [first, second], ∀ stage ∈ (call.run Habit.handle).stages,
      stage.LetsThrough := by
    unfold second around before start first report bare deep
    decide +kernel
  have hmild : ∀ call ∈ [first, second] ++ [last],
      ∀ stage ∈ (call.run Habit.handle).stages, stage.Mild := by
    unfold last second around before start first report bare deep
    decide +kernel
  have hraised : ∃ stage ∈ (last.run Habit.handle).stages,
      stage.raised? = some (.ofText "boom") := by
    unfold last around before start first report deep
    decide +kernel
  obtain ⟨hresults, hthrows, hgenuine, -, -⟩ :=
    unwinding_crosses_nested_calls hnested hgates hmild hraised
  exact ⟨⟨0, hregistered⟩, hregistered', hresults first List.mem_cons_self, hthrows, hgenuine⟩

end Intercept
