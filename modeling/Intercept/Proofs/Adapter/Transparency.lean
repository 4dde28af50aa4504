import Intercept.Proofs.Adapter.Writes
import Intercept.Proofs.Call.Course
import Intercept.Proofs.Call.Single
import Intercept.Proofs.Call.Throwing

/-!
# Functions that advice does not change

Under advice that lets every call through and keeps its hands off the error and off slot 0, a wrapped
function ends as the function itself would where the call reaches it: `wrap_transparent`.
-/

namespace Intercept

variable {H U : Type} {handle : Handle H U} {chain : ChainId} {target : Target H U} {frame : Frame}
  {world : World H U}

/-! ## Benign advice -/

/-- What the call comes to is the same in both frames. -/
structure Frame.Spares (found left : Frame) : Prop extends found.Continues left where
  error : left.error = found.error
  result : left.results.get? 0 = found.results.get? 0

namespace Frame.Spares

theorem refl (frame : Frame) : frame.Spares frame :=
  ⟨.refl frame, rfl, rfl⟩

theorem trans {f g k : Frame} (h : f.Spares g) (h' : g.Spares k) : f.Spares k :=
  ⟨h.toContinues.trans h'.toContinues, h'.error.trans h.error, h'.result.trans h.result⟩

end Frame.Spares

instance (found left : Frame) : Decidable (found.Spares left) :=
  decidable_of_iff
    (found.Continues left ∧ left.error = found.error ∧
      left.results.get? 0 = found.results.get? 0)
    ⟨fun ⟨hc, he, hr⟩ => ⟨hc, he, hr⟩, fun h => ⟨h.toContinues, h.error, h.result⟩⟩

/-- Observers may end as they like. -/
structure Visit.IsBenign (phase : Phase) (visit : Visit H U) : Prop where
  spares : visit.Relates Frame.Spares
  done : phase.isGatekeeper = true → visit.step.exit = .done
  skipped : phase.isGatekeeper = true → visit.step.frame.skipped = visit.frame.skipped

instance (phase : Phase) (visit : Visit H U) : Decidable (visit.IsBenign phase) :=
  decidable_of_iff
    (visit.Relates Frame.Spares ∧ (phase.isGatekeeper = true → visit.step.exit = .done) ∧
      (phase.isGatekeeper = true → visit.step.frame.skipped = visit.frame.skipped))
    ⟨fun ⟨hs, hd, hk⟩ => ⟨hs, hd, hk⟩, fun h => ⟨h.spares, h.done, h.skipped⟩⟩

namespace Stage

def Benign (stage : Stage H U) : Prop :=
  stage.Each Visit.IsBenign

instance (stage : Stage H U) : Decidable stage.Benign :=
  inferInstanceAs (Decidable (stage.Each _))

variable {stage : Stage H U}

theorem Benign.spares (h : stage.Benign) : stage.Each fun _ visit => visit.Relates Frame.Spares :=
  h.mono fun _ _ hvisit => hvisit.spares

theorem Benign.mild (h : stage.Benign) : stage.Mild :=
  h.mono fun _ _ hvisit => hvisit.spares.toContinues

end Stage

/-! ## Gatekeepers that let the call through -/

theorem Ran.passed_of_done {phase : Phase} {queue : List (Advice H)} {run : PhaseRun H U}
    (h : Ran handle phase queue frame world run) (hnever : frame.signal = .never)
    (hdone : ∀ visit ∈ run.visits, visit.step.exit = .done)
    (hsignal : ∀ visit ∈ run.visits, visit.step.frame.signal = visit.frame.signal) :
    run.ending = .passed := by
  induction h with
  | finished frame world => rfl
  | interrupted tripped =>
      rw [hnever, Signal.check_never] at tripped
      cases tripped
  | done untripped hvisit hexit hrest ih =>
      have hhead := hsignal _ List.mem_cons_self
      rw [frame_of_visitOf hvisit] at hhead
      exact ih (hhead.trans hnever) (fun visit hmem => hdone visit (List.mem_cons_of_mem _ hmem))
        fun visit hmem => hsignal visit (List.mem_cons_of_mem _ hmem)
  | failed untripped hvisit hexit =>
      rw [hdone _ (List.mem_singleton_self _)] at hexit
      cases hexit
  | unwound untripped hvisit hexit =>
      rw [hdone _ (List.mem_singleton_self _)] at hexit
      cases hexit

private theorem gate_of_benign {phase : Phase} {run : PhaseRun H U}
    (hgate : phase.isGatekeeper = true) (hrun : runPhase handle chain phase frame world = run)
    (hnever : frame.signal = .never) (hbenign : Stage.Benign (.phase phase frame world run)) :
    run.ending = .passed ∧ run.frame.signal = .never ∧ run.frame.skipped = frame.skipped := by
  subst hrun
  have hran := ran_runPhase handle chain phase frame world
  have hsignal := hran.frame_rel (R := fun found left => left.signal = found.signal)
    (fun _ => rfl) (fun hfg hgk => hgk.trans hfg) fun visit hmem => (hbenign visit hmem).spares.signal
  have hskipped := hran.frame_rel (R := fun found left => left.skipped = found.skipped)
    (fun _ => rfl) (fun hfg hgk => hgk.trans hfg) fun visit hmem => (hbenign visit hmem).skipped hgate
  have hpassed := hran.passed_of_done hnever (fun visit hmem => (hbenign visit hmem).done hgate)
    fun visit hmem => (hbenign visit hmem).spares.signal
  exact ⟨hpassed, hsignal.trans hnever, hskipped⟩

private theorem Entered.of_benign {start : Progress H U} {before around : PhaseRun H U}
    (h : Entered handle chain start before around) (hnever : start.frame.signal = .never)
    (hskipped : start.frame.skipped = false)
    (hbenign : ((start.pass .before before).pass .around around).All Stage.Benign) :
    around.ending = .passed ∧ around.frame.skipped = false := by
  obtain ⟨hfirst, haround⟩ := Progress.all_pass.mp hbenign
  obtain ⟨-, hbefore⟩ := Progress.all_pass.mp hfirst
  obtain ⟨-, hnever', hskipped'⟩ := gate_of_benign rfl h.hbefore hnever hbefore
  obtain ⟨hpassed, -, hskipped''⟩ := gate_of_benign rfl h.haround hnever' haround
  exact ⟨hpassed, hskipped''.trans (hskipped'.trans hskipped)⟩

/-! ## Calls that end as their target does -/

inductive Landing.EndsAs (landing : Landing H U) : Outcome → Prop
  | returned {last : Frame} (landed : landing.payload = none)
      (spared : landing.frame.Spares last) : EndsAs landing (.returned last)
  | unwound {payload : Payload} (thrown : landing.payload = some payload) :
      EndsAs landing (.unwound payload)

theorem Landing.EndsAs.of_landed {landing : Landing H U} {outcome : Outcome}
    (h : landing.EndsAs outcome) (landed : landing.payload = none) :
    ∃ last, outcome = .returned last ∧ landing.frame.Spares last := by
  cases h with
  | returned landed' spared => exact ⟨_, rfl, spared⟩
  | unwound thrown =>
      rw [landed] at thrown
      cases thrown

theorem Landing.EndsAs.of_thrown {landing : Landing H U} {outcome : Outcome} {payload : Payload}
    (h : landing.EndsAs outcome) (thrown : landing.payload = some payload) :
    outcome = .unwound payload := by
  cases h with
  | returned landed spared =>
      rw [thrown] at landed
      cases landed
  | unwound thrown' =>
      rw [thrown] at thrown'
      cases thrown'
      rfl

structure CallRun.RunsOnce (run : CallRun H U) (target : Target H U) (args : List Value)
    (found : Frame) (world : World H U) : Prop where
  ran : .target found world (target found world) ∈ run.stages
  once : (run.stages.map Stage.mark).count .target = 1
  hargs : found.args = args

theorem runAdvised_of_benign {key : Key} (hnever : frame.signal = .never)
    (hskipped : frame.skipped = false)
    (hbenign : ∀ stage ∈ (runAdvised handle chain key target frame world).stages, stage.Benign) :
    ∃ found world', frame.Spares found ∧
      .target found world' (target found world') ∈
        (runAdvised handle chain key target frame world).stages ∧
      (target found world').EndsAs (runAdvised handle chain key target frame world).outcome := by
  have hguard := guarded_runGuarded handle chain target ⟨[], frame, world⟩
  generalize hresult : runGuarded handle chain target ⟨[], frame, world⟩ = result at hguard
  obtain ⟨verdict, core⟩ := result
  have hcore : core.All Stage.Benign := fun stage hmem =>
    hbenign stage (mem_runAdvised hresult hmem key)
  cases hguard with
  | heldBefore hbefore held =>
      have hfirst := (Progress.all_pass.mp hcore).2
      exact absurd (gate_of_benign rfl hbefore hnever hfirst).1 held
  | heldAround hentered held => exact absurd (hentered.of_benign hnever hskipped hcore).1 held
  | @skipped before around hentered passed skipped =>
      have hgates : (((⟨[], frame, world⟩ : Progress H U).pass .before before).pass
          .around around).All Stage.Benign :=
        fun stage hmem => hcore stage (Progress.mem_watchReturn hmem)
      have hdown := (hentered.of_benign hnever hskipped hgates).2
      rw [skipped] at hdown
      cases hdown
  | @returned gates landing hgates hlanding landed =>
      subst hlanding
      have hspared : ((gates.arrive (target gates.frame gates.world)).watchReturn handle chain).All
          (Stage.Each fun _ visit => visit.Relates Frame.Spares) :=
        fun stage hmem => (hcore stage hmem).spares
      have harrived : (gates.arrive (target gates.frame gates.world)).All
          (Stage.Each fun _ visit => visit.Relates Frame.Spares) :=
        fun stage hmem => hspared stage (Progress.mem_watchReturn hmem)
      have hfound := hgates.rel Frame.Spares.refl .trans (Progress.all_arrive.mp harrived).1
      have hreturning := rel_watchReturn Frame.Spares.refl .trans hspared
      have hmem := mem_runAdvised hresult (Progress.mem_watchReturn
        (List.mem_append_right gates.stages (List.mem_singleton_self _))) key
      refine ⟨gates.frame, gates.world, hfound, hmem, ?_⟩
      rw [runAdvised_of_completed key hresult] at hbenign ⊢
      have hafter := rel_watchPhase Frame.Spares.refl .trans
        ((Progress.all_watch.mp hbenign).2).spares
      exact .returned landed (hreturning.trans hafter)
  | @threw gates landing payload hgates hlanding thrown =>
      subst hlanding
      have hspared := (Progress.all_arrive.mp hcore).1
      have hfound := hgates.rel Frame.Spares.refl .trans fun stage hmem => (hspared stage hmem).spares
      have hmem := mem_runAdvised hresult
        (List.mem_append_right gates.stages (List.mem_singleton_self _)) key
      refine ⟨gates.frame, gates.world, hfound, hmem, ?_⟩
      rw [(runAdvised_throws hmem thrown fun stage hstage => (hbenign stage hstage).mild).1]
      exact .unwound thrown

theorem invoke_of_benign {registry : RegistryId} {key : Key} {args : List Value}
    (hbenign : ∀ stage ∈ (invoke handle registry key args .never target world).stages,
      stage.Benign) :
    ∃ found world', Frame.Spares (.new key args .never) found ∧
      (invoke handle registry key args .never target world).RunsOnce target args found world' ∧
      (target found world').EndsAs (invoke handle registry key args .never target world).outcome := by
  cases hlookup : world.lookup registry key with
  | ok chain =>
      rw [invoke_of_lookup hlookup] at hbenign ⊢
      obtain ⟨found, world', hfound, hran, hends⟩ := runAdvised_of_benign rfl rfl hbenign
      obtain ⟨course, hfits⟩ := exists_fits handle chain key target (.new key args .never)
        (world.acquire registry key args .never).2
      have horderly := Course.orderly_of_mem_sequences hfits.mem_sequences
      have hpos := List.count_pos_iff.mpr (List.mem_map_of_mem (f := Stage.mark) hran)
      exact ⟨found, world', hfound, ⟨hran, Nat.le_antisymm horderly.target_once hpos, hfound.args⟩,
        hends⟩
  | error refusal =>
      rw [invoke_of_refusal hlookup, runDirect_eq]
      refine ⟨_, _, .refl _, ⟨List.mem_singleton_self _, rfl, rfl⟩, ?_⟩
      simp only [Landing.outcome]
      split
      · exact .unwound (by assumption)
      · exact .returned (by assumption) (.refl _)

/-! ## Results on their way through slot 0 -/

theorem Frame.Spares.takeResult {found left : Frame} (h : found.Spares left) {value : Value}
    (hslot : found.results.get? 0 = some value) {kind : Kind} (hkind : value.kind = kind) :
    (left.takeResult 0 kind).1 = some value := by
  have hheld : left.results.get? 0 = some value := h.result.trans hslot
  have hread : value.as? kind = some value := Value.as?_eq_some_iff.mpr ⟨rfl, hkind⟩
  simp only [Frame.takeResult, Slots.take_fst, Slots.read?, hheld, Option.bind_some, hread]

def PlainFunction.Yields (function : PlainFunction H U) (kind : Kind) : Prop :=
  ∀ args world value, (function args world).1 = .ok value → value.kind = kind

def FallibleFunction.Yields (function : FallibleFunction H U) (kind : Kind) : Prop :=
  ∀ args world value, (function args world).1 = .value value → value.kind = kind

section

variable {registry : RegistryId} {kind : Kind} {args : List Value} {run : CallRun H U} {found : Frame}

theorem PlainFunction.settle_of_endsAs {function : PlainFunction H U} (hyields : function.Yields kind)
    (h : (function.target args found world).EndsAs run.outcome) :
    (settle registry kind run).1 = (function args world).1 := by
  rcases hfunction : function args world with ⟨payload | value, world'⟩
  · simp only [target, hfunction] at h
    have houtcome := h.of_thrown rfl
    rw [settle_of_unwound houtcome]
  · obtain ⟨left, hleft, -, hslot⟩ := Landing.ofResult_zero value found world'
    simp only [target, hfunction, hleft] at h
    obtain ⟨last, houtcome, spared⟩ := h.of_landed rfl
    have hkind : value.kind = kind := hyields args world value (by rw [hfunction])
    have htaken := spared.takeResult hslot hkind
    rw [settle_of_returned houtcome, htaken]

theorem FallibleFunction.settle_of_endsAs {function : FallibleFunction H U}
    (hyields : function.Yields kind) (herror : found.error = none)
    (h : (function.target args found world).EndsAs run.outcome) :
    (settle registry kind run).1 = (function args world).1 := by
  rcases hfunction : function args world with ⟨value | cause | payload, world'⟩
  · obtain ⟨left, hleft, herror', hslot⟩ := Landing.ofResult_zero value found world'
    simp only [target, hfunction, hleft] at h
    obtain ⟨last, houtcome, spared⟩ := h.of_landed rfl
    have hkind : value.kind = kind := hyields args world value (by rw [hfunction])
    have htaken := spared.takeResult hslot hkind
    have hclean := spared.error.trans (herror'.trans herror)
    rw [settle_of_returned houtcome, hclean, htaken]
  · simp only [target, hfunction] at h
    obtain ⟨last, houtcome, spared⟩ := h.of_landed rfl
    have hfailed : _ = some cause := spared.error
    rw [settle_of_returned houtcome, hfailed]
  · simp only [target, hfunction] at h
    have houtcome := h.of_thrown rfl
    rw [settle_of_unwound houtcome]

end

/-! ## Wrapped functions -/

/--
Under benign advice, or none, a wrapped function is called once, with the arguments of the wrapper,
and what it returns, fails with or unwinds with is what comes out.
-/
theorem wrap_transparent (handle : Handle H U) (registry : RegistryId) (key : Key) (kind : Kind)
    (args : List Value) (world : World H U) :
    (∀ function : PlainFunction H U, function.Yields kind →
      let run := invoke handle registry key args .never (function.target args) world
      (∀ stage ∈ run.stages, stage.Benign) →
        ∃ found world', run.RunsOnce (function.target args) args found world' ∧
          (function.wrap handle registry key kind args world).1 = (function args world').1) ∧
    (∀ function : FallibleFunction H U, function.Yields kind →
      let run := invoke handle registry key args .never (function.target args) world
      (∀ stage ∈ run.stages, stage.Benign) →
        ∃ found world', run.RunsOnce (function.target args) args found world' ∧
          (function.wrap handle registry key kind args world).1 = (function args world').1) := by
  constructor
  · intro function hyields run hbenign
    obtain ⟨found, world', hfound, honce, hends⟩ := invoke_of_benign hbenign
    exact ⟨found, world', honce, PlainFunction.settle_of_endsAs hyields hends⟩
  · intro function hyields run hbenign
    obtain ⟨found, world', hfound, honce, hends⟩ := invoke_of_benign hbenign
    exact ⟨found, world', honce,
      FallibleFunction.settle_of_endsAs hyields hfound.error hends⟩

theorem failing_observers_are_transparent :
    let world : World Habit Unit := .single ⟨"f"⟩
      ⟨[⟨.before, 5, "note",
          ⟨fun frame => { frame with notes := frame.notes.insert "seen" .unit }, .done⟩⟩,
        ⟨.around, 0, "trace", ⟨id, .done⟩⟩,
        ⟨.afterReturning, 0, "count", ⟨id, .failed (.message "full")⟩⟩,
        ⟨.after, 0, "report", ⟨(·.setSkipped true), .unwound (.ofText "offline")⟩⟩]⟩
    let sum : PlainFunction Habit Unit := fun _ world => (.ok (.int32 7), world)
    let load : FallibleFunction Habit Unit := fun _ world =>
      (.failed (.context "load" (.message "disk")), world)
    sum.Yields .int32 ∧ load.Yields .int32 ∧
      (∀ stage ∈ (invoke Habit.handle 0 ⟨"f"⟩ [.bool true] .never (sum.target [.bool true])
        world).stages, stage.Benign) ∧
      (∀ stage ∈ (invoke Habit.handle 0 ⟨"f"⟩ [.bool true] .never (load.target [.bool true])
        world).stages, stage.Benign) ∧
      (sum.wrap Habit.handle 0 ⟨"f"⟩ .int32 [.bool true] world).1 = .ok (.int32 7) ∧
      (load.wrap Habit.handle 0 ⟨"f"⟩ .int32 [.bool true] world).1 =
        .failed (.context "load" (.message "disk")) := by
  intro world sum load
  have hsum : sum.Yields .int32 := by
    intro args world value hvalue
    cases hvalue
    rfl
  have hload : load.Yields .int32 := by
    intro args world value hvalue
    cases hvalue
  have hbenign : ∀ stage ∈ (invoke Habit.handle 0 ⟨"f"⟩ [.bool true] .never
      (sum.target [.bool true]) world).stages, stage.Benign := by
    unfold world
    decide +kernel
  have hbenign' : ∀ stage ∈ (invoke Habit.handle 0 ⟨"f"⟩ [.bool true] .never
      (load.target [.bool true]) world).stages, stage.Benign := by
    unfold world
    decide +kernel
  obtain ⟨hplain, hfallible⟩ :=
    wrap_transparent Habit.handle 0 ⟨"f"⟩ .int32 [.bool true] world
  obtain ⟨_, _, _, hsum'⟩ := hplain sum hsum hbenign
  obtain ⟨_, _, _, hload'⟩ := hfallible load hload hbenign'
  exact ⟨hsum, hload, hbenign, hbenign', hsum', hload'⟩

end Intercept
