import Intercept.Proofs.Call.Nesting
import Intercept.Proofs.Call.Stretches

/-!
# Frames in use by calls inside calls

A wrapped call holds a frame from the pool of its registry while it runs, and so do the calls that
its handlers and its target make meanwhile.  When all are over the pool is left with a frame for each
call that was open at a time, as far as it may keep them, or with those it held before if these were
more: `idleCount_after_calls`.  A call that unwinds out of the engine does not give its frame back.
-/

namespace Intercept

variable {H U : Type}

/-! ## Trees of calls -/

/-- The calls that some code makes one after the other, each with those made inside it. -/
inductive Calls where
  | none
  | call (inside rest : Calls)

def Calls.depth : Calls → Nat
  | .none => 0
  | .call inside rest => max (inside.depth + 1) rest.depth

def Callee.IsWrapper : Callee H U → Prop
  | .target _ _ => False
  | .plain _ _ => True
  | .fallible _ _ => True

/-- Over these stretches of the pool of the registry some code makes the calls, and does nothing
else to the pool.  Each call begins with the pool as the code has it, is run by the engine to its
return, and leaves the pool with which the code goes on, whether it gave a result, an error or
neither. -/
inductive Calls.MadeIn (H U : Type) (registry : RegistryId) : Calls → List (Pool × Pool) → Prop
  | done : MadeIn H U registry .none []
  | next {calls : Calls} {pool : Pool} {later : List (Pool × Pool)}
      (hlater : MadeIn H U registry calls later) :
      MadeIn H U registry calls ((pool, pool) :: later)
  | call {inside rest : Calls} {left : Pool} {later : List (Pool × Pool)}
      (handle : Handle H U) (call : Calling H U)
      (hregistry : call.registry = registry)
      (wrapped : call.callee.IsWrapper)
      (hreturned : ∃ frame, (call.run handle).outcome = .returned frame)
      (hinside : MadeIn H U registry inside ((call.run handle).stretches (World.pool registry)))
      (hrest : MadeIn H U registry rest (((call.result handle).2.pool registry, left) :: later)) :
      MadeIn H U registry (.call inside rest) ((call.world.pool registry, left) :: later)

/-! ## What calls leave in a pool -/

structure Pool.Ready (pool : Pool) : Prop where
  enabled : pool.policy.enabled = true
  fits : pool.idleCount ≤ pool.policy.maxIdle

theorem Pool.Ready.acquire {pool : Pool} (h : pool.Ready) (function : Key) (args : List Value)
    (signal : Signal) : (pool.acquire function args signal).2.Ready := by
  refine ⟨?_, ?_⟩
  · rw [policy_acquire]
    exact h.enabled
  · rw [policy_acquire, idleCount_acquire_of_enabled h.enabled]
    exact Nat.le_trans (Nat.sub_le ..) h.fits

/-- The pool `left` is `found` after calls of which up to `depth` were open at a time. -/
structure Pool.After (depth : Nat) (found left : Pool) : Prop where
  policy : left.policy = found.policy
  idleCount : left.idleCount = max found.idleCount (min found.policy.maxIdle depth)

namespace Pool.After

variable {found next left : Pool} {depth later : Nat}

theorem refl (pool : Pool) : After 0 pool pool :=
  ⟨rfl, by rw [Nat.min_zero, Nat.max_zero]⟩

theorem trans (h : After depth found next) (h' : After later next left) :
    After (max depth later) found left := by
  refine ⟨h'.policy.trans h.policy, ?_⟩
  rw [h'.idleCount, h.idleCount, h.policy]
  omega

theorem ready (h : After depth found left) (hready : found.Ready) : left.Ready := by
  have hfits := hready.fits
  refine ⟨?_, ?_⟩
  · rw [h.policy]
    exact hready.enabled
  · rw [h.idleCount, h.policy]
    omega

section

variable {function : Key} {args : List Value} {signal : Signal}
  (h : After depth (found.acquire function args signal).2 left) (hready : found.Ready)

include h hready

theorem idleCount_of_acquire :
    left.idleCount = max (found.idleCount - 1) (min found.policy.maxIdle depth) := by
  rw [h.idleCount, policy_acquire, idleCount_acquire_of_enabled hready.enabled]

theorem around (frame : Frame) : After (depth + 1) found (left.release frame) := by
  have hleft := h.ready (hready.acquire function args signal)
  have hpolicy : left.policy = found.policy := h.policy.trans (policy_acquire ..)
  have hfits := hready.fits
  refine ⟨(policy_release ..).trans hpolicy, ?_⟩
  rw [idleCount_release_of_enabled hleft.enabled hleft.fits, h.idleCount_of_acquire hready, hpolicy]
  omega

end

end Pool.After

namespace Calling

variable {handle : Handle H U} {call : Calling H U} {frame : Frame}

theorem result_of_returned (wrapped : call.callee.IsWrapper)
    (h : (call.run handle).outcome = .returned frame) :
    (call.result handle).2 = (call.run handle).world.recycle call.registry .blank ∧
      ∀ payload, (call.result handle).1 = .error payload →
        payload = .missingResult frame.function := by
  obtain ⟨registry, key, args, callee, world⟩ := call
  cases callee with
  | target signal target => cases wrapped
  | plain kind function =>
      simp only [run, Callee.signal, Callee.entry] at h ⊢
      simp only [result, PlainFunction.wrap, PlainFunction.settle_of_returned h]
      cases (frame.takeResult 0 kind).1 <;> simp [eq_comm]
  | fallible kind function =>
      simp only [run, Callee.signal, Callee.entry] at h ⊢
      simp only [result, FallibleFunction.wrap, FallibleFunction.settle_of_returned h]
      cases frame.error with
      | some cause => simp
      | none => cases (frame.takeResult 0 kind).1 <;> simp

theorem carried_run (handle : Handle H U) (call : Calling H U) :
    Carried ((call.world.pool call.registry).acquire call.key call.args call.callee.signal).2
      ((call.run handle).stretches (World.pool call.registry))
      ((call.run handle).world.pool call.registry) := by
  have hacquired := call.world.pool_acquire call.registry call.registry call.key call.args
    call.callee.signal
  rw [if_pos rfl] at hacquired
  rw [← hacquired]
  exact carried_invoke (fun world event => world.pool_record event call.registry) handle
    call.registry call.key call.args call.callee.signal (call.callee.entry call.args) call.world

theorem after_result {depth : Nat} (wrapped : call.callee.IsWrapper)
    (hreturned : (call.run handle).outcome = .returned frame)
    (hready : (call.world.pool call.registry).Ready)
    (h : Pool.After depth
      ((call.world.pool call.registry).acquire call.key call.args call.callee.signal).2
      ((call.run handle).world.pool call.registry)) :
    Pool.After (depth + 1) (call.world.pool call.registry)
      ((call.result handle).2.pool call.registry) := by
  rw [(result_of_returned wrapped hreturned).1, World.pool_recycle, if_pos rfl]
  exact h.around hready .blank

end Calling

theorem Calls.MadeIn.after {registry : RegistryId} {calls : Calls} {stretches : List (Pool × Pool)}
    (h : calls.MadeIn H U registry stretches) {found left : Pool}
    (hcarried : Carried found stretches left) (hready : found.Ready) :
    Pool.After calls.depth found left := by
  induction h generalizing found left with
  | done =>
      obtain rfl : left = found := hcarried
      exact .refl left
  | next hlater ih =>
      obtain ⟨rfl, hlater⟩ := hcarried
      exact ih hlater hready
  | call handle call hregistry wrapped hreturned hinside hrest ihinside ihrest =>
      -- The calls inside find the pool without the frame of this call, those behind it find it back.
      subst hregistry
      obtain ⟨rfl, hlater⟩ := hcarried
      have hrun := ihinside (call.carried_run handle) (hready.acquire ..)
      obtain ⟨frame, hframe⟩ := hreturned
      have hcall := Calling.after_result wrapped hframe hready hrun
      exact hcall.trans (ihrest ⟨rfl, hlater⟩ (hcall.ready hready))

/--
Behind a wrapped call the pool of its registry holds a frame for each call that was open at a time,
the outermost one included, as far as it may, or what it held before.  If the outermost call unwinds
out of the engine, its own frame is missing.
-/
theorem idleCount_after_calls {handle : Handle H U} {call : Calling H U} {inside : Calls}
    (wrapped : call.callee.IsWrapper) (hready : (call.world.pool call.registry).Ready)
    (hinside : inside.MadeIn H U call.registry
      ((call.run handle).stretches (World.pool call.registry))) :
    let found := call.world.pool call.registry
    let left := (call.result handle).2.pool call.registry
    left.policy = found.policy ∧
      (∀ frame, (call.run handle).outcome = .returned frame →
        (∀ payload, (call.result handle).1 = .error payload →
          payload = .missingResult frame.function) ∧
        left.idleCount =
          max found.idleCount (min found.policy.maxIdle (Calls.call inside .none).depth)) ∧
      ∀ payload, (call.run handle).outcome = .unwound payload →
        (call.result handle).1 = .error payload ∧
        left.idleCount = max (found.idleCount - 1) (min found.policy.maxIdle inside.depth) := by
  have hrun := hinside.after (call.carried_run handle) (hready.acquire ..)
  intro found left
  cases houtcome : (call.run handle).outcome with
  | returned frame =>
      have hcall := Calling.after_result wrapped houtcome hready hrun
      refine ⟨hcall.policy, fun other hother => ?_, fun payload hpayload => ?_⟩
      · cases hother
        exact ⟨(Calling.result_of_returned wrapped houtcome).2, hcall.idleCount⟩
      · cases hpayload
  | unwound payload =>
      have hresult := Calling.result_of_unwound houtcome
      have hleft : left = (call.run handle).world.pool call.registry :=
        congrArg (fun result => result.2.pool call.registry) hresult
      rw [hleft]
      refine ⟨hrun.policy.trans (Pool.policy_acquire ..), fun frame hframe => ?_, ?_⟩
      · cases hframe
      · intro other hother
        cases hother
        exact ⟨congrArg Prod.fst hresult, hrun.idleCount_of_acquire hready⟩

theorem idleCount_after_nested_calls :
    let quiet : Handle Unit Unit := fun _ frame world => ⟨.done, frame, world⟩
    let leaf (world : World Unit Unit) : Calling Unit Unit :=
      ⟨0, ⟨"leaf"⟩, [], .plain .unit fun _ world => (.ok .unit, world), world⟩
    let lost (world : World Unit Unit) : Calling Unit Unit :=
      ⟨0, ⟨"lost"⟩, [], .plain .bool fun _ world => (.ok .unit, ((leaf world).result quiet).2), world⟩
    let ringing : Handle Unit Unit := fun _ frame world =>
      ⟨.done, frame, ((leaf world).result quiet).2⟩
    let start := (World.single ⟨"f"⟩ ⟨[⟨.before, 0, "ring", ()⟩]⟩).setPool 0
      ⟨⟨true, 5, 16, 32⟩, [.blank, .blank]⟩
    let outer (answer : Answer) : Calling Unit Unit := ⟨0, ⟨"f"⟩, [], .fallible .unit fun _ world =>
      (answer, ((leaf ((lost world).result quiet).2).result quiet).2), start⟩
    let answers : List Answer := [.value .unit, .unwound (.ofText "boom")]
    let inside := Calls.call .none (.call (.call .none .none) (.call .none .none))
    ((lost start).result quiet).1 = .error (.missingResult ⟨"lost"⟩) ∧
      (start.pool 0).Ready ∧
      (∀ answer ∈ answers,
        inside.MadeIn Unit Unit 0 (((outer answer).run ringing).stretches (World.pool 0))) ∧
      (((outer (.value .unit)).result ringing).2.pool 0).idleCount = 3 ∧
      (((outer (.unwound (.ofText "boom"))).result ringing).2.pool 0).idleCount = 2 := by
  intro quiet leaf lost ringing start outer answers inside
  let first := (start.acquire 0 ⟨"f"⟩ [] .never).2
  let second := ((leaf first).result quiet).2
  let within := (second.acquire 0 ⟨"lost"⟩ [] .never).2.record (.directCall ⟨"lost"⟩)
  let third := ((lost second).result quiet).2
  let last := ((leaf third).result quiet).2
  have hready : (start.pool 0).Ready := ⟨rfl, by decide⟩
  have hleaf : ∀ (world : World Unit Unit) (rest : Calls) (left : Pool)
      (later : List (Pool × Pool)),
      world.lookup 0 ⟨"leaf"⟩ = .error (.notRegistered ⟨"leaf"⟩) →
      rest.MadeIn Unit Unit 0 ((((leaf world).result quiet).2.pool 0, left) :: later) →
      (Calls.call .none rest).MadeIn Unit Unit 0 ((world.pool 0, left) :: later) := by
    intro world rest left later hlookup hrest
    have hrun : (leaf world).run quiet = _ := Calling.run_of_refusal hlookup
    rw [runDirect_eq] at hrun
    refine .call quiet (leaf world) rfl trivial ?_ ?_ hrest
    · rw [hrun]
      exact ⟨_, rfl⟩
    · rw [hrun]
      exact .next .done
  have hlost : (Calls.call .none .none).MadeIn Unit Unit 0
      (((lost second).run quiet).stretches (World.pool 0)) := by
    have hstretches : ((lost second).run quiet).stretches (World.pool 0) =
        [(within.pool 0, ((leaf within).result quiet).2.pool 0)] := by decide +kernel
    rw [hstretches]
    exact hleaf within _ _ _ (by decide +kernel) (.next .done)
  have hreturned : ∃ frame, ((lost second).run quiet).outcome = .returned frame := by
    have hlookup : second.lookup 0 ⟨"lost"⟩ = .error (.notRegistered ⟨"lost"⟩) := by decide +kernel
    have hrun : (lost second).run quiet = _ := Calling.run_of_refusal hlookup
    rw [hrun, runDirect_eq]
    exact ⟨_, rfl⟩
  have hinside : ∀ answer ∈ answers,
      inside.MadeIn Unit Unit 0 (((outer answer).run ringing).stretches (World.pool 0)) := by
    have hstretches : ∀ answer ∈ answers, ((outer answer).run ringing).stretches (World.pool 0) =
        [(first.pool 0, second.pool 0), (second.pool 0, last.pool 0)] := by decide +kernel
    intro answer hanswer
    rw [hstretches answer hanswer]
    refine hleaf first _ _ _ (by decide +kernel) (.next ?_)
    refine .call quiet (lost second) rfl trivial hreturned hlost ?_
    exact hleaf third _ _ _ (by decide +kernel) (.next .done)
  have hcompleted : ((outer (.value .unit)).run ringing).outcome =
      .returned { Frame.new ⟨"f"⟩ [] .never with results := ⟨[some .unit]⟩ } := by decide +kernel
  have hunwound : ((outer (.unwound (.ofText "boom"))).run ringing).outcome =
      .unwound (.ofText "boom") := by decide +kernel
  obtain ⟨-, hcount, -⟩ := @idleCount_after_calls Unit Unit ringing (outer (.value .unit)) inside
    trivial hready (hinside _ (by simp [answers]))
  obtain ⟨-, -, hcount'⟩ := @idleCount_after_calls Unit Unit ringing
    (outer (.unwound (.ofText "boom"))) inside trivial hready (hinside _ (by simp [answers]))
  exact ⟨by decide +kernel, hready, hinside, (hcount _ hcompleted).2, (hcount' _ hunwound).2⟩

end Intercept
