import Intercept.Proofs.Call.Guarded

/-!
# Closing a call

Behind the guarded part a call that raises nothing runs After and returns its frame.  Any other puts
the raised payload into the frame, runs AfterThrowing and After, and ends by what these leave in the
frame.  A call of a registered key is a call under the advice of its chain; a call of any other key is
its target alone.
-/

namespace Intercept

variable {H U : Type}

/-! ## Progress behind the guarded part -/

namespace Progress

def announce (key : Key) (verdict : Verdict) (progress : Progress H U) : Progress H U :=
  match verdict with
  | .vetoed veto => progress.record (.callVetoed key veto)
  | _ => progress

def raise (payload : Payload) (progress : Progress H U) : Progress H U :=
  { progress with frame := progress.frame.setPayload payload }

@[simp] theorem stages_announce (key : Key) (verdict : Verdict) (progress : Progress H U) :
    (progress.announce key verdict).stages = progress.stages := by
  cases verdict <;> rfl

@[simp] theorem frame_announce (key : Key) (verdict : Verdict) (progress : Progress H U) :
    (progress.announce key verdict).frame = progress.frame := by
  cases verdict <;> rfl

@[simp] theorem stages_raise (payload : Payload) (progress : Progress H U) :
    (progress.raise payload).stages = progress.stages := rfl

@[simp] theorem frame_raise (payload : Payload) (progress : Progress H U) :
    (progress.raise payload).frame = progress.frame.setPayload payload := rfl

@[simp] theorem stages_watch (handle : Handle H U) (chain : ChainId) (phase : Phase)
    (progress : Progress H U) :
    (progress.watch handle chain phase).stages = progress.stages ++
      [.phase phase progress.frame progress.world
        (watchPhase handle chain phase progress.frame progress.world)] := rfl

@[simp] theorem frame_watch (handle : Handle H U) (chain : ChainId) (phase : Phase)
    (progress : Progress H U) :
    (progress.watch handle chain phase).frame =
      (watchPhase handle chain phase progress.frame progress.world).frame := rfl

@[simp] theorem world_watch (handle : Handle H U) (chain : ChainId) (phase : Phase)
    (progress : Progress H U) :
    (progress.watch handle chain phase).world =
      (watchPhase handle chain phase progress.frame progress.world).world := rfl

/-- AfterThrowing and After of a call that `payload` is raised against. -/
def throwWith (handle : Handle H U) (chain : ChainId) (payload : Payload)
    (progress : Progress H U) : Progress H U :=
  ((progress.raise payload).watch handle chain .afterThrowing).watch handle chain .after

end Progress

/-! ## How calls end -/

/-- How an unwinding call ends whose observers leave this frame. -/
def Outcome.ofFrame (frame : Frame) : Outcome :=
  match frame.payload with
  | some payload => .unwound payload
  | none => .returned frame

theorem Outcome.ofFrame_eq_unwound_iff {frame : Frame} {payload : Payload} :
    ofFrame frame = .unwound payload ↔ frame.payload = some payload := by
  cases h : frame.payload <;> simp [ofFrame, h]

theorem Outcome.ofFrame_eq_returned_iff {frame other : Frame} :
    ofFrame frame = .returned other ↔ frame.payload = none ∧ frame = other := by
  cases h : frame.payload <;> simp [ofFrame, h]

theorem unwind_eq (handle : Handle H U) (chain : ChainId) (payload : Payload)
    (progress : Progress H U) :
    unwind handle chain payload progress =
      ⟨(progress.throwWith handle chain payload).stages,
        .ofFrame (progress.throwWith handle chain payload).frame,
        (progress.throwWith handle chain payload).world⟩ := by
  have hunwind : unwind handle chain payload progress =
      match (progress.throwWith handle chain payload).frame.payload with
      | some left =>
          ⟨(progress.throwWith handle chain payload).stages, .unwound left,
            (progress.throwWith handle chain payload).world⟩
      | none => finish (progress.throwWith handle chain payload) := rfl
  rw [hunwind, Outcome.ofFrame]
  cases (progress.throwWith handle chain payload).frame.payload <;> rfl

theorem runAdvised_of_completed {handle : Handle H U} {chain : ChainId} {target : Target H U}
    {frame : Frame} {world : World H U} {progress : Progress H U} (key : Key)
    (h : runGuarded handle chain target ⟨[], frame, world⟩ = (.completed, progress)) :
    runAdvised handle chain key target frame world =
      finish (progress.watch handle chain .after) := by
  rw [runAdvised, h]

theorem runAdvised_of_raised {handle : Handle H U} {chain : ChainId} {target : Target H U}
    {frame : Frame} {world : World H U} {verdict : Verdict} {progress : Progress H U}
    {payload : Payload} (key : Key)
    (h : runGuarded handle chain target ⟨[], frame, world⟩ = (verdict, progress))
    (hraised : verdict.raised? = some payload) :
    runAdvised handle chain key target frame world =
      unwind handle chain payload (progress.announce key verdict) := by
  rw [runAdvised, h]
  cases verdict with
  | completed => cases hraised
  | vetoed veto => cases hraised; rfl
  | unwound raised => cases hraised; rfl

inductive Closed (handle : Handle H U) (chain : ChainId) (key : Key) :
    Verdict × Progress H U → CallRun H U → Prop
  | completed (progress : Progress H U) :
      Closed handle chain key (.completed, progress) (finish (progress.watch handle chain .after))
  | raised {verdict : Verdict} {payload : Payload} (progress : Progress H U)
      (hraised : verdict.raised? = some payload) :
      Closed handle chain key (verdict, progress)
        (unwind handle chain payload (progress.announce key verdict))

theorem closed_runAdvised (handle : Handle H U) (chain : ChainId) (key : Key)
    (target : Target H U) (frame : Frame) (world : World H U) :
    Closed handle chain key (runGuarded handle chain target ⟨[], frame, world⟩)
      (runAdvised handle chain key target frame world) := by
  rcases hrun : runGuarded handle chain target ⟨[], frame, world⟩ with ⟨verdict, progress⟩
  cases hraised : verdict.raised? with
  | none =>
      have hverdict : verdict = .completed := verdict.raised?_eq_none_iff.mp hraised
      subst hverdict
      rw [runAdvised_of_completed key hrun]
      exact .completed progress
  | some payload =>
      rw [runAdvised_of_raised key hrun hraised]
      exact .raised progress hraised

theorem Progress.mem_watchReturn {handle : Handle H U} {chain : ChainId} {progress : Progress H U}
    {stage : Stage H U} (h : stage ∈ progress.stages) :
    stage ∈ (progress.watchReturn handle chain).stages := by
  rw [watchReturn]
  split
  · exact List.mem_append_left _ h
  · exact h

theorem mem_runAdvised {handle : Handle H U} {chain : ChainId} {target : Target H U} {frame : Frame}
    {world : World H U} {verdict : Verdict} {core : Progress H U} {stage : Stage H U}
    (hcore : runGuarded handle chain target ⟨[], frame, world⟩ = (verdict, core))
    (h : stage ∈ core.stages) (key : Key) :
    stage ∈ (runAdvised handle chain key target frame world).stages := by
  have hclosed := closed_runAdvised handle chain key target frame world
  rw [hcore] at hclosed
  generalize runAdvised handle chain key target frame world = run at hclosed ⊢
  cases hclosed with
  | completed progress => exact List.mem_append_left _ h
  | raised progress hraised =>
      simp only [unwind_eq, Progress.throwWith, Progress.stages_watch, Progress.stages_raise,
        Progress.stages_announce, List.mem_append]
      exact .inl (.inl h)

/-! ## Calls of registered keys -/

@[simp] theorem World.lookup_acquire (world : World H U) (id other : RegistryId)
    (function key : Key) (args : List Value) (signal : Signal) :
    (world.acquire id function args signal).2.lookup other key = world.lookup other key := by
  by_cases h : other = id
  · subst h
    simp [World.lookup, World.acquire, World.setPool, World.registry_setRegistry, Registry.find?]
  · simp [World.lookup, World.acquire, World.setPool, World.registry_setRegistry, h]

theorem invoke_of_lookup {world : World H U} {registry : RegistryId} {key : Key}
    {chain : ChainId} (h : world.lookup registry key = .ok chain) (handle : Handle H U)
    (args : List Value) (signal : Signal) (target : Target H U) :
    invoke handle registry key args signal target world =
      runAdvised handle chain key target (.new key args signal)
        (world.acquire registry key args signal).2 := by
  have hlookup := (world.lookup_acquire registry registry key key args signal).trans h
  simp only [invoke, hlookup, World.acquire_fst]

/-! ## Calls of keys without advice -/

def Landing.outcome (landing : Landing H U) : Outcome :=
  match landing.payload with
  | some payload => .unwound payload
  | none => .returned landing.frame

theorem runDirect_eq (key : Key) (target : Target H U) (frame : Frame) (world : World H U) :
    runDirect key target frame world =
      let found := world.record (.directCall key)
      let landing := target frame found
      ⟨[.target frame found landing], landing.outcome, landing.world⟩ := by
  simp only [runDirect, Progress.land, Landing.outcome]
  cases (target frame (world.record (.directCall key))).payload <;> rfl

theorem invoke_of_refusal {world : World H U} {registry : RegistryId} {key : Key}
    {refusal : Registry.Refusal} (h : world.lookup registry key = .error refusal)
    (handle : Handle H U) (args : List Value) (signal : Signal) (target : Target H U) :
    invoke handle registry key args signal target world =
      runDirect key target (.new key args signal)
        (world.acquire registry key args signal).2 := by
  have hlookup := (world.lookup_acquire registry registry key key args signal).trans h
  simp only [invoke, hlookup, World.acquire_fst]

end Intercept
