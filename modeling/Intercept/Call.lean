import Intercept.Call.PhaseRun
import Intercept.Registration

/-!
# Calls

A call of a key without advice runs its target directly.  A call under advice goes through stages:

1. the Before phase; if it stops or unwinds, the target is not reached;
2. the Around phase, if the chain holds Around advice by then; it may also have the target skipped;
3. the target;
4. AfterReturning, if the frame then holds neither an error nor a payload, or AfterThrowing, if the
   call is unwinding;
5. After, always.

A stopped gatekeeper raises a veto, which unwinds the call like a target that unwinds.  The payload
lies in the frame while AfterThrowing and After run, and the call unwinds with what they leave there.
-/

namespace Intercept

/-- A part of a call with the frame and the world it was given and what it left. -/
inductive Stage (H U : Type) where
  | phase (phase : Phase) (frame : Frame) (world : World H U) (run : PhaseRun H U)
  | target (frame : Frame) (world : World H U) (landing : Landing H U)

/-- How far a call has come: the stages behind it, its frame and the world. -/
structure Progress (H U : Type) where
  stages : List (Stage H U)
  frame : Frame
  world : World H U

inductive Verdict where
  | completed
  | vetoed (veto : Veto)
  | unwound (payload : Payload)
  deriving DecidableEq

inductive Outcome where
  | returned (frame : Frame)
  | unwound (payload : Payload)
  deriving DecidableEq

structure CallRun (H U : Type) where
  stages : List (Stage H U)
  outcome : Outcome
  world : World H U

variable {H U : Type}

namespace Progress

def record (progress : Progress H U) (event : Event) : Progress H U :=
  { progress with world := progress.world.record event }

def pass (progress : Progress H U) (phase : Phase) (run : PhaseRun H U) : Progress H U :=
  ⟨progress.stages ++ [.phase phase progress.frame progress.world run], run.frame, run.world⟩

def watch (handle : Handle H U) (chain : ChainId) (phase : Phase) (progress : Progress H U) :
    Progress H U :=
  progress.pass phase (watchPhase handle chain phase progress.frame progress.world)

def watchReturn (handle : Handle H U) (chain : ChainId) (progress : Progress H U) :
    Progress H U :=
  if progress.frame.isClean then progress.watch handle chain .afterReturning else progress

def land (target : Target H U) (progress : Progress H U) : Option Payload × Progress H U :=
  let landing := target progress.frame progress.world
  (landing.payload,
    ⟨progress.stages ++ [.target progress.frame progress.world landing],
      landing.frame, landing.world⟩)

end Progress

/-- A gatekeeper phase.  Its veto names the function that the frame names by then. -/
def runGate (handle : Handle H U) (chain : ChainId) (phase : Phase) (progress : Progress H U) :
    Verdict × Progress H U :=
  let run := runPhase handle chain phase progress.frame progress.world
  let verdict : Verdict :=
    match run.ending with
    | .passed => .completed
    | .stopped stop => .vetoed ⟨run.frame.function, phase, stop⟩
    | .unwound payload => .unwound payload
  (verdict, progress.pass phase run)

def runTarget (handle : Handle H U) (chain : ChainId) (target : Target H U)
    (progress : Progress H U) : Verdict × Progress H U :=
  match progress.land target with
  | (some payload, progress) => (.unwound payload, progress)
  | (none, progress) => (.completed, progress.watchReturn handle chain)

def runUnlessSkipped (handle : Handle H U) (chain : ChainId) (target : Target H U)
    (progress : Progress H U) : Verdict × Progress H U :=
  if progress.frame.skipped then
    let progress := progress.record (.targetSkipped progress.frame.function)
    (.completed, progress.watchReturn handle chain)
  else runTarget handle chain target progress

/-- Stages 1 to 3, and AfterReturning. -/
def runGuarded (handle : Handle H U) (chain : ChainId) (target : Target H U)
    (progress : Progress H U) : Verdict × Progress H U :=
  match runGate handle chain .before progress with
  | (.completed, progress) =>
    if ((progress.world.chain chain).bucket .around).isEmpty then
      runTarget handle chain target progress
    else
      match runGate handle chain .around progress with
      | (.completed, progress) => runUnlessSkipped handle chain target progress
      | stopped => stopped
  | stopped => stopped

def finish (progress : Progress H U) : CallRun H U :=
  ⟨progress.stages, .returned progress.frame, progress.world⟩

/-- AfterThrowing and After see the payload; the one they leave in the frame goes on. -/
def unwind (handle : Handle H U) (chain : ChainId) (payload : Payload) (progress : Progress H U) :
    CallRun H U :=
  let progress := { progress with frame := progress.frame.setPayload payload }
  let progress := (progress.watch handle chain .afterThrowing).watch handle chain .after
  match progress.frame.payload with
  | some payload => ⟨progress.stages, .unwound payload, progress.world⟩
  | none => finish progress

/-- A call under advice; `key` is the key that was called, whatever the frame names meanwhile. -/
def runAdvised (handle : Handle H U) (chain : ChainId) (key : Key) (target : Target H U)
    (frame : Frame) (world : World H U) : CallRun H U :=
  match runGuarded handle chain target ⟨[], frame, world⟩ with
  | (.completed, progress) => finish (progress.watch handle chain .after)
  | (.vetoed veto, progress) =>
    unwind handle chain (.veto veto) (progress.record (.callVetoed key veto))
  | (.unwound payload, progress) => unwind handle chain payload progress

def runDirect (key : Key) (target : Target H U) (frame : Frame) (world : World H U) :
    CallRun H U :=
  let progress : Progress H U := ⟨[], frame, world.record (.directCall key)⟩
  match progress.land target with
  | (some payload, progress) => ⟨progress.stages, .unwound payload, progress.world⟩
  | (none, progress) => finish progress

/-- Calls `key` of a registry.  The frame comes from the registry's pool, before the key is looked up,
and is handed to the caller if the call returns. -/
def invoke (handle : Handle H U) (registry : RegistryId) (key : Key) (args : List Value)
    (signal : Signal) (target : Target H U) (world : World H U) : CallRun H U :=
  let (frame, world) := world.acquire registry key args signal
  match world.lookup registry key with
  | .error _ => runDirect key target frame world
  | .ok chain => runAdvised handle chain key target frame world

end Intercept
