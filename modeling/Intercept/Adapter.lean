import Intercept.Call

/-!
# Functions under advice

A plain function becomes a function of the same shape whose calls go through the advice of a key.  The
result travels in slot 0.  A function that cannot fail unwinds when the call leaves no result of its
kind; one that can fail answers with an error then, and an error left in the frame comes first.
-/

namespace Intercept

abbrev PlainFunction (H U : Type) := List Value → World H U → Except Payload Value × World H U

inductive Answer where
  | value (value : Value)
  | failed (cause : Trail)
  | unwound (payload : Payload)
  deriving DecidableEq

abbrev FallibleFunction (H U : Type) := List Value → World H U → Answer × World H U

variable {H U : Type}

namespace PlainFunction

def target (function : PlainFunction H U) (args : List Value) : Target H U := fun frame world =>
  match function args world with
  | (.error payload, world) => ⟨some payload, frame, world⟩
  | (.ok value, world) => .ofResult 0 value frame world

/-- Takes the result of the kind asked for and gives the frame back to the pool. -/
def settle (registry : RegistryId) (kind : Kind) (run : CallRun H U) :
    Except Payload Value × World H U :=
  match run.outcome with
  | .unwound payload => (.error payload, run.world)
  | .returned frame =>
    let (result, frame) := frame.takeResult 0 kind
    let world := run.world.recycle registry frame
    match result with
    | some value => (.ok value, world)
    | none => (.error (.missingResult frame.function), world)

def wrap (handle : Handle H U) (registry : RegistryId) (key : Key) (kind : Kind)
    (function : PlainFunction H U) : PlainFunction H U := fun args world =>
  settle registry kind (invoke handle registry key args .never (function.target args) world)

def fallible (function : PlainFunction H U) : FallibleFunction H U := fun args world =>
  match function args world with
  | (.ok value, world) => (.value value, world)
  | (.error payload, world) => (.unwound payload, world)

end PlainFunction

namespace FallibleFunction

def target (function : FallibleFunction H U) (args : List Value) : Target H U :=
  fun frame world =>
    match function args world with
    | (.value value, world) => .ofResult 0 value frame world
    | (.failed cause, world) => ⟨none, frame.setError cause, world⟩
    | (.unwound payload, world) => ⟨some payload, frame, world⟩

/-- An error comes before any result; the frame goes back to the pool either way. -/
def settle (registry : RegistryId) (kind : Kind) (run : CallRun H U) : Answer × World H U :=
  match run.outcome with
  | .unwound payload => (.unwound payload, run.world)
  | .returned frame =>
    match frame.error with
    | some cause => (.failed cause, run.world.recycle registry frame.clearError)
    | none =>
      let (result, frame) := frame.takeResult 0 kind
      let world := run.world.recycle registry frame
      match result with
      | some value => (.value value, world)
      | none => (.failed (.missingResult frame.function), world)

def wrap (handle : Handle H U) (registry : RegistryId) (key : Key) (kind : Kind)
    (function : FallibleFunction H U) : FallibleFunction H U := fun args world =>
  settle registry kind (invoke handle registry key args .never (function.target args) world)

end FallibleFunction

/-! ## What a wrapper makes of a call -/

/-- A frame that goes back to its pool leaves nothing there but itself. -/
theorem World.recycle_eq (world : World H U) (registry : RegistryId) (frame other : Frame) :
    world.recycle registry frame = world.recycle registry other := by
  simp only [recycle, Pool.release, Frame.reset_eq_blank]

section

variable {registry : RegistryId} {kind : Kind} {run : CallRun H U} {last : Frame}
  {payload : Payload}

namespace PlainFunction

theorem settle_of_unwound (h : run.outcome = .unwound payload) :
    settle registry kind run = (.error payload, run.world) := by
  simp only [settle, h]

theorem settle_of_returned (h : run.outcome = .returned last) :
    settle registry kind run =
      (match (last.takeResult 0 kind).1 with
        | some value => .ok value
        | none => .error (.missingResult last.function),
      run.world.recycle registry .blank) := by
  have hworld := run.world.recycle_eq registry (last.takeResult 0 kind).2 .blank
  simp only [settle, h, hworld]
  cases (last.takeResult 0 kind).1 <;> rfl

end PlainFunction

namespace FallibleFunction

theorem settle_of_unwound (h : run.outcome = .unwound payload) :
    settle registry kind run = (.unwound payload, run.world) := by
  simp only [settle, h]

theorem settle_of_returned (h : run.outcome = .returned last) :
    settle registry kind run =
      (match last.error, (last.takeResult 0 kind).1 with
        | some cause, _ => .failed cause
        | none, some value => .value value
        | none, none => .failed (.missingResult last.function),
      run.world.recycle registry .blank) := by
  have hworld := run.world.recycle_eq registry (last.takeResult 0 kind).2 .blank
  have hworld' := run.world.recycle_eq registry last.clearError .blank
  simp only [settle, h, hworld, hworld']
  cases last.error with
  | some cause => rfl
  | none => cases (last.takeResult 0 kind).1 <;> rfl

end FallibleFunction

end

end Intercept
