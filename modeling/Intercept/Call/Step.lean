import Intercept.World

/-!
# Steps of a call

A handler and a target take the frame and the world and leave both, however they end: what they
changed before failing or unwinding stays changed.
-/

namespace Intercept

structure Step (H U : Type) where
  exit : Exit
  frame : Frame
  world : World H U

abbrev Handle (H U : Type) := H → Frame → World H U → Step H U

/-- What a target left, and the payload if it unwound. -/
structure Landing (H U : Type) where
  payload : Option Payload
  frame : Frame
  world : World H U

abbrev Target (H U : Type) := Frame → World H U → Landing H U

structure Visit (H U : Type) where
  advice : Advice H
  frame : Frame
  world : World H U
  step : Step H U

namespace Slots.Refusal

/-- A slot that cannot be set unwinds. -/
def payload (refusal : Slots.Refusal) : Payload :=
  match refusal with
  | .outOfRange _ => .value (.text refusal.text)
  | .tooMany => .ofText refusal.text

end Slots.Refusal

namespace Landing

variable {H U : Type}

def ofResult (i : Nat) (value : Value) (frame : Frame) (world : World H U) : Landing H U :=
  match frame.setResult i value with
  | .error refusal => ⟨some refusal.payload, frame, world⟩
  | .ok frame => ⟨none, frame, world⟩

end Landing

end Intercept
