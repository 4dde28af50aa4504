import Intercept.Signal
import Intercept.Slots
import Intercept.Notes

/-!
# Call frames

The state of one call, passed from handler to target to handler: whom is called with what, the result
slots, the error left by the target or by advice, the payload of an unwinding call, the skip flag, the
notes and the signal.
-/

namespace Intercept

structure Frame where
  function : Key
  args : List Value
  results : Slots
  error : Option Trail
  payload : Option Payload
  skipped : Bool
  notes : Notes
  signal : Signal
  deriving DecidableEq

namespace Frame

def new (function : Key) (args : List Value) (signal : Signal) : Frame :=
  { function, args, signal
    results := .empty
    error := none
    payload := none
    skipped := false
    notes := .empty }

/-- The frame of no call. -/
def blank : Frame :=
  new .empty [] .never

def reset (frame : Frame) : Frame :=
  { frame with
    function := .empty
    args := []
    results := .empty
    error := none
    payload := none
    skipped := false
    notes := .empty
    signal := .never }

/-- Replaces the results and the notes of a frame that holds more of them than it may keep room for.
Slots are counted where the room taken up by them is meant; a pool resets the frame that it has shrunk,
so that no frame shows the difference. -/
def shrink (frame : Frame) (maxResults maxNotes : Nat) : Frame :=
  { frame with
    results := if maxResults < frame.results.size then .empty else frame.results
    notes := if maxNotes < frame.notes.size then .empty else frame.notes }

/-- Gives a reset frame the identity of a new call. -/
def prepare (frame : Frame) (function : Key) (args : List Value) (signal : Signal) : Frame :=
  { frame with function, args, signal }

def arg? (frame : Frame) (i : Nat) (kind : Kind) : Option Value :=
  frame.args[i]?.bind (Value.as? kind)

def setResult (frame : Frame) (i : Nat) (value : Value) : Except Slots.Refusal Frame :=
  match frame.results.set i value with
  | .error refusal => .error refusal
  | .ok results => .ok { frame with results }

def takeResult (frame : Frame) (i : Nat) (kind : Kind) : Option Value × Frame :=
  let (value, results) := frame.results.take i kind
  (value, { frame with results })

def setError (frame : Frame) (error : Trail) : Frame :=
  { frame with error := some error }

def clearError (frame : Frame) : Frame :=
  { frame with error := none }

/-- Puts a context in front of the error, if there is one. -/
def wrapError (frame : Frame) (text : String) : Frame :=
  { frame with error := frame.error.map (.context text) }

def setPayload (frame : Frame) (payload : Payload) : Frame :=
  { frame with payload := some payload }

def setSkipped (frame : Frame) (skipped : Bool) : Frame :=
  { frame with skipped }

/-- Neither an error nor a payload is left in the frame. -/
def isClean (frame : Frame) : Bool :=
  frame.error.isNone && frame.payload.isNone

def outline (frame : Frame) : String :=
  Text.record "Context"
    [("function", frame.function.outline),
      ("args", Nat.repr frame.args.length),
      ("results", Nat.repr frame.results.size),
      ("error", Text.optional (frame.error.map fun error => Text.quoted error.text)),
      ("panic", Text.optional (frame.payload.map fun payload => Text.quoted payload.text)),
      ("skipped", Text.boolean frame.skipped),
      ("metadata", frame.notes.outline)]

@[simp] theorem reset_eq_blank (frame : Frame) : frame.reset = blank := rfl

@[simp] theorem prepare_blank (function : Key) (args : List Value) (signal : Signal) :
    blank.prepare function args signal = new function args signal := rfl

theorem isClean_iff (frame : Frame) :
    frame.isClean = true ↔ frame.error = none ∧ frame.payload = none := by
  simp [isClean]

end Frame

end Intercept
