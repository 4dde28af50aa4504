import Intercept.Session.Requests

/-!
# Running scripts

An action is carried out on the current frame, if there is one, and the scene.  It answers with a
document, fails with an error or unwinds, and leaves frame and scene as they are then.  A script stops
at its first action that fails or unwinds; each action before it is transcribed.

A script can stand in for a handler, for the target of a call and for a function under advice.  How a
single action is carried out is left open here: `Act`.
-/

namespace Intercept.Session

/-- How an action ended. -/
inductive Reply where
  | answered (answer : Json)
  | failed (cause : Trail)
  | unwound (payload : Payload)

structure Turn where
  reply : Reply
  frame : Option Frame
  scene : Scene

abbrev Act := Action → Option Frame → Scene → Turn

structure ScriptRun where
  exit : Exit
  frame : Option Frame
  scene : Scene

def runScript (act : Act) : Script → Option Frame → Scene → ScriptRun
  | [], frame, scene => ⟨.done, frame, scene⟩
  | (label, action) :: script, frame, scene =>
    let turn := act action frame scene
    match turn.reply with
    | .answered answer => runScript act script turn.frame (turn.scene.transcribe label answer)
    | .failed cause => ⟨.failed cause, turn.frame, turn.scene⟩
    | .unwound payload => ⟨.unwound payload, turn.frame, turn.scene⟩

/-! ## Scripts as handlers, targets and functions -/

def handle (act : Act) : Handle Script Desk := fun script frame scene =>
  let run := runScript act script (some frame) scene
  ⟨run.exit, run.frame.getD frame, run.scene⟩

/-- A script that fails as a target leaves its error in the frame. -/
def target (act : Act) (script : Script) : Target Script Desk := fun frame scene =>
  let run := runScript act script (some frame) scene
  let frame := run.frame.getD frame
  match run.exit with
  | .done => ⟨none, frame, run.scene⟩
  | .failed cause => ⟨none, frame.setError cause, run.scene⟩
  | .unwound payload => ⟨some payload, frame, run.scene⟩

def addend : Value → Int64
  | .int64 n => n
  | .text s => Int64.ofNat s.utf8ByteSize
  | _ => 0

def spelling : Value → String
  | .int64 n => Text.integer n.toInt
  | .text s => s
  | _ => ""

/-- Words are added with wrapping, texts joined; the other kind of argument counts by its length or
by its digits. -/
def combine (kind : Kind) (args : List Value) : Value :=
  if kind = .text then .text (String.join (args.map spelling))
  else .int64 ((args.map addend).foldl (· + ·) 0)

def Shape.value (shape : Shape) (args : List Value) : Value :=
  match shape.yield with
  | .fixed value => value
  | .combined => combine shape.resultKind args

/-- A function that may fail fails with its script. -/
def fallibleFunction (act : Act) (function : Wrapped) : FallibleFunction Script Desk :=
  fun args scene =>
    let run := runScript act function.body none scene
    match run.exit with
    | .done => (.value (function.shape.value args), run.scene)
    | .failed cause => (.failed cause, run.scene)
    | .unwound payload => (.unwound payload, run.scene)

/-- A function that may not fail unwinds with the text of the error instead. -/
def plainFunction (act : Act) (function : Wrapped) : PlainFunction Script Desk :=
  fun args scene =>
    let run := runScript act function.body none scene
    match run.exit with
    | .done => (.ok (function.shape.value args), run.scene)
    | .failed cause => (.error (.value (.text cause.text)), run.scene)
    | .unwound payload => (.error payload, run.scene)

end Intercept.Session
