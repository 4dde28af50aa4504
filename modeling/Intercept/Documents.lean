import Intercept.Json
import Intercept.Json.Forms
import Intercept.World

/-!
# Documents of values, failures, frames and chains

What the parts of a call look like as documents: each is a record with fixed members, and what is
absent is null.
-/

namespace Intercept

def Key.document (key : Key) : Json :=
  .str key.text

def Phase.document (phase : Phase) : Json :=
  .str phase.name

/-- A record of one member, named for the kind. -/
def Value.document (value : Value) : Json :=
  let content : Json :=
    match value with
    | .int32 n => .int n.toInt
    | .int64 n => .int n.toInt
    | .word8 n => .nat n.toNat
    | .word64 n => .nat n.toNat
    | .bool b => .bool b
    | .text s => .str s
    | .constant s => .str s
    | .unit => .null
    | .list items => .arr (items.map fun n => .int n.toInt)
    | .other _ tag => .nat tag
  .obj [(value.kind.name, content)]

def Trail.document (trail : Trail) : Json :=
  .strings trail.messages

/-! ## Failures -/

def Stop.document (stop : Stop) : Json :=
  let phase := ("phase", stop.phase.document)
  let message := ("message", Json.str stop.text)
  match stop with
  | .interrupted _ reason =>
      .obj [("error", .str "Interrupted"), phase, ("reason", .str reason.name), message]
  | .handler _ advice cause =>
      .obj [("error", .str "Handler"), phase, ("advice", .str advice),
        ("chain", cause.document), message]

def Veto.document (veto : Veto) : Json :=
  .obj [("function", veto.function.document), ("phase", veto.phase.document),
    ("source", veto.source.document), ("message", .str veto.text)]

def Payload.document (payload : Payload) : Json :=
  match payload with
  | .value v => v.document
  | .missingResult function =>
      .obj [("missing_result", function.document), ("message", .str (missingResultText function))]
  | .veto v => .obj [("abort", v.document)]

def Registry.Refusal.document (refusal : Registry.Refusal) : Json :=
  .obj [("error", .str refusal.name), ("message", .str refusal.text)]

def Settings.Refusal.document (refusal : Settings.Refusal) : Json :=
  .obj [("error", .str "InvalidValue"),
    ("message", .str (Settings.refusalText refusal.reason))]

def Json.Fault.category : Json.Fault → String
  | .truncated => "Eof"
  | .malformed => "Syntax"
  | .mismatched => "Data"

def Json.Fault.document (fault : Json.Fault) : Json :=
  .obj [("error", .str "Json"), ("category", .str fault.category)]

def Settings.Fault.document : Settings.Fault → Json
  | .json fault => fault.document
  | .refused refusal => refusal.document

/-! ## Frames -/

/-- A signal as it stands at a moment. -/
def Signal.document (signal : Signal) (moment : Moment) : Json :=
  let trip := signal.check moment
  .obj [("never", .bool signal.isNever), ("token", .bool signal.token.isSome),
    ("deadline", .bool signal.deadline.isSome), ("cancelled", .bool trip.isSome),
    ("check", .str ((trip.map Trip.name).getD "ok"))]

def Slots.document (slots : Slots) : Json :=
  .arr (slots.cells.map fun cell => .optional (cell.map Value.document))

def Notes.document (notes : Notes) : Json :=
  .arr (notes.keys.map fun key =>
    .arr [.str key, .optional ((notes.get? key).map Value.document)])

def Frame.document (frame : Frame) (moment : Moment) : Json :=
  .obj [("function", frame.function.document),
    ("args", .arr (frame.args.map Value.document)),
    ("results", frame.results.document),
    ("error", .optional (frame.error.map Trail.document)),
    ("panic", .optional (frame.payload.map Payload.document)),
    ("panic_message", .optional (frame.payload.map fun payload => .str payload.text)),
    ("skipped", .bool frame.skipped),
    ("metadata", frame.notes.document),
    ("signal", frame.signal.document moment)]

/-! ## Chains, pools and events -/

def Advice.document {H : Type} (advice : Advice H) : Json :=
  .obj [("phase", advice.phase.document), ("priority", .int advice.priority),
    ("name", .str advice.name), ("debug", .str advice.outline)]

def Chain.document {H : Type} (chain : Chain H) : Json :=
  .obj [("count", .nat chain.size),
    ("phases", .arr (Phase.all.map fun phase =>
      .arr [phase.document, .nat (chain.bucket phase).length])),
    ("has_around", .bool (!(chain.bucket .around).isEmpty)),
    ("debug", .str chain.outline)]

def Pool.document (pool : Pool) : Json :=
  .obj [("idle", .nat pool.idleCount), ("debug", .str pool.outline),
    ("settings", .str pool.policy.write)]

def Event.document (event : Event) : Json :=
  .obj [("level", .str event.level.name), ("target", .str event.target),
    ("message", .str event.message),
    ("fields", .arr (event.fields.map fun field => .arr [.str field.1, .str field.2]))]

end Intercept
