import Intercept.Documents
import Intercept.Session.Scene

/-!
# Answers to requests

Requests to the current frame, to a registry and to the journal run no scripts.  A request to a frame
changes that frame only; it unwinds when a result slot cannot be set.
-/

namespace Intercept.Session

/-! ## The current frame -/

def FrameRequest.answer (request : FrameRequest) (moment : Moment) (frame : Frame) :
    Except Payload Json × Frame :=
  let shown (answer : Json) : Except Payload Json × Frame := (.ok answer, frame)
  let changed (frame : Frame) : Except Payload Json × Frame := (.ok .null, frame)
  let value (value : Option Value) : Json := .optional (value.map Value.document)
  match request with
  | .function => shown frame.function.document
  | .document => shown (frame.document moment)
  | .outline => shown (.str frame.outline)
  | .signal => shown (frame.signal.document moment)
  | .reset => changed frame.reset
  | .arg i kind => shown (value (frame.arg? i kind))
  | .argCount => shown (.nat frame.args.length)
  | .result i kind => shown (value (frame.results.read? i kind))
  | .takeResult i kind =>
    let (taken, frame) := frame.takeResult i kind
    (.ok (value taken), frame)
  | .hasResult i => shown (.bool (frame.results.get? i).isSome)
  | .resultCount => shown (.nat frame.results.size)
  | .results => shown frame.results.document
  | .setResult i value =>
    match frame.setResult i value with
    | .error refusal => (.error refusal.payload, frame)
    | .ok frame => changed frame
  | .error => shown (.optional (frame.error.map Trail.document))
  | .setError cause => changed (frame.setError cause)
  | .takeError => (.ok (.optional (frame.error.map Trail.document)), frame.clearError)
  | .clearError => changed frame.clearError
  | .wrapError text => (.ok (.bool frame.error.isSome), frame.wrapError text)
  | .hasPayload => shown (.bool frame.payload.isSome)
  | .payload => shown (.optional (frame.payload.map Payload.document))
  | .payloadText => shown (.optional (frame.payload.map fun payload => .str payload.text))
  | .isSkipped => shown (.bool frame.skipped)
  | .setSkipped skipped => changed (frame.setSkipped skipped)
  | .insertNote key content =>
    (.ok (value (frame.notes.get? key)), { frame with notes := frame.notes.insert key content })
  | .note key => shown (value (frame.notes.get? key))
  | .noteAs key kind => shown (value (frame.notes.read? key kind))
  | .removeNote key =>
    (.ok (value (frame.notes.get? key)), { frame with notes := frame.notes.erase key })
  | .hasNote key => shown (.bool (frame.notes.contains key))
  | .noteCount => shown (.nat frame.notes.size)
  | .hasNoNotes => shown (.bool (frame.notes.size == 0))
  | .noteKeys => shown (.strings frame.notes.keys)
  | .notesOutline => shown (.str frame.notes.outline)
  | .clearNotes => changed { frame with notes := .empty }

/-! ## Registries -/

/-- What is shown of a request that a registry has carried out or turned down. -/
def granted (scene : Scene) : Except Registry.Refusal Scene → Json × Scene
  | .error refusal => (refusal.document, scene)
  | .ok scene => (.str "ok", scene)

def RegistryRequest.answer (request : RegistryRequest) (id : RegistryId) (scene : Scene) :
    Json × Scene :=
  let registry := scene.registry id
  match request with
  | .register key => granted scene (scene.register id key)
  | .unregister key => (.null, scene.unregister id key)
  | .clear => (.null, scene.clear id)
  | .isRegistered key => (.bool (registry.contains key), scene)
  | .keys => (.arr (registry.keys.map Key.document), scene)
  | .count => (.nat registry.size, scene)
  | .adviceCount key => (.nat (scene.adviceCount id key), scene)
  | .idleCount => (.nat registry.pool.idleCount, scene)
  | .outline => (.str registry.outline, scene)

/-! ## The journal -/

def JournalRequest.answer (request : JournalRequest) (journal : Journal) : Json × Journal :=
  let shown (answer : Json) : Json × Journal := (answer, journal)
  match request with
  | .mentions level text => shown (.bool (journal.mentions level text))
  | .count level => shown (.nat (journal.atLevel level).length)
  | .withField level name value =>
    shown (.arr ((journal.withField level name value).map Event.document))
  | .field name =>
    shown (.arr (journal.toList.map fun event => .optional ((event.field? name).map .str)))
  | .clear => (.null, .empty)
  | .record event => (.null, journal.record event)

end Intercept.Session
