import Intercept.Chain
import Intercept.Journal
import Intercept.Json
import Intercept.Settings

/-!
# Actions

A session is a list of actions.  Actions that carry scripts make handlers, targets and wrapped
functions out of further actions; the requests to registries, to the journal and to the current frame
carry none.  Objects of a session are known by name.
-/

namespace Intercept.Session

/-- A signal to be made: a token or none, then deadlines, each so long after the present. -/
structure SignalPlan where
  token : Option Token
  timeouts : List Nat
  deriving DecidableEq, Repr

structure FramePlan where
  function : Key
  args : List Value
  signal : SignalPlan
  deriving DecidableEq

inductive SettingsSource where
  | text (json : String)
  | policy (policy : Policy)
  deriving DecidableEq, Repr

inductive RegistryRequest where
  | register (key : Key)
  | unregister (key : Key)
  | clear
  | isRegistered (key : Key)
  | keys
  | count
  | adviceCount (key : Key)
  | idleCount
  | outline
  deriving DecidableEq, Repr

inductive JournalRequest where
  | mentions (level : Level) (text : String)
  | count (level : Level)
  | withField (level : Level) (name value : String)
  | field (name : String)
  | clear
  | record (event : Event)
  deriving DecidableEq, Repr

inductive FrameRequest where
  | function
  | document
  | outline
  | signal
  | reset
  | arg (i : Nat) (kind : Kind)
  | argCount
  | result (i : Nat) (kind : Kind)
  | takeResult (i : Nat) (kind : Kind)
  | hasResult (i : Nat)
  | resultCount
  | results
  | setResult (i : Nat) (value : Value)
  | error
  | setError (cause : Trail)
  | takeError
  | clearError
  | wrapError (text : String)
  | hasPayload
  | payload
  | payloadText
  | isSkipped
  | setSkipped (skipped : Bool)
  | insertNote (key : String) (value : Value)
  | note (key : String)
  | noteAs (key : String) (kind : Kind)
  | removeNote (key : String)
  | hasNote (key : String)
  | noteCount
  | hasNoNotes
  | noteKeys
  | notesOutline
  | clearNotes
  deriving DecidableEq

/-- What a condition asks of the answer it gets. -/
inductive Test where
  | agrees (other : Json)
  | isBelow (bound : Json)

namespace Test

def holds : Test → Json → Bool
  | .agrees other, answer => answer.agrees other
  | .isBelow bound, answer => answer.isBelow bound

end Test

/-- The value of a plain function: always the same one, or made of the arguments. -/
inductive Yield where
  | fixed (value : Value)
  | combined
  deriving DecidableEq

structure Shape where
  key : Key
  arity : Nat
  fallible : Bool
  argKind : Kind
  resultKind : Kind
  yield : Yield
  deriving DecidableEq

/-- What becomes of the frame that a call returns. -/
structure Disposal where
  keepAs : Option String
  recycle : Bool
  deriving DecidableEq, Repr

/-- Each action of a script stands under the label that the transcript shows for it. -/
inductive Action where
  | log (tag : String)
  | fail (cause : Trail)
  | unwind (payload : Payload)
  | cancel (token : Token)
  | increment (counter : String)
  | branch (condition : Action) (test : Test) (yes no : List (String × Action))
  | newRegistry (name : String) (source : SettingsSource)
  | registry (name : String) (request : RegistryRequest)
  | addAdvice (registry : String) (key : Key) (advice : Advice (List (String × Action)))
  | obtain (registry : String) (key : Key) (keepAs : Option String)
  | lookup (registry : String) (key : Key) (keepAs : Option String)
  | build (registry : Option String) (key : Key) (advice : List (Advice (List (String × Action))))
  | newChain (name : String)
  | addToChain (chain : String) (advice : Advice (List (String × Action)))
  | chain (name : String)
  | sameChain (chain other : String)
  | bucket (chain : String) (phase : Phase)
  | runPhase (chain : String) (phase : Phase) (frame : Option String)
  | invoke (registry : String) (plan : FramePlan) (target : List (String × Action))
      (disposal : Disposal) (catches : Bool)
  | wrap (name : String) (registry : String) (shape : Shape) (body : List (String × Action))
  | call (function : String) (args : List Value) (catches propagates : Bool)
  | newPool (name : String) (policy : Policy)
  | pool (name : String)
  | acquire (pool : String) (name : String) (plan : FramePlan)
  | release (pool : String) (frame : String)
  | recycle (registry : String) (frame : String)
  | newFrame (name : String) (plan : FramePlan)
  | inFrame (frame : String) (script : List (String × Action))
  | showFrame (frame : String)
  | dropFrame (frame : String)
  | stash (name : String)
  | unstash (name : String)
  | journal (request : JournalRequest)
  | frame (request : FrameRequest)

abbrev Script := List (String × Action)

end Intercept.Session
