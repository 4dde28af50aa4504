import Intercept.Phase
import Intercept.Trail
import Intercept.Value

/-!
# How calls fail

Why a signal trips, why a phase stops, the veto that a stopped gatekeeper raises, and the payloads
that travel with an unwinding call.  Each cause has one text and a list of source texts, from the
nearest cause to the root.
-/

namespace Intercept

/-! ## Tripped signals -/

inductive Trip where
  | cancelled
  | deadlineExceeded
  deriving DecidableEq, Repr

namespace Trip

def text : Trip → String
  | .cancelled => "operation cancelled"
  | .deadlineExceeded => "deadline exceeded"

def name : Trip → String
  | .cancelled => "Cancelled"
  | .deadlineExceeded => "DeadlineExceeded"

end Trip

/-! ## Stopped phases -/

inductive Stop where
  | interrupted (phase : Phase) (reason : Trip)
  | handler (phase : Phase) (advice : String) (cause : Trail)
  deriving DecidableEq, Repr

namespace Stop

def phase : Stop → Phase
  | .interrupted phase _ => phase
  | .handler phase _ _ => phase

def isInterrupted : Stop → Bool
  | .interrupted _ _ => true
  | .handler _ _ _ => false

def text : Stop → String
  | .interrupted phase reason => phase.name ++ " phase interrupted: " ++ reason.text
  | .handler phase advice cause =>
      phase.name ++ " advice '" ++ advice ++ "' failed: " ++ cause.text

def sources : Stop → List String
  | .interrupted _ reason => [reason.text]
  | .handler _ _ cause => cause.messages

end Stop

/-! ## Vetoes and payloads -/

structure Veto where
  function : Key
  phase : Phase
  source : Stop
  deriving DecidableEq, Repr

namespace Veto

def text (veto : Veto) : String :=
  veto.phase.name ++ " advice aborted call to '" ++ veto.function.text ++ "': " ++ veto.source.text

def sources (veto : Veto) : List String :=
  veto.source.text :: veto.source.sources

end Veto

/-- What an unwinding call carries. -/
inductive Payload where
  | value (value : Value)
  | missingResult (function : Key)
  | veto (veto : Veto)
  deriving DecidableEq

namespace Payload

def opaqueText : String :=
  "<non-string panic payload>"

/-- Texts and vetoes speak for themselves; other payloads have no text of their own. -/
def text : Payload → String
  | .value v => v.text?.getD opaqueText
  | .missingResult _ => opaqueText
  | .veto v => v.text

def ofText (text : String) : Payload :=
  .value (.constant text)

end Payload

/-- How a handler ends. -/
inductive Exit where
  | done
  | failed (cause : Trail)
  | unwound (payload : Payload)
  deriving DecidableEq

end Intercept
