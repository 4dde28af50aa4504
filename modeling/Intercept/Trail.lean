import Intercept.Key

/-!
# Error trails

An error is a trail of messages: each context added to it stands in front of what it was before.  The
root is a plain message, or the report that a call left no result of the expected type, which stays
recognisable under any contexts.
-/

namespace Intercept

/-- A call of `function` ended without a result of the expected type. -/
def missingResultText (function : Key) : String :=
  "call to '" ++ function.text ++ "' produced no result of the expected type"

def missingResultOutline (function : Key) : String :=
  Text.record "MissingResult" [("function", function.outline)]

inductive Trail where
  | message (text : String)
  | missingResult (function : Key)
  | context (text : String) (cause : Trail)
  deriving DecidableEq, Repr

namespace Trail

/-- From the outermost message to the root. -/
def messages : Trail → List String
  | .message text => [text]
  | .missingResult function => [missingResultText function]
  | .context text cause => text :: cause.messages

/-- The outermost message only. -/
def text : Trail → String
  | .message text => text
  | .missingResult function => missingResultText function
  | .context text _ => text

/-- The function that a report of a missing result names, however deep it lies. -/
def missingResult? : Trail → Option Key
  | .message _ => none
  | .missingResult function => some function
  | .context _ cause => cause.missingResult?

def ofMessages (first : String) : List String → Trail
  | [] => .message first
  | next :: rest => .context first (ofMessages next rest)

@[simp] theorem messages_ne_nil (trail : Trail) : trail.messages ≠ [] := by
  cases trail <;> simp [messages]

@[simp] theorem head?_messages (trail : Trail) : trail.messages.head? = some trail.text := by
  cases trail <;> rfl

@[simp] theorem messages_ofMessages (first : String) (rest : List String) :
    (ofMessages first rest).messages = first :: rest := by
  induction rest generalizing first with
  | nil => rfl
  | cons next rest ih => simp [ofMessages, messages, ih]

end Trail

end Intercept
