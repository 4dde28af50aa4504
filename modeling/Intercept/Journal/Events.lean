import Intercept.Chain
import Intercept.Journal

/-!
# What is recorded

The events of registration, of running advice and of calls.
-/

namespace Intercept.Event

variable {H : Type}

def registryArea : String :=
  "aspect_core::registry"

def adviceArea : String :=
  "aspect_core::advice"

def callArea : String :=
  "aspect_core::engine"

def builderArea : String :=
  "aspect::fluent"

/-! ## Registration -/

def registered (key : Key) : Event :=
  ⟨.debug, registryArea, "registered function", [("function", key.text)]⟩

def unregistered (key : Key) : Event :=
  ⟨.debug, registryArea, "unregistered function", [("function", key.text)]⟩

def addingAdvice (key : Key) (advice : Advice H) : Event :=
  ⟨.debug, registryArea, "adding advice",
    [("function", key.text), ("phase", advice.phase.name),
      ("priority", Text.integer advice.priority), ("advice", advice.name)]⟩

/-- A builder does not name the advice it adds. -/
def attachingAdvice (key : Key) (advice : Advice H) : Event :=
  ⟨.debug, builderArea, "adding advice",
    [("function", key.text), ("phase", advice.phase.name),
      ("priority", Text.integer advice.priority)]⟩

/-! ## Calls -/

def runningAdvice (function : Key) (phase : Phase) (advice : Advice H) : Event :=
  ⟨.trace, adviceArea, "running advice",
    [("function", function.text), ("phase", phase.name), ("advice", advice.name),
      ("priority", Text.integer advice.priority)]⟩

def directCall (function : Key) : Event :=
  ⟨.trace, callArea, "no advice registered, invoking target directly",
    [("function", function.text)]⟩

def targetSkipped (function : Key) : Event :=
  ⟨.debug, callArea, "target skipped by around advice", [("function", function.text)]⟩

def callVetoed (function : Key) (veto : Veto) : Event :=
  ⟨.debug, callArea, "call vetoed by advice",
    [("function", function.text), ("phase", veto.phase.name), ("error", veto.source.text)]⟩

def observerFailed (function : Key) (phase : Phase) (stop : Stop) : Event :=
  ⟨.warn, callArea, "observer advice failed, ignoring",
    [("function", function.text), ("phase", phase.name), ("error", stop.text)]⟩

def observerUnwound (function : Key) (phase : Phase) (payload : Payload) : Event :=
  ⟨.warn, callArea, "observer advice panicked, ignoring",
    [("function", function.text), ("phase", phase.name), ("error", payload.text)]⟩

end Intercept.Event
