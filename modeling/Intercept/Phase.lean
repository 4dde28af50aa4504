/-!
# Phases of a call

The five points of a call at which advice runs.  The gatekeepers run before the target and may stop
the call; the others observe how it ended.
-/

namespace Intercept

inductive Phase where
  | before
  | around
  | afterReturning
  | afterThrowing
  | after
  deriving DecidableEq, Repr

namespace Phase

/-- Every phase once, in the order of a call. -/
def all : List Phase :=
  [.before, .around, .afterReturning, .afterThrowing, .after]

def isGatekeeper : Phase → Bool
  | .before | .around => true
  | .afterReturning | .afterThrowing | .after => false

def name : Phase → String
  | .before => "Before"
  | .around => "Around"
  | .afterReturning => "AfterReturning"
  | .afterThrowing => "AfterThrowing"
  | .after => "After"

def ofName? (text : String) : Option Phase :=
  all.find? fun phase => phase.name == text

@[simp] theorem mem_all (phase : Phase) : phase ∈ all := by
  cases phase <;> simp [all]

@[simp] theorem ofName?_name (phase : Phase) : ofName? phase.name = some phase := by
  cases phase <;> decide

end Phase

end Intercept
