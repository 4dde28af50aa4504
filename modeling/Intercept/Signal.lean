import Intercept.Failure

/-!
# Cancellation signals

A signal holds a token, a deadline, both or neither.  It is judged at a moment: the tokens cancelled
so far and the time.  A cancelled token is reported ahead of a deadline that has passed, and a signal
that has tripped stays tripped at every later moment.
-/

namespace Intercept

abbrev Token := String

/-- What a signal is judged by. -/
structure Moment where
  cancelled : List Token
  now : Nat
  deriving DecidableEq, Repr

namespace Moment

/-- No token is revived and time does not run back. -/
def Precedes (m n : Moment) : Prop :=
  m.cancelled ⊆ n.cancelled ∧ m.now ≤ n.now

theorem Precedes.refl (m : Moment) : m.Precedes m :=
  ⟨fun _ h => h, Nat.le_refl _⟩

theorem Precedes.trans {m n k : Moment} (h : m.Precedes n) (h' : n.Precedes k) : m.Precedes k :=
  ⟨fun _ hm => h'.1 (h.1 hm), Nat.le_trans h.2 h'.2⟩

end Moment

structure Signal where
  token : Option Token
  deadline : Option Nat
  deriving DecidableEq, Repr

namespace Signal

def never : Signal :=
  ⟨none, none⟩

def ofToken (token : Token) : Signal :=
  ⟨some token, none⟩

/-- The deadline lies `timeout` after `now`; an earlier deadline is forgotten. -/
def withTimeout (signal : Signal) (now timeout : Nat) : Signal :=
  { signal with deadline := some (now + timeout) }

def isNever (signal : Signal) : Bool :=
  signal.token.isNone && signal.deadline.isNone

def tokenCancelled (signal : Signal) (moment : Moment) : Bool :=
  signal.token.any fun token => moment.cancelled.contains token

def deadlinePassed (signal : Signal) (moment : Moment) : Bool :=
  signal.deadline.any fun deadline => deadline ≤ moment.now

def check (signal : Signal) (moment : Moment) : Option Trip :=
  if signal.tokenCancelled moment then some .cancelled
  else if signal.deadlinePassed moment then some .deadlineExceeded
  else none

@[simp] theorem check_never (moment : Moment) : never.check moment = none := rfl

theorem check_eq_none_iff (signal : Signal) (moment : Moment) :
    signal.check moment = none ↔
      signal.tokenCancelled moment = false ∧ signal.deadlinePassed moment = false := by
  by_cases ht : signal.tokenCancelled moment
  · simp [check, ht]
  · by_cases hd : signal.deadlinePassed moment <;> simp [check, ht, hd]

theorem tokenCancelled_mono {signal : Signal} {m n : Moment} (h : m.Precedes n)
    (hm : signal.tokenCancelled m = true) : signal.tokenCancelled n = true := by
  cases htoken : signal.token with
  | none => simp [tokenCancelled, htoken] at hm
  | some token =>
      simp only [tokenCancelled, htoken, Option.any_some, List.contains_iff_mem] at hm ⊢
      exact h.1 hm

theorem deadlinePassed_mono {signal : Signal} {m n : Moment} (h : m.Precedes n)
    (hm : signal.deadlinePassed m = true) : signal.deadlinePassed n = true := by
  cases hdeadline : signal.deadline with
  | none => simp [deadlinePassed, hdeadline] at hm
  | some deadline =>
      simp only [deadlinePassed, hdeadline, Option.any_some, decide_eq_true_eq] at hm ⊢
      exact Nat.le_trans hm h.2

end Signal

end Intercept
