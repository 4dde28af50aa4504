import Intercept.Adapter
import Intercept.Proofs.Frame.Slots

/-!
# Writes to a frame

What a wrapped function answers hangs on two cells of its frame, the error and result slot 0.  What
lies in a cell behind a list of writes is what was put there last, if no later write displaced it.
-/

namespace Intercept

variable {H U : Type}

inductive Write where
  | setError (error : Trail)
  | takeError
  | clearError
  | setResult (value : Value)
  | takeResult (kind : Kind)
  deriving DecidableEq

structure Cells where
  error : Option Trail
  result : Option Value
  deriving DecidableEq

def Frame.cells (frame : Frame) : Cells :=
  ⟨frame.error, frame.results.get? 0⟩

namespace Write

/-- A value is taken only as the kind that it is of. -/
def apply : Write → Cells → Cells
  | .setError error, cells => { cells with error := some error }
  | .takeError, cells => { cells with error := none }
  | .clearError, cells => { cells with error := none }
  | .setResult value, cells => { cells with result := some value }
  | .takeResult kind, cells => { cells with result := cells.result.filter (·.kind != kind) }

def OnError : Write → Prop
  | .setError _ => True
  | .takeError => True
  | .clearError => True
  | .setResult _ => False
  | .takeResult _ => False

def Displaces (value : Value) : Write → Prop
  | .setResult _ => True
  | .takeResult kind => value.kind = kind
  | _ => False

end Write

def replay (writes : List Write) (cells : Cells) : Cells :=
  writes.foldl (fun cells write => write.apply cells) cells

@[simp] theorem replay_nil (cells : Cells) : replay [] cells = cells := rfl

@[simp] theorem replay_cons (write : Write) (writes : List Write) (cells : Cells) :
    replay (write :: writes) cells = replay writes (write.apply cells) := rfl

theorem replay_append (writes later : List Write) (cells : Cells) :
    replay (writes ++ later) cells = replay later (replay writes cells) :=
  List.foldl_append

def Cells.writesTo (found left : Cells) : List Write :=
  (match left.error with
    | some error => .setError error
    | none => .clearError) ::
  (match left.result with
    | some value => [.setResult value]
    | none => (found.result.map fun value => .takeResult value.kind).toList)

theorem replay_writesTo (found left : Cells) : replay (found.writesTo left) found = left := by
  obtain ⟨error, result⟩ := left
  have herror : ∀ cells : Cells, (match error with
      | some error => Write.setError error
      | none => .clearError).apply cells = { cells with error } := by
    intro cells
    cases error <;> rfl
  rw [Cells.writesTo, replay_cons, herror]
  cases result with
  | some value => rfl
  | none =>
      cases hfound : found.result with
      | none => rfl
      | some value => simp [Write.apply]

/-! ## What the last write leaves -/

/-- The write is among the writes, with none behind it that undoes it. -/
def LeftBy (write : Write) (Undoes : Write → Prop) (writes : List Write) : Prop :=
  ∃ earlier later, writes = earlier ++ write :: later ∧ ∀ other ∈ later, ¬Undoes other

def LeavesError (writes : List Write) (error : Trail) : Prop :=
  LeftBy (.setError error) Write.OnError writes

/-- The last value that was written to slot 0 is `value`, and it is still there. -/
def LeavesResult (writes : List Write) (value : Value) : Prop :=
  LeftBy (.setResult value) (Write.Displaces value) writes

section

variable {write : Write} {Undoes : Write → Prop}

theorem leftBy_iff_lastSets {writes : List Write} :
    LeftBy write Undoes writes ↔ LastSets (· = write) Undoes writes := by
  constructor
  · rintro ⟨earlier, later, hwrites, hlater⟩
    exact ⟨earlier, write, later, hwrites, rfl, hlater⟩
  · rintro ⟨earlier, _, later, hwrites, rfl, hlater⟩
    exact ⟨earlier, later, hwrites, hlater⟩

/-- What one write brings about and others undo holds in the end if it was left by a write, or held
from the start and was not undone. -/
theorem replay_iff {P : Cells → Prop}
    (hstep : ∀ other cells, P (other.apply cells) ↔ other = write ∨ ¬Undoes other ∧ P cells)
    (writes : List Write) (cells : Cells) :
    P (replay writes cells) ↔
      LeftBy write Undoes writes ∨ (∀ other ∈ writes, ¬Undoes other) ∧ P cells := by
  rw [leftBy_iff_lastSets]
  exact foldl_iff_lastSets (fun cells other => hstep other cells) writes cells

end

theorem error_replay_iff {cells : Cells} (h : cells.error = none) {writes : List Write}
    {error : Trail} : (replay writes cells).error = some error ↔ LeavesError writes error := by
  have hstep : ∀ (other : Write) (cells : Cells), (other.apply cells).error = some error ↔
      other = .setError error ∨ ¬other.OnError ∧ cells.error = some error := by
    intro other cells
    cases other <;> simp [Write.apply, Write.OnError]
  rw [replay_iff (P := fun cells => cells.error = some error) hstep, h, LeavesError]
  simp

theorem result_replay_iff {cells : Cells} (h : cells.result = none) {writes : List Write}
    {value : Value} : (replay writes cells).result = some value ↔ LeavesResult writes value := by
  have hstep : ∀ (other : Write) (cells : Cells), (other.apply cells).result = some value ↔
      other = .setResult value ∨ ¬other.Displaces value ∧ cells.result = some value := by
    intro other cells
    cases other with
    | takeResult kind =>
        simp only [Write.apply, Write.Displaces, Option.filter_eq_some_iff, bne_iff_ne, reduceCtorEq,
          false_or]
        exact and_comm
    | _ => simp [Write.apply, Write.Displaces]
  rw [replay_iff (P := fun cells => cells.result = some value) hstep, h, LeavesResult]
  simp

/-! ## Requests to a frame -/

def Write.inSlot (i : Nat) (write : Write) : List Write :=
  if i = 0 then [write] else []

namespace Frame

@[simp] theorem cells_setPayload (frame : Frame) (payload : Payload) :
    (frame.setPayload payload).cells = frame.cells := rfl

theorem cells_setResult {frame left : Frame} {i : Nat} {value : Value}
    (h : frame.setResult i value = .ok left) :
    left.cells = replay (Write.inSlot i (.setResult value)) frame.cells := by
  rw [setResult] at h
  cases hresults : frame.results.set i value with
  | error refusal =>
      rw [hresults] at h
      cases h
  | ok results =>
      rw [hresults] at h
      cases h
      rw [Write.inSlot, cells, Slots.get?_set hresults]
      by_cases hi : i = 0
      · rw [if_pos hi.symm, if_pos hi]
        rfl
      · rw [if_neg (Ne.symm hi), if_neg hi]
        rfl

theorem cells_takeResult (frame : Frame) (i : Nat) (kind : Kind) :
    (frame.takeResult i kind).2.cells =
      replay (Write.inSlot i (.takeResult kind)) frame.cells := by
  have hcells : (frame.takeResult i kind).2.cells =
      ⟨frame.error, (frame.results.take i kind).2.get? 0⟩ := rfl
  rw [hcells, Write.inSlot]
  by_cases hi : i = 0
  · subst hi
    rw [if_pos rfl, Slots.get?_take_self]
    rfl
  · rw [if_neg hi, Slots.get?_take_of_ne (Ne.symm hi)]
    rfl

end Frame

theorem Landing.ofResult_zero (value : Value) (frame : Frame) (world : World H U) :
    ∃ left : Frame, Landing.ofResult 0 value frame world = ⟨none, left, world⟩ ∧
      left.error = frame.error ∧ left.results.get? 0 = some value := by
  obtain ⟨results, hresults⟩ := frame.results.exists_set Slots.zero_lt_capacity value
  refine ⟨{ frame with results }, ?_, rfl, ?_⟩
  · simp only [ofResult, Frame.setResult, hresults]
  · rw [Slots.get?_set hresults, if_pos rfl]

/-! ## Functions -/

namespace FallibleFunction

def writes (function : FallibleFunction H U) (args : List Value) (world : World H U) :
    List Write :=
  match (function args world).1 with
  | .value value => [.setResult value]
  | .failed cause => [.setError cause]
  | .unwound _ => []

theorem target_writes (function : FallibleFunction H U) (args : List Value) (frame : Frame)
    (world : World H U) :
    (function.target args frame world).frame.cells =
      replay (function.writes args world) frame.cells := by
  rcases hfunction : function args world with ⟨value | cause | payload, left⟩
  · obtain ⟨results, hresults⟩ := frame.results.exists_set Slots.zero_lt_capacity value
    have hset : frame.setResult 0 value = .ok { frame with results } := by
      rw [Frame.setResult, hresults]
    simp only [target, writes, hfunction, Landing.ofResult, hset]
    exact Frame.cells_setResult hset
  · simp only [target, writes, hfunction]
    rfl
  · simp only [target, writes, hfunction]
    rfl

theorem target_function (function : FallibleFunction H U) (args : List Value) (frame : Frame)
    (world : World H U) :
    (function.target args frame world).frame.function = frame.function := by
  rcases hfunction : function args world with ⟨value | cause | payload, left⟩
  · obtain ⟨results, hresults⟩ := frame.results.exists_set Slots.zero_lt_capacity value
    simp only [target, hfunction, Landing.ofResult, Frame.setResult, hresults]
  · simp only [target, hfunction, Frame.setError]
  · simp only [target, hfunction]

end FallibleFunction

theorem PlainFunction.target_fallible (function : PlainFunction H U) (args : List Value) :
    function.fallible.target args = function.target args := by
  funext frame world
  rcases hfunction : function args world with ⟨payload | value, left⟩
  · simp only [target, FallibleFunction.target, fallible, hfunction]
  · simp only [target, FallibleFunction.target, fallible, hfunction]

end Intercept
