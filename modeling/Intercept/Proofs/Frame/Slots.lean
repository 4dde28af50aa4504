import Mathlib.Data.List.Induction
import Mathlib.Order.Nat
import Intercept.Call.Step

/-!
# What the slots of a frame remember

To those who set, take and read results, the slots of a frame are a partial map from numbers to
values, with a mark just above every slot that was ever set.  A value stays where it was set until
it is overwritten or taken as the kind that it is of: `slots_remember_requests`.  There is taken to be
room for every slot below the capacity; no other slot can be set.
-/

namespace Intercept

/-! ## What the last step leaves -/

section

variable {α σ : Type} {Sets Undoes : α → Prop}

/-- A step that sets is among the steps, with none behind it that undoes. -/
def LastSets (Sets Undoes : α → Prop) (steps : List α) : Prop :=
  ∃ earlier step later, steps = earlier ++ step :: later ∧ Sets step ∧
    ∀ other ∈ later, ¬Undoes other

theorem not_lastSets_nil : ¬LastSets Sets Undoes [] := by
  rintro ⟨earlier, step, later, hsteps, -⟩
  cases earlier <;> cases hsteps

theorem lastSets_cons {first : α} {steps : List α} :
    LastSets Sets Undoes (first :: steps) ↔
      LastSets Sets Undoes steps ∨ Sets first ∧ ∀ other ∈ steps, ¬Undoes other := by
  constructor
  · rintro ⟨earlier, step, later, hsteps, hsets, hlater⟩
    cases earlier with
    | nil =>
        obtain ⟨rfl, rfl⟩ := List.cons.inj hsteps
        exact .inr ⟨hsets, hlater⟩
    | cons other earlier =>
        obtain ⟨rfl, rfl⟩ := List.cons.inj hsteps
        exact .inl ⟨earlier, step, later, rfl, hsets, hlater⟩
  · rintro (⟨earlier, step, later, rfl, hsets, hlater⟩ | ⟨hsets, hlater⟩)
    · exact ⟨first :: earlier, step, later, rfl, hsets, hlater⟩
    · exact ⟨[], first, steps, rfl, hsets, hlater⟩

theorem foldl_iff_lastSets {step : σ → α → σ} {P : σ → Prop}
    (hstep : ∀ state a, P (step state a) ↔ Sets a ∨ ¬Undoes a ∧ P state) (steps : List α)
    (state : σ) :
    P (steps.foldl step state) ↔
      LastSets Sets Undoes steps ∨ (∀ a ∈ steps, ¬Undoes a) ∧ P state := by
  induction steps generalizing state with
  | nil => simp [not_lastSets_nil]
  | cons first steps ih =>
      rw [List.foldl_cons, ih, hstep, lastSets_cons, List.forall_mem_cons]
      constructor
      · rintro (hlast | ⟨hkept, hfirst | ⟨hfirst, hstate⟩⟩)
        · exact .inl (.inl hlast)
        · exact .inl (.inr ⟨hfirst, hkept⟩)
        · exact .inr ⟨⟨hfirst, hkept⟩, hstate⟩
      · rintro ((hlast | ⟨hfirst, hkept⟩) | ⟨⟨hfirst, hkept⟩, hstate⟩)
        · exact .inl hlast
        · exact .inr ⟨hkept, .inl hfirst⟩
        · exact .inr ⟨hkept, .inr ⟨hfirst, hstate⟩⟩

end

/-! ## Requests -/

inductive SlotRequest where
  | set (i : Nat) (value : Value)
  | take (i : Nat) (kind : Kind)
  | read (i : Nat) (kind : Kind)

inductive SlotAnswer where
  | done
  | unwound (payload : Payload)
  | found (value : Option Value)
  deriving DecidableEq

namespace SlotRequest

def slot : SlotRequest → Nat
  | .set i _ => i
  | .take i _ => i
  | .read i _ => i

def placed? : SlotRequest → Option Nat
  | .set i _ => if i < Slots.capacity then some i else none
  | _ => none

def Displaces (i : Nat) (value : Value) : SlotRequest → Prop
  | .set j _ => j = i ∧ j < Slots.capacity
  | .take j kind => j = i ∧ value.kind = kind
  | .read _ _ => False

def Leaves (i : Nat) (value : Value) (requests : List SlotRequest) : Prop :=
  i < Slots.capacity ∧ ∃ earlier later, requests = earlier ++ .set i value :: later ∧
    ∀ request ∈ later, ¬request.Displaces i value

theorem leaves_iff_lastSets {i : Nat} {value : Value} {requests : List SlotRequest} :
    Leaves i value requests ↔
      LastSets (fun request => i < Slots.capacity ∧ request = .set i value) (Displaces i value)
        requests := by
  constructor
  · rintro ⟨hi, earlier, later, hrequests, hlater⟩
    exact ⟨earlier, _, later, hrequests, ⟨hi, rfl⟩, hlater⟩
  · rintro ⟨earlier, _, later, hrequests, ⟨hi, rfl⟩, hlater⟩
    exact ⟨hi, earlier, later, hrequests, hlater⟩

end SlotRequest

namespace Frame

def serveSlot (request : SlotRequest) (frame : Frame) : SlotAnswer × Frame :=
  match request with
  | .set i value =>
    match frame.setResult i value with
    | .error refusal => (.unwound refusal.payload, frame)
    | .ok frame => (.done, frame)
  | .take i kind =>
    let (value, frame) := frame.takeResult i kind
    (.found value, frame)
  | .read i kind => (.found (frame.results.read? i kind), frame)

def serveSlots (requests : List SlotRequest) (frame : Frame) : Frame :=
  requests.foldl (fun frame request => (frame.serveSlot request).2) frame

end Frame

/-! ## Marked maps -/

/-- A partial map from numbers to values, and a mark above every number that ever had a value. -/
structure Marked where
  held : Nat → Option Value
  mark : Nat

namespace Marked

def empty : Marked :=
  ⟨fun _ => none, 0⟩

def refusal (i : Nat) : Slots.Refusal :=
  if Slots.lastIndex ≤ i then .outOfRange i else .tooMany

def serve (request : SlotRequest) (marked : Marked) : SlotAnswer × Marked :=
  match request with
  | .set i value =>
    if i < Slots.capacity then
      (.done,
        { held := fun j => if j = i then some value else marked.held j
          mark := max marked.mark (i + 1) })
    else (.unwound (refusal i).payload, marked)
  | .take i kind =>
    (.found ((marked.held i).filter (·.kind == kind)),
      { marked with
        held := fun j =>
          if j = i then (marked.held j).filter (·.kind != kind) else marked.held j })
  | .read i kind => (.found ((marked.held i).filter (·.kind == kind)), marked)

def after (requests : List SlotRequest) : Marked :=
  requests.foldl (fun marked request => (marked.serve request).2) empty

theorem after_concat (requests : List SlotRequest) (request : SlotRequest) :
    after (requests ++ [request]) = ((after requests).serve request).2 := by
  rw [after, List.foldl_append]
  rfl

theorem held_serve_iff (marked : Marked) (request : SlotRequest) (i : Nat) (value : Value) :
    (marked.serve request).2.held i = some value ↔
      i < Slots.capacity ∧ request = .set i value ∨
        ¬request.Displaces i value ∧ marked.held i = some value := by
  cases request with
  | set j other =>
      by_cases hj : j < Slots.capacity
      · by_cases hi : i = j
        · subst hi
          simp [serve, SlotRequest.Displaces, hj]
        · simp [serve, SlotRequest.Displaces, hj, hi, Ne.symm hi]
      · -- A request that is refused neither sets a slot nor displaces a value.
        have hset : ¬(i < Slots.capacity ∧ SlotRequest.set j other = .set i value) := by
          rintro ⟨hi, hsame⟩
          cases hsame
          exact hj hi
        rw [or_iff_right hset]
        simp [serve, SlotRequest.Displaces, hj]
  | take j kind =>
      by_cases hi : i = j
      · subst hi
        simp [serve, SlotRequest.Displaces, Option.filter_eq_some_iff, and_comm]
      · simp [serve, SlotRequest.Displaces, hi, Ne.symm hi]
  | read j kind => simp [serve, SlotRequest.Displaces]

theorem held_after_iff (requests : List SlotRequest) (i : Nat) (value : Value) :
    (after requests).held i = some value ↔ SlotRequest.Leaves i value requests := by
  have hlast := foldl_iff_lastSets (P := fun marked : Marked => marked.held i = some value)
    (fun marked request => marked.held_serve_iff request i value) requests empty
  have hempty : empty.held i ≠ some value := (Option.some_ne_none value).symm
  rw [SlotRequest.leaves_iff_lastSets, after, hlast]
  simp [hempty]

theorem mark_serve (marked : Marked) (request : SlotRequest) :
    (marked.serve request).2.mark = max marked.mark (request.placed?.elim 0 (· + 1)) := by
  cases request with
  | set i value =>
      by_cases hi : i < Slots.capacity
      · simp [serve, SlotRequest.placed?, hi]
      · simp [serve, SlotRequest.placed?, hi]
  | take i kind => simp [serve, SlotRequest.placed?]
  | read i kind => simp [serve, SlotRequest.placed?]

theorem mark_after_le_iff (requests : List SlotRequest) (n : Nat) :
    (after requests).mark ≤ n ↔ ∀ i ∈ requests.filterMap SlotRequest.placed?, i < n := by
  induction requests using List.reverseRecOn with
  | nil => simp [after, empty]
  | append_singleton requests request ih =>
      rw [after_concat, mark_serve, Nat.max_le, ih, List.filterMap_append, List.forall_mem_append]
      refine and_congr_right fun _ => ?_
      cases hplaced : request.placed? with
      | none =>
          rw [List.filterMap_cons_none hplaced, List.filterMap_nil]
          exact iff_of_true (Nat.zero_le n) (List.forall_mem_nil _)
      | some i =>
          rw [List.filterMap_cons_some hplaced, List.filterMap_nil, List.forall_mem_singleton]
          exact Nat.succ_le_iff

theorem mark_after (requests : List SlotRequest) :
    (after requests).mark = (requests.filterMap SlotRequest.placed?).max?.elim 0 (· + 1) := by
  refine eq_of_forall_ge_iff fun n => (mark_after_le_iff requests n).trans ?_
  cases hmax : (requests.filterMap SlotRequest.placed?).max? with
  | none => simp [List.max?_eq_none_iff.mp hmax]
  | some greatest =>
      obtain ⟨hmem, hle⟩ := List.max?_eq_some_iff.mp hmax
      exact ⟨fun hlt => hlt greatest hmem, fun hlt i hi => Nat.lt_of_le_of_lt (hle i hi) hlt⟩

end Marked

/-! ## Frames as marked maps -/

namespace Frame

structure Shows (frame : Frame) (marked : Marked) : Prop where
  held : ∀ i, frame.results.get? i = marked.held i
  size : frame.results.size = marked.mark
  bound : frame.results.size ≤ Slots.capacity

theorem Shows.serve {frame : Frame} {marked : Marked} (h : frame.Shows marked)
    (request : SlotRequest) :
    (frame.serveSlot request).1 = (marked.serve request).1 ∧
      (frame.serveSlot request).2.Shows (marked.serve request).2 := by
  cases request with
  | set i value =>
      by_cases hi : i < Slots.capacity
      · obtain ⟨results, hresults⟩ := frame.results.exists_set hi value
        have hsize := Slots.size_set hresults
        simp only [serveSlot, setResult, hresults, Marked.serve, if_pos hi, true_and]
        refine ⟨fun j => ?_, ?_, ?_⟩
        · rw [Slots.get?_set hresults, h.held]
        · rw [hsize, h.size]
        · rw [hsize]
          exact Nat.max_le.mpr ⟨h.bound, hi⟩
      · -- A slot that exists could be set again wherever it lies, so the bound is needed here.
        have hcapacity := Nat.not_lt.mp hi
        have hresults := Slots.set_eq_error (h.bound.trans hcapacity) hcapacity value
        simp only [serveSlot, setResult, hresults, Marked.serve, if_neg hi]
        exact ⟨rfl, h⟩
  | take i kind =>
      simp only [serveSlot, takeResult, Marked.serve, Slots.take_fst, Slots.read?_eq_filter, h.held,
        true_and]
      refine ⟨fun j => ?_, ?_, ?_⟩
      · dsimp only
        by_cases hj : j = i
        · rw [if_pos hj, hj, Slots.get?_take_self, h.held]
        · rw [if_neg hj, Slots.get?_take_of_ne hj, h.held]
      · rw [Slots.size_take, h.size]
      · rw [Slots.size_take]
        exact h.bound
  | read i kind =>
      simp only [serveSlot, Marked.serve, Slots.read?_eq_filter, h.held]
      exact ⟨trivial, h⟩

theorem shows_serveSlots {start : Frame} (h : start.Shows .empty) (requests : List SlotRequest) :
    (start.serveSlots requests).Shows (.after requests) := by
  induction requests using List.reverseRecOn with
  | nil => exact h
  | append_singleton requests request ih =>
      rw [serveSlots, List.foldl_append, Marked.after_concat]
      exact (ih.serve request).2

/-! ## What one request does -/

theorem serveSlot_of_missed {frame : Frame} {i : Nat} {kind : Kind}
    (h : ∀ value, frame.results.get? i = some value → value.kind ≠ kind) :
    frame.serveSlot (.take i kind) = (.found none, frame) ∧
      frame.serveSlot (.read i kind) = (.found none, frame) := by
  have hread : frame.results.read? i kind = none := by
    rw [Slots.read?_eq_filter, Option.filter_eq_none_iff]
    intro value hvalue
    simpa using h value hvalue
  constructor
  · simp only [serveSlot, takeResult, Slots.take_fst, Slots.take_eq_self hread, hread]
  · simp only [serveSlot, hread]

theorem serveSlot_of_held {frame : Frame} {i : Nat} {value : Value}
    (h : frame.results.get? i = some value) :
    frame.serveSlot (.read i value.kind) = (.found (some value), frame) ∧
      (frame.serveSlot (.take i value.kind)).1 = .found (some value) ∧
      (frame.serveSlot (.take i value.kind)).2.results.get? i = none := by
  have hread : frame.results.read? i value.kind = some value := by
    rw [Slots.read?_eq_filter, h, Option.filter_some, if_pos (beq_self_eq_true _)]
  simp only [serveSlot, takeResult, Slots.take_fst, hread, Slots.get?_take hread, if_true, and_self]

theorem get?_serveSlot_of_ne (frame : Frame) {request : SlotRequest} {j : Nat}
    (h : j ≠ request.slot) :
    (frame.serveSlot request).2.results.get? j = frame.results.get? j := by
  cases request with
  | set i value =>
      rw [serveSlot, setResult]
      cases hset : frame.results.set i value with
      | error refusal => rfl
      | ok results => exact (Slots.get?_set hset j).trans (if_neg h)
  | take i kind => exact Slots.get?_take_of_ne h
  | read i kind => rfl

theorem size_le_serveSlot (frame : Frame) (request : SlotRequest) :
    frame.results.size ≤ (frame.serveSlot request).2.results.size := by
  cases request with
  | set i value =>
      rw [serveSlot, setResult]
      cases hset : frame.results.set i value with
      | error refusal => exact Nat.le_refl _
      | ok results => exact (Nat.le_max_left ..).trans_eq (Slots.size_set hset).symm
  | take i kind => exact (Slots.size_take ..).ge
  | read i kind => exact Nat.le_refl _

theorem size_le_serveSlots (frame : Frame) (requests : List SlotRequest) :
    frame.results.size ≤ (frame.serveSlots requests).results.size := by
  induction requests generalizing frame with
  | nil => exact Nat.le_refl _
  | cons request requests ih => exact (frame.size_le_serveSlot request).trans (ih _)

theorem serveSlot_set_lastIndex {frame : Frame} (h : frame.results.size ≤ Slots.capacity)
    (value : Value) :
    frame.serveSlot (.set Slots.lastIndex value) =
      (.unwound (.value (.text "result index 18446744073709551615 out of range")), frame) := by
  have hlast : Slots.capacity ≤ Slots.lastIndex := by decide
  have hset := Slots.set_eq_error (h.trans hlast) hlast value
  simp only [serveSlot, setResult, hset]
  rfl

/-! ## Main result -/

/-- What the slots of a frame are after the requests, and how they answer the next ones. -/
structure Remembers (frame : Frame) (requests : List SlotRequest) : Prop where
  shows : frame.Shows (.after requests)
  answers : ∀ request, (frame.serveSlot request).1 = ((Marked.after requests).serve request).1
  size : frame.results.size =
    (requests.filterMap SlotRequest.placed?).max?.elim 0 (· + 1)
  grows : ∀ later, frame.results.size ≤ (frame.serveSlots later).results.size
  held : ∀ i value, frame.results.get? i = some value ↔ SlotRequest.Leaves i value requests
  beyond : ∀ i, frame.results.size ≤ i → frame.results.get? i = none
  missed : ∀ i kind, (∀ value, frame.results.get? i = some value → value.kind ≠ kind) →
    frame.serveSlot (.take i kind) = (.found none, frame) ∧
      frame.serveSlot (.read i kind) = (.found none, frame)
  found : ∀ i value, frame.results.get? i = some value →
    frame.serveSlot (.read i value.kind) = (.found (some value), frame) ∧
      (frame.serveSlot (.take i value.kind)).1 = .found (some value) ∧
      (frame.serveSlot (.take i value.kind)).2.results.get? i = none
  apart : ∀ request j, j ≠ request.slot →
    (frame.serveSlot request).2.results.get? j = frame.results.get? j
  last : ∀ value, frame.serveSlot (.set Slots.lastIndex value) =
    (.unwound (.value (.text "result index 18446744073709551615 out of range")), frame)

theorem Shows.remembers {frame : Frame} {requests : List SlotRequest}
    (h : frame.Shows (.after requests)) : frame.Remembers requests where
  shows := h
  answers request := (h.serve request).1
  size := h.size.trans (Marked.mark_after requests)
  grows := frame.size_le_serveSlots
  held i value := by rw [h.held, Marked.held_after_iff]
  beyond _ := Slots.get?_eq_none_of_size_le
  missed _ _ := serveSlot_of_missed
  found _ _ := serveSlot_of_held
  apart _ _ := frame.get?_serveSlot_of_ne
  last := serveSlot_set_lastIndex h.bound

theorem shows_new (function : Key) (args : List Value) (signal : Signal) :
    (new function args signal).Shows .empty :=
  ⟨fun _ => rfl, rfl, Nat.zero_le _⟩

end Frame

/-- The slots of a new frame, or of one that was reset, remember what is asked of them. -/
theorem slots_remember_requests (function : Key) (args : List Value) (signal : Signal)
    (used : Frame) (requests : List SlotRequest) :
    ((Frame.new function args signal).serveSlots requests).Remembers requests ∧
      (used.reset.serveSlots requests).Remembers requests := by
  have hnew := Frame.shows_new function args signal
  have hreset := Frame.shows_new .empty [] .never
  exact ⟨(Frame.shows_serveSlots hnew requests).remembers,
    (Frame.shows_serveSlots hreset requests).remembers⟩

end Intercept
