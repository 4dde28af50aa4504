import Intercept.Value

/-!
# Result slots

Results live in numbered slots.  Setting a slot beyond the end adds empty slots up to it; taking a
value out leaves its slot empty.  The number of slots therefore never falls.
-/

namespace Intercept

structure Slots where
  cells : List (Option Value)
  deriving DecidableEq

namespace Slots

def empty : Slots :=
  ⟨[]⟩

/-- Why a slot cannot be set. -/
inductive Refusal where
  | outOfRange (index : Nat)
  | tooMany
  deriving DecidableEq, Repr

namespace Refusal

def text : Refusal → String
  | .outOfRange index => "result index " ++ Nat.repr index ++ " out of range"
  | .tooMany => "capacity overflow"

end Refusal

/-- The greatest index a machine word can hold; the slot after it could not be counted. -/
def lastIndex : Nat := 18446744073709551615

/-- Slots are two words each, and storage stays below half the address space. -/
def capacity : Nat := 576460752303423487

def size (slots : Slots) : Nat :=
  slots.cells.length

def get? (slots : Slots) (i : Nat) : Option Value :=
  slots.cells[i]?.join

def grow (cells : List (Option Value)) (n : Nat) : List (Option Value) :=
  cells ++ List.replicate (n - cells.length) none

def set (slots : Slots) (i : Nat) (value : Value) : Except Refusal Slots :=
  if i < slots.size then .ok ⟨slots.cells.set i (some value)⟩
  else if lastIndex ≤ i then .error (.outOfRange i)
  else if capacity ≤ i then .error .tooMany
  else .ok ⟨(grow slots.cells (i + 1)).set i (some value)⟩

/-- The value of slot `i` if it is of the kind asked for. -/
def read? (slots : Slots) (i : Nat) (kind : Kind) : Option Value :=
  (slots.get? i).bind (Value.as? kind)

/-- Moves out what `read?` would show, and changes nothing when that is nothing. -/
def take (slots : Slots) (i : Nat) (kind : Kind) : Option Value × Slots :=
  match slots.read? i kind with
  | none => (none, slots)
  | some value => (some value, ⟨slots.cells.set i none⟩)

/-! ## What each operation does to a slot and to the size -/

theorem get?_eq_none_of_size_le {slots : Slots} {i : Nat} (h : slots.size ≤ i) :
    slots.get? i = none := by
  have hcell : slots.cells[i]? = none := List.getElem?_eq_none h
  simp [get?, hcell]

theorem length_grow (cells : List (Option Value)) (n : Nat) :
    (grow cells n).length = max cells.length n := by
  simp only [grow, List.length_append, List.length_replicate]
  omega

theorem join_getElem?_grow (cells : List (Option Value)) (n i : Nat) :
    (grow cells n)[i]?.join = cells[i]?.join := by
  by_cases h : i < cells.length
  · simp [grow, List.getElem?_append_left h]
  · have hle : cells.length ≤ i := Nat.le_of_not_lt h
    have hcell : cells[i]? = none := List.getElem?_eq_none hle
    rw [grow, List.getElem?_append_right hle, hcell, List.getElem?_replicate]
    split <;> rfl

theorem size_set {slots slots' : Slots} {i : Nat} {value : Value}
    (h : slots.set i value = .ok slots') : slots'.size = max slots.size (i + 1) := by
  by_cases hi : i < slots.size
  · simp only [set, hi, if_true, Except.ok.injEq] at h
    subst h
    simp only [size, List.length_set] at hi ⊢
    omega
  · by_cases hlast : lastIndex ≤ i
    · simp [set, hi, hlast] at h
    · by_cases hcap : capacity ≤ i
      · simp [set, hi, hlast, hcap] at h
      · simp only [set, hi, hlast, hcap, if_false, Except.ok.injEq] at h
        subst h
        simp [size, length_grow]

theorem get?_set {slots slots' : Slots} {i : Nat} {value : Value}
    (h : slots.set i value = .ok slots') (j : Nat) :
    slots'.get? j = if j = i then some value else slots.get? j := by
  have key : ∀ cells : List (Option Value), i < cells.length →
      (∀ j, cells[j]?.join = slots.get? j) →
      (cells.set i (some value))[j]?.join = if j = i then some value else slots.get? j := by
    intro cells hlt hsame
    by_cases hj : j = i
    · subst hj
      simp [hlt]
    · simp [Ne.symm hj, hj, hsame]
  by_cases hi : i < slots.size
  · simp only [set, hi, if_true, Except.ok.injEq] at h
    subst h
    exact key slots.cells hi fun _ => rfl
  · by_cases hlast : lastIndex ≤ i
    · simp [set, hi, hlast] at h
    · by_cases hcap : capacity ≤ i
      · simp [set, hi, hlast, hcap] at h
      · simp only [set, hi, hlast, hcap, if_false, Except.ok.injEq] at h
        subst h
        exact key _ (by rw [length_grow]; omega) (join_getElem?_grow _ _)

theorem zero_lt_capacity : 0 < capacity := by decide

theorem exists_set (slots : Slots) {i : Nat} (h : i < capacity) (value : Value) :
    ∃ slots', slots.set i value = .ok slots' := by
  have hlast : ¬lastIndex ≤ i := by
    simp only [lastIndex, capacity] at h ⊢
    omega
  by_cases hi : i < slots.size
  · exact ⟨_, if_pos hi⟩
  · exact ⟨_, by rw [set, if_neg hi, if_neg hlast, if_neg (Nat.not_le.mpr h)]⟩

theorem set_eq_error {slots : Slots} {i : Nat} (hsize : slots.size ≤ i) (h : capacity ≤ i)
    (value : Value) :
    slots.set i value = .error (if lastIndex ≤ i then .outOfRange i else .tooMany) := by
  rw [set, if_neg (Nat.not_lt.mpr hsize), if_pos h]
  split <;> rfl

theorem read?_eq_filter (slots : Slots) (i : Nat) (kind : Kind) :
    slots.read? i kind = (slots.get? i).filter (·.kind == kind) := by
  rw [read?]
  cases slots.get? i with
  | none => rfl
  | some value => simp [Value.as?, Option.filter_some]

@[simp] theorem take_fst (slots : Slots) (i : Nat) (kind : Kind) :
    (slots.take i kind).1 = slots.read? i kind := by
  cases h : slots.read? i kind <;> simp [take, h]

@[simp] theorem size_take (slots : Slots) (i : Nat) (kind : Kind) :
    (slots.take i kind).2.size = slots.size := by
  cases h : slots.read? i kind <;> simp [take, h, size]

theorem take_eq_self {slots : Slots} {i : Nat} {kind : Kind} (h : slots.read? i kind = none) :
    (slots.take i kind).2 = slots := by
  simp [take, h]

theorem get?_take {slots : Slots} {i : Nat} {kind : Kind} {value : Value}
    (h : slots.read? i kind = some value) (j : Nat) :
    (slots.take i kind).2.get? j = if j = i then none else slots.get? j := by
  by_cases hj : j = i
  · subst hj
    by_cases hlt : j < slots.cells.length <;> simp [take, h, get?, hlt]
  · simp [take, h, get?, Ne.symm hj, hj]

theorem get?_take_self (slots : Slots) (i : Nat) (kind : Kind) :
    (slots.take i kind).2.get? i = (slots.get? i).filter (·.kind != kind) := by
  cases hcell : slots.get? i with
  | none =>
      have hread : slots.read? i kind = none := by rw [read?, hcell, Option.bind_none]
      rw [take_eq_self hread, hcell, Option.filter_none]
  | some value =>
      by_cases hkind : value.kind = kind
      · have hread : slots.read? i kind = some value := by simp [read?, hcell, Value.as?, hkind]
        rw [get?_take hread, if_pos rfl, Option.filter_some, if_neg (by simp [hkind])]
      · have hread : slots.read? i kind = none := by simp [read?, hcell, Value.as?, hkind]
        rw [take_eq_self hread, hcell, Option.filter_some, if_pos (by simp [hkind])]

theorem get?_take_of_ne {slots : Slots} {i j : Nat} {kind : Kind} (h : j ≠ i) :
    (slots.take i kind).2.get? j = slots.get? j := by
  cases hread : slots.read? i kind with
  | none => rw [take_eq_self hread]
  | some value => rw [get?_take hread, if_neg h]

end Slots

end Intercept
