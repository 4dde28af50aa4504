/-!
# Numbered cells

A store answers every index: cells that were never set hold the default.  Setting beyond the end adds
the cells between, so `get_set` needs no bound.
-/

namespace Intercept

structure Store (α : Type) where
  cells : List α

namespace Store

variable {α : Type} [Inhabited α]

def empty : Store α :=
  ⟨[]⟩

/-- The least index beyond every cell set so far. -/
def size (store : Store α) : Nat :=
  store.cells.length

def get (store : Store α) (i : Nat) : α :=
  store.cells.getD i default

def set (store : Store α) (i : Nat) (a : α) : Store α :=
  ⟨(store.cells ++ List.replicate (i + 1 - store.cells.length) default).set i a⟩

def push (store : Store α) (a : α) : Store α :=
  store.set store.size a

theorem get_eq_default {store : Store α} {i : Nat} (h : store.size ≤ i) :
    store.get i = default := by
  simp only [size] at h
  simp [get, List.getD_eq_getElem?_getD, List.getElem?_eq_none h]

@[simp] theorem size_set (store : Store α) (i : Nat) (a : α) :
    (store.set i a).size = max store.size (i + 1) := by
  simp only [size, set, List.length_set, List.length_append, List.length_replicate]
  omega

theorem get_set (store : Store α) (i j : Nat) (a : α) :
    (store.set i a).get j = if j = i then a else store.get j := by
  by_cases hj : j = i
  · subst hj
    have hlt : j < (store.cells ++
        List.replicate (j + 1 - store.cells.length) (default : α)).length := by
      simp only [List.length_append, List.length_replicate]
      omega
    simp only [get, set, List.getD_eq_getElem?_getD, List.getElem?_set_self hlt]
    simp
  · simp only [get, set, hj, if_false, List.getD_eq_getElem?_getD,
      List.getElem?_set_ne (Ne.symm hj)]
    by_cases hlt : j < store.cells.length
    · rw [List.getElem?_append_left hlt]
    · have hle : store.cells.length ≤ j := Nat.le_of_not_lt hlt
      rw [List.getElem?_append_right hle, List.getElem?_replicate, List.getElem?_eq_none hle]
      split <;> rfl

@[simp] theorem get_set_self (store : Store α) (i : Nat) (a : α) : (store.set i a).get i = a := by
  simp [get_set]

@[simp] theorem size_push (store : Store α) (a : α) : (store.push a).size = store.size + 1 := by
  simp only [push, size_set]
  omega

@[simp] theorem get_push_size (store : Store α) (a : α) : (store.push a).get store.size = a := by
  simp [push]

end Store

end Intercept
