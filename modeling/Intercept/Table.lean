/-!
# Tables

A key stands for the thing last put under it, until that is taken away.
-/

namespace Intercept

structure Table (κ α : Type) where
  entries : List (κ × α)
  deriving DecidableEq

namespace Table

variable {κ α : Type}

def empty : Table κ α :=
  ⟨[]⟩

def size (table : Table κ α) : Nat :=
  table.entries.length

/-- In no particular order. -/
def keys (table : Table κ α) : List κ :=
  table.entries.map Prod.fst

/-- No key is there twice. -/
def Distinct (table : Table κ α) : Prop :=
  table.keys.Nodup

theorem length_keys (table : Table κ α) : table.keys.length = table.size :=
  List.length_map ..

theorem distinct_empty : (empty : Table κ α).Distinct :=
  List.nodup_nil

variable [DecidableEq κ]

def find? (table : Table κ α) (key : κ) : Option α :=
  table.entries.lookup key

def erase (table : Table κ α) (key : κ) : Table κ α :=
  ⟨table.entries.filter fun entry => !(key == entry.1)⟩

def insert (table : Table κ α) (key : κ) (a : α) : Table κ α :=
  ⟨(key, a) :: (table.erase key).entries⟩

theorem find?_erase (table : Table κ α) (key other : κ) :
    (table.erase key).find? other = if other = key then none else table.find? other := by
  obtain ⟨entries⟩ := table
  simp only [erase, find?]
  induction entries with
  | nil => simp
  | cons entry rest ih =>
      obtain ⟨held, a⟩ := entry
      by_cases hheld : key = held
      · subst hheld
        by_cases hother : other = key
        · simp [hother]
        · simpa [hother, List.lookup_cons, beq_eq_false_iff_ne.mpr hother] using ih
      · by_cases hother : other = held
        · subst hother
          simp [hheld, Ne.symm hheld]
        · simpa [hheld, List.lookup_cons, beq_eq_false_iff_ne.mpr hother] using ih

theorem find?_insert (table : Table κ α) (key other : κ) (a : α) :
    (table.insert key a).find? other = if other = key then some a else table.find? other := by
  by_cases h : other = key
  · simp [insert, find?, h]
  · have herase := find?_erase table key other
    simp only [h, if_false, find?] at herase
    simp [insert, find?, h, List.lookup_cons, beq_eq_false_iff_ne.mpr h, herase]

theorem mem_keys_iff {table : Table κ α} {key : κ} :
    key ∈ table.keys ↔ (table.find? key).isSome = true := by
  rw [find?, List.lookup_isSome_iff]
  simp [keys]

theorem Distinct.erase {table : Table κ α} (h : table.Distinct) (key : κ) :
    (table.erase key).Distinct :=
  List.Nodup.sublist (List.filter_sublist.map Prod.fst) h

theorem Distinct.insert {table : Table κ α} (h : table.Distinct) (key : κ) (a : α) :
    (table.insert key a).Distinct := by
  have herased : key ∉ (table.erase key).keys := by
    rw [mem_keys_iff, find?_erase, if_pos rfl]
    exact Bool.false_ne_true
  exact List.nodup_cons.mpr ⟨herased, h.erase key⟩

end Table

end Intercept
