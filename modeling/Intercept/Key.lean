import Intercept.Text.Quoted

/-!
# Function keys

The name under which a function is known.  Keys are ordered by code points.  The empty key is a key,
but nothing can be registered under it.
-/

namespace Intercept

structure Key where
  text : String
  deriving DecidableEq, Repr

namespace Key

def empty : Key := ⟨""⟩

instance : Inhabited Key := ⟨empty⟩

def isEmpty (key : Key) : Bool :=
  key.text == ""

def compare (a b : Key) : Ordering :=
  if a.text < b.text then .lt else if a.text = b.text then .eq else .gt

def outline (key : Key) : String :=
  Text.call "FunctionKey" (Text.quoted key.text)

@[simp] theorem isEmpty_iff (key : Key) : key.isEmpty = true ↔ key = empty := by
  cases key
  simp [isEmpty, empty]

@[simp] theorem compare_eq_iff (a b : Key) : compare a b = .eq ↔ a = b := by
  cases a with
  | mk s =>
    cases b with
    | mk t =>
      by_cases hlt : s < t
      · have hne : s ≠ t := fun e => String.lt_irrefl t (e ▸ hlt)
        simp [compare, hlt, hne]
      · by_cases he : s = t <;> simp [compare, hlt, he]

end Key

end Intercept
