import Mathlib.Data.List.DropRight
import Intercept.Json.Read

/-!
# Layout of JSON text

Blanks may stand between any two parts of a text, and they are all that may.  A number ends where
the text goes on with anything that is not a part of a number.
-/

namespace Intercept.Json

/-! ## Blanks -/

def Blank (cs : List Char) : Prop :=
  ∀ c ∈ cs, isBlank c = true

theorem blank_nil : Blank [] :=
  List.forall_mem_nil _

@[simp] theorem skipBlank_append {gap : List Char} (h : Blank gap) (cs : List Char) :
    skipBlank (gap ++ cs) = skipBlank cs :=
  List.dropWhile_append_of_pos h

@[simp] theorem skipBlank_cons {c : Char} (h : isBlank c = false) (cs : List Char) :
    skipBlank (c :: cs) = c :: cs := by
  rw [skipBlank, List.dropWhile_cons_of_neg (by simp [h])]

@[simp] theorem skipBlank_skipBlank (cs : List Char) : skipBlank (skipBlank cs) = skipBlank cs :=
  List.dropWhile_idempotent ..

theorem skipBlank_eq_nil_iff {cs : List Char} : skipBlank cs = [] ↔ Blank cs :=
  List.dropWhile_eq_nil_iff

theorem exists_blank_append (cs : List Char) : ∃ gap, Blank gap ∧ cs = gap ++ skipBlank cs := by
  refine ⟨cs.takeWhile isBlank, fun c hc => List.mem_takeWhile_imp hc, ?_⟩
  exact List.takeWhile_append_dropWhile.symm

theorem skipColon_gap {gap : List Char} (h : Blank gap) (cs : List Char) :
    skipColon (gap ++ ':' :: cs) = .ok cs := by
  simp [skipColon, h, isBlank]

/-! ## Whole texts -/

/-- But for one such part the text is blank. -/
def Alone (part : List Char → Prop) (text : String) : Prop :=
  ∃ front cs back, Blank front ∧ part cs ∧ Blank back ∧ text.toList = front ++ (cs ++ back)

theorem alone_of_toList {part : List Char → Prop} {text : String} (h : part text.toList) :
    Alone part text := by
  refine ⟨[], text.toList, [], blank_nil, h, blank_nil, ?_⟩
  rw [List.append_nil, List.nil_append]

theorem readAll_eq_ok_iff {α : Type} {read : List Char → Reading α} {text : String} {a : α} :
    readAll read text = .ok a ↔ ∃ back, Blank back ∧ read text.toList = .ok (a, back) := by
  unfold readAll
  cases hread : read text.toList with
  | error fault => simp
  | ok done =>
      obtain ⟨b, back⟩ := done
      by_cases hback : Blank back
      · simp [skipBlank_eq_nil_iff.mpr hback, hback]
      · simp [skipBlank_eq_nil_iff, hback]

/-! ## Ends of numbers -/

/-- A number cannot go on here. -/
def Ends (rest : List Char) : Prop :=
  ∀ c ∈ rest.head?, isDigit c = false ∧ c ≠ '.' ∧ c ≠ 'e' ∧ c ≠ 'E'

theorem ends_blank_append {gap rest : List Char} (hgap : Blank gap) (hrest : Ends rest) :
    Ends (gap ++ rest) := by
  cases gap with
  | nil => exact hrest
  | cons c gap =>
      have hc := hgap c List.mem_cons_self
      rintro d ⟨⟩
      simp only [isBlank, Bool.or_eq_true, beq_iff_eq] at hc
      rcases hc with ((rfl | rfl) | rfl) | rfl <;> decide

theorem ends_comma (cs : List Char) : Ends (',' :: cs) := by
  rintro c ⟨⟩
  decide

theorem ends_bracket (cs : List Char) : Ends (']' :: cs) := by
  rintro c ⟨⟩
  decide

theorem ends_brace (cs : List Char) : Ends ('}' :: cs) := by
  rintro c ⟨⟩
  decide

end Intercept.Json
