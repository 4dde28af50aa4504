import Intercept.Json.Skip
import Intercept.Proofs.Json.Numbers
import Intercept.Proofs.Json.Spelling

/-!
# Well-formed JSON

The grammar of JSON values, nested to any depth.  In a string it asks for the form of escapes alone, so
that surrogates need no partner.  Every value of the grammar is passed over to its end, and no further,
with as much fuel as it has characters: `skipValue_value`.
-/

namespace Intercept.Json

/-! ## The grammar -/

inductive FormsChar : List Char → Prop
  | plain {c : Char} (hquote : c ≠ '"') (hslash : c ≠ '\\') (hcontrol : 0x20 ≤ c.toNat) :
      FormsChar [c]
  | letter {e c : Char} (h : (e, c) ∈ letterEscapes) : FormsChar ['\\', e]
  | unit {quad : List Char} {n : Nat} (h : HexQuad quad n) : FormsChar (escapedUnit quad)

inductive FormsChars : List Char → Prop
  | nil : FormsChars []
  | cons {form body : List Char} (hform : FormsChar form) (hbody : FormsChars body) :
      FormsChars (form ++ body)

inductive Part where
  | value
  | padded
  | items
  | member
  | members
  deriving DecidableEq, Repr

inductive Derives : Part → List Char → Prop
  | null : Derives .value ['n', 'u', 'l', 'l']
  | yes : Derives .value ['t', 'r', 'u', 'e']
  | no : Derives .value ['f', 'a', 'l', 's', 'e']
  | number {cs : List Char} (h : IsNumber cs) : Derives .value cs
  | string {body : List Char} (h : FormsChars body) : Derives .value ('"' :: (body ++ ['"']))
  | emptyList {gap : List Char} (h : Blank gap) : Derives .value ('[' :: (gap ++ [']']))
  | list {items : List Char} (h : Derives .items items) : Derives .value ('[' :: (items ++ [']']))
  | emptyRecord {gap : List Char} (h : Blank gap) : Derives .value ('{' :: (gap ++ ['}']))
  | record {members : List Char} (h : Derives .members members) :
      Derives .value ('{' :: (members ++ ['}']))
  | padded {front value back : List Char} (hfront : Blank front) (h : Derives .value value)
      (hback : Blank back) : Derives .padded (front ++ (value ++ back))
  | item {item : List Char} (h : Derives .padded item) : Derives .items item
  | items {item others : List Char} (h : Derives .padded item) (hothers : Derives .items others) :
      Derives .items (item ++ ',' :: others)
  | pair {front name gap value : List Char} (hfront : Blank front) (hname : FormsChars name)
      (hgap : Blank gap) (h : Derives .padded value) :
      Derives .member (front ++ '"' :: (name ++ '"' :: (gap ++ ':' :: value)))
  | member {member : List Char} (h : Derives .member member) : Derives .members member
  | members {member others : List Char} (h : Derives .member member)
      (hothers : Derives .members others) : Derives .members (member ++ ',' :: others)

/-! ## Passing over words, strings and numbers -/

theorem skipChars_form {form : List Char} (h : FormsChar form) (cs : List Char) :
    skipChars (form ++ cs) = skipChars cs := by
  cases h with
  | plain hquote hslash hcontrol => exact skipChars_plain hquote hslash hcontrol cs
  | letter hletter =>
      have hskip := shortEscape_eq_some_iff.mpr hletter
      simp [skipChars_escape, skipEscape, hskip]
  | unit hquad =>
      simp [escapedUnit, skipChars_escape, skipEscape, shortEscape, readQuad_quad hquad]

theorem skipChars_forms {body : List Char} (h : FormsChars body) (rest : List Char) :
    skipChars (body ++ '"' :: rest) = .ok rest := by
  induction h with
  | nil => exact skipChars_quote rest
  | cons hform hbody ih => rw [List.append_assoc, skipChars_form hform, ih]

theorem skipWord_append (word rest : List Char) : skipWord word (word ++ rest) = .ok rest := by
  induction word with
  | nil => rfl
  | cons c word ih => simpa [skipWord] using ih

theorem IsNumber.exists_cons {cs : List Char} (h : IsNumber cs) :
    ∃ c others, cs = c :: others ∧ (c = '-' ∨ isDigit c = true) := by
  cases h with
  | mk hsign hwhole hfraction hexponent =>
      obtain ⟨d, others, rfl, hd⟩ := hwhole.1.exists_cons
      simp only [List.mem_cons, List.not_mem_nil, or_false] at hsign
      rcases hsign with rfl | rfl
      · exact ⟨d, _, rfl, .inr hd⟩
      · exact ⟨'-', _, rfl, .inl rfl⟩

theorem ne_of_number {c d : Char} (hc : c = '-' ∨ isDigit c = true) (hminus : d ≠ '-')
    (hd : isDigit d = false) : c ≠ d := by
  rcases hc with rfl | hc
  · exact hminus.symm
  · exact ne_of_isDigit hc hd

theorem isBlank_of_number {c : Char} (hc : c = '-' ∨ isDigit c = true) : isBlank c = false := by
  have hspace : c ≠ ' ' := ne_of_number hc (by decide) rfl
  have hline : c ≠ '\n' := ne_of_number hc (by decide) rfl
  have htab : c ≠ '\t' := ne_of_number hc (by decide) rfl
  have hreturn : c ≠ '\r' := ne_of_number hc (by decide) rfl
  simp [isBlank, hspace, hline, htab, hreturn]

theorem skipScalar_number {cs rest : List Char} (h : IsNumber cs) (hrest : Ends rest) :
    skipScalar (cs ++ rest) = .ok rest := by
  obtain ⟨numeral, hread⟩ := exists_readNumeral .malformed h hrest
  obtain ⟨c, others, rfl, hc⟩ := h.exists_cons
  have hn : c ≠ 'n' := ne_of_number hc (by decide) rfl
  have ht : c ≠ 't' := ne_of_number hc (by decide) rfl
  have hf : c ≠ 'f' := ne_of_number hc (by decide) rfl
  have hquote : c ≠ '"' := ne_of_number hc (by decide) rfl
  rw [List.cons_append] at hread ⊢
  simp [skipScalar, hn, ht, hf, hquote, hc, hread]

/-! ## Passing over values -/

theorem skipNested_scalar {c : Char} (hblank : isBlank c = false) (hlist : c ≠ '[')
    (hrecord : c ≠ '{') (fuel : Nat) (cs : List Char) :
    skipNested (fuel + 1) (c :: cs) = skipScalar (c :: cs) := by
  simp [skipNested, hblank, hlist, hrecord]

theorem skipNested_skipBlank (fuel : Nat) (cs : List Char) :
    skipNested fuel (skipBlank cs) = skipNested fuel cs := by
  cases fuel with
  | zero => rfl
  | succ fuel => simp [skipNested]

theorem skipItems_skipBlank (fuel : Nat) (cs : List Char) :
    skipItems fuel (skipBlank cs) = skipItems fuel cs := by
  cases fuel with
  | zero => rfl
  | succ fuel => simp [skipItems, skipNested_skipBlank]

theorem skipMembers_skipBlank (fuel : Nat) (cs : List Char) :
    skipMembers fuel (skipBlank cs) = skipMembers fuel cs := by
  cases fuel with
  | zero => rfl
  | succ fuel => simp [skipMembers]

theorem Derives.opens {part : Part} {cs : List Char} (h : Derives part cs) (rest : List Char) :
    ∃ c others, skipBlank (cs ++ rest) = c :: others ∧ c ≠ ']' ∧ c ≠ '}' := by
  induction h generalizing rest with
  | null => exact ⟨'n', _, skipBlank_cons rfl _, by decide, by decide⟩
  | yes => exact ⟨'t', _, skipBlank_cons rfl _, by decide, by decide⟩
  | no => exact ⟨'f', _, skipBlank_cons rfl _, by decide, by decide⟩
  | number hnumber =>
      obtain ⟨c, others, rfl, hc⟩ := hnumber.exists_cons
      exact ⟨c, _, skipBlank_cons (isBlank_of_number hc) _, ne_of_number hc (by decide) rfl,
        ne_of_number hc (by decide) rfl⟩
  | string _ => exact ⟨'"', _, skipBlank_cons rfl _, by decide, by decide⟩
  | emptyList _ => exact ⟨'[', _, skipBlank_cons rfl _, by decide, by decide⟩
  | list _ _ => exact ⟨'[', _, skipBlank_cons rfl _, by decide, by decide⟩
  | emptyRecord _ => exact ⟨'{', _, skipBlank_cons rfl _, by decide, by decide⟩
  | record _ _ => exact ⟨'{', _, skipBlank_cons rfl _, by decide, by decide⟩
  | padded hfront _ _ ih =>
      rw [List.append_assoc, List.append_assoc, skipBlank_append hfront]
      exact ih _
  | item _ ih => exact ih rest
  | items _ _ ih _ =>
      rw [List.append_assoc]
      exact ih _
  | pair hfront _ _ _ _ =>
      rw [List.append_assoc, skipBlank_append hfront]
      exact ⟨'"', _, skipBlank_cons rfl _, by decide, by decide⟩
  | member _ ih => exact ih rest
  | members _ _ ih _ =>
      rw [List.append_assoc]
      exact ih _

theorem skipNested_list {items : List Char} (h : Derives .items items) (fuel : Nat)
    (rest : List Char) :
    skipNested (fuel + 1) ('[' :: (items ++ rest)) = skipItems fuel (items ++ rest) := by
  obtain ⟨c, others, hopens, hlist, -⟩ := h.opens rest
  rw [← skipItems_skipBlank, hopens]
  simp [skipNested, isBlank, hopens, hlist]

theorem skipNested_record {members : List Char} (h : Derives .members members) (fuel : Nat)
    (rest : List Char) :
    skipNested (fuel + 1) ('{' :: (members ++ rest)) = skipMembers fuel (members ++ rest) := by
  obtain ⟨c, others, hopens, -, hrecord⟩ := h.opens rest
  rw [← skipMembers_skipBlank, hopens]
  simp [skipNested, isBlank, hopens, hrecord]

/-- The text is passed over when it has this part in front and fuel is left. -/
def Passed : Part → List Char → Prop
  | .value, cs => ∀ fuel rest, cs.length ≤ fuel → Ends rest →
      skipNested fuel (cs ++ rest) = .ok rest
  | .padded, cs => ∀ fuel rest, cs.length ≤ fuel → Ends rest →
      ∃ gap, Blank gap ∧ skipNested fuel (cs ++ rest) = .ok (gap ++ rest)
  | .items, cs => ∀ fuel rest, cs.length < fuel → skipItems fuel (cs ++ ']' :: rest) = .ok rest
  | .member, cs => ∀ fuel rest, cs.length ≤ fuel →
      skipMembers (fuel + 1) (cs ++ '}' :: rest) = .ok rest ∧
        skipMembers (fuel + 1) (cs ++ ',' :: rest) = skipMembers fuel rest
  | .members, cs => ∀ fuel rest, cs.length < fuel → skipMembers fuel (cs ++ '}' :: rest) = .ok rest

theorem passed_value {cs : List Char} (hne : cs ≠ [])
    (h : ∀ fuel rest, cs.length ≤ fuel + 1 → Ends rest →
      skipNested (fuel + 1) (cs ++ rest) = .ok rest) : Passed .value cs := by
  intro fuel rest hfuel hrest
  cases fuel with
  | zero => exact absurd (List.length_eq_zero_iff.mp (Nat.le_zero.mp hfuel)) hne
  | succ fuel => exact h fuel rest hfuel hrest

theorem passed_scalar {c : Char} {cs : List Char} (hblank : isBlank c = false) (hlist : c ≠ '[')
    (hrecord : c ≠ '{') (h : ∀ rest, Ends rest → skipScalar (c :: (cs ++ rest)) = .ok rest) :
    Passed .value (c :: cs) := by
  refine passed_value (List.cons_ne_nil c cs) fun fuel rest _ hrest => ?_
  rw [List.cons_append, skipNested_scalar hblank hlist hrecord, h rest hrest]

/-- By induction on the derivation: each step of the reader follows one production, with fuel left for
what comes behind it. -/
theorem passed_of_derives {part : Part} {cs : List Char} (h : Derives part cs) : Passed part cs := by
  induction h with
  | null => exact passed_scalar rfl (by decide) (by decide) fun rest _ => skipWord_append _ rest
  | yes => exact passed_scalar rfl (by decide) (by decide) fun rest _ => skipWord_append _ rest
  | no => exact passed_scalar rfl (by decide) (by decide) fun rest _ => skipWord_append _ rest
  | number hnumber =>
      obtain ⟨c, others, rfl, hc⟩ := hnumber.exists_cons
      exact passed_scalar (isBlank_of_number hc) (ne_of_number hc (by decide) rfl)
        (ne_of_number hc (by decide) rfl) fun rest hrest => skipScalar_number hnumber hrest
  | string hbody =>
      refine passed_scalar rfl (by decide) (by decide) fun rest _ => ?_
      rw [List.append_assoc]
      exact skipChars_forms hbody rest
  | emptyList hgap =>
      refine passed_value (List.cons_ne_nil _ _) fun fuel rest _ _ => ?_
      simp [skipNested, isBlank, hgap]
  | list hitems ih =>
      refine passed_value (List.cons_ne_nil _ _) fun fuel rest hfuel _ => ?_
      rw [List.cons_append, List.append_assoc, skipNested_list hitems]
      simp only [List.length_cons, List.length_append] at hfuel
      exact ih fuel rest (by omega)
  | emptyRecord hgap =>
      refine passed_value (List.cons_ne_nil _ _) fun fuel rest _ _ => ?_
      simp [skipNested, isBlank, hgap]
  | record hmembers ih =>
      refine passed_value (List.cons_ne_nil _ _) fun fuel rest hfuel _ => ?_
      rw [List.cons_append, List.append_assoc, skipNested_record hmembers]
      simp only [List.length_cons, List.length_append] at hfuel
      exact ih fuel rest (by omega)
  | padded hfront hvalue hback ih =>
      rename_i front value back
      intro fuel rest hfuel hrest
      refine ⟨back, hback, ?_⟩
      rw [← skipNested_skipBlank, List.append_assoc, skipBlank_append hfront, skipNested_skipBlank,
        List.append_assoc]
      simp only [List.length_append] at hfuel
      exact ih fuel (back ++ rest) (by omega) (ends_blank_append hback hrest)
  | item hitem ih =>
      intro fuel rest hfuel
      obtain ⟨fuel, rfl⟩ := Nat.exists_eq_succ_of_ne_zero (Nat.ne_zero_of_lt hfuel)
      obtain ⟨gap, hgap, hskip⟩ := ih fuel (']' :: rest) (by omega) (ends_bracket rest)
      simp [skipItems, hskip, hgap, isBlank]
  | items hitem hothers ih ihothers =>
      intro fuel rest hfuel
      rw [List.append_assoc, List.cons_append]
      simp only [List.length_cons, List.length_append] at hfuel
      obtain ⟨fuel, rfl⟩ := Nat.exists_eq_succ_of_ne_zero (Nat.ne_zero_of_lt hfuel)
      obtain ⟨gap, hgap, hskip⟩ := ih fuel _ (by omega) (ends_comma _)
      rw [skipItems, hskip]
      simpa [hgap, isBlank] using ihothers fuel rest (by omega)
  | pair hfront hname hgap hvalue ih =>
      intro fuel rest hfuel
      simp only [List.length_cons, List.length_append] at hfuel
      obtain ⟨closing, hclosing, hclose⟩ := ih fuel ('}' :: rest) (by omega) (ends_brace rest)
      obtain ⟨parting, hparting, hpart⟩ := ih fuel (',' :: rest) (by omega) (ends_comma rest)
      constructor
      · simp [skipMembers, hfront, isBlank, skipChars_forms hname, skipColon_gap hgap, hclose, hclosing]
      · simp [skipMembers, hfront, isBlank, skipChars_forms hname, skipColon_gap hgap, hpart, hparting]
  | member hmember ih =>
      intro fuel rest hfuel
      obtain ⟨fuel, rfl⟩ := Nat.exists_eq_succ_of_ne_zero (Nat.ne_zero_of_lt hfuel)
      exact (ih fuel rest (by omega)).1
  | members hmember hothers ih ihothers =>
      intro fuel rest hfuel
      rw [List.append_assoc]
      simp only [List.length_cons, List.length_append] at hfuel
      obtain ⟨fuel, rfl⟩ := Nat.exists_eq_succ_of_ne_zero (Nat.ne_zero_of_lt hfuel)
      exact ((ih fuel _ (by omega)).2).trans (ihothers fuel rest (by omega))

theorem skipValue_value {lead cs rest : List Char} (hlead : Blank lead) (h : Derives .value cs)
    (hrest : Ends rest) : skipValue (lead ++ (cs ++ rest)) = .ok rest := by
  rw [skipValue, ← skipNested_skipBlank, skipBlank_append hlead, skipNested_skipBlank]
  have hfuel : cs.length ≤ 2 * (lead ++ (cs ++ rest)).length + 2 := by
    simp only [List.length_append]
    omega
  exact passed_of_derives h _ rest hfuel hrest

end Intercept.Json
