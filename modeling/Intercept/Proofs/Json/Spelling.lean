import Mathlib.Data.List.Forall2
import Intercept.Json.Chars
import Intercept.Json.Literal

/-!
# Spellings of a string

Between the quotes of a string a character may stand for itself, unless it is a quote, a backslash or a
control.  Eight characters may be spelled by a backslash and a letter, and every one by the
hexadecimal numbers of its UTF-16 units.  Reading accepts these spellings and no others
(`readChars_eq_ok_iff`), and what is written is one of them (`spells_writeChars`).
-/

namespace Intercept.Json

/-! ## Spellings -/

def lowerDigits : List Char :=
  ['0', '1', '2', '3', '4', '5', '6', '7', '8', '9', 'a', 'b', 'c', 'd', 'e', 'f']

def upperDigits : List Char :=
  ['0', '1', '2', '3', '4', '5', '6', '7', '8', '9', 'A', 'B', 'C', 'D', 'E', 'F']

def IsHexDigit (digit : Char) (n : Nat) : Prop :=
  lowerDigits[n]? = some digit ∨ upperDigits[n]? = some digit

inductive HexQuad : List Char → Nat → Prop
  | digits {a b c d : Char} {k l m n : Nat} (ha : IsHexDigit a k) (hb : IsHexDigit b l)
      (hc : IsHexDigit c m) (hd : IsHexDigit d n) :
      HexQuad [a, b, c, d] (4096 * k + 256 * l + 16 * m + n)

def units (c : Char) : List Nat :=
  if c.toNat < 0x10000 then [c.toNat]
  else [0xd800 + (c.toNat - 0x10000) / 0x400, 0xdc00 + (c.toNat - 0x10000) % 0x400]

def escapedUnit (quad : List Char) : List Char :=
  '\\' :: 'u' :: quad

def letterEscapes : List (Char × Char) :=
  [('"', '"'), ('\\', '\\'), ('/', '/'), ('b', Char.ofNat 8), ('f', Char.ofNat 12), ('n', '\n'),
    ('r', '\r'), ('t', '\t')]

inductive SpellsChar : List Char → Char → Prop
  | plain {c : Char} (hquote : c ≠ '"') (hslash : c ≠ '\\') (hcontrol : 0x20 ≤ c.toNat) :
      SpellsChar [c] c
  | letter {e c : Char} (h : (e, c) ∈ letterEscapes) : SpellsChar ['\\', e] c
  | units {c : Char} {quads : List (List Char)} (h : List.Forall₂ HexQuad quads (units c)) :
      SpellsChar (quads.flatMap escapedUnit) c

/-- What stands between the quotes of a string of these characters. -/
inductive Spells : List Char → List Char → Prop
  | nil : Spells [] []
  | cons {spelling body cs : List Char} {c : Char} (hc : SpellsChar spelling c)
      (hcs : Spells body cs) : Spells (spelling ++ body) (c :: cs)

/-! ## Hexadecimal numbers -/

private theorem lowerDigits_decimal :
    ∀ n < 10, lowerDigits[n]? = some (Char.ofNat (48 + n)) := by
  decide

private theorem lowerDigits_letter :
    ∀ n < 6, lowerDigits[10 + n]? = some (Char.ofNat (97 + n)) := by
  decide

private theorem upperDigits_letter :
    ∀ n < 6, upperDigits[10 + n]? = some (Char.ofNat (65 + n)) := by
  decide

private theorem bind_hexValue :
    ∀ n < 16, lowerDigits[n]?.bind hexValue = some n ∧ upperDigits[n]?.bind hexValue = some n := by
  decide

theorem char_le_iff {c d : Char} : c ≤ d ↔ c.toNat ≤ d.toNat :=
  Iff.rfl

theorem IsHexDigit.lt {c : Char} {n : Nat} (h : IsHexDigit c n) : n < 16 := by
  rcases h with h | h
  · exact (List.getElem?_eq_some_iff.mp h).1
  · exact (List.getElem?_eq_some_iff.mp h).1

theorem hexValue_eq_some_iff {c : Char} {n : Nat} : hexValue c = some n ↔ IsHexDigit c n := by
  constructor
  · intro h
    have hofNat := Char.ofNat_toNat c
    unfold hexValue at h
    simp only [char_le_iff, Char.reduceToNat] at h
    split at h
    · rw [Option.some_inj] at h
      have hdigit := lowerDigits_decimal n (by omega)
      rw [show 48 + n = c.toNat by omega, hofNat] at hdigit
      exact .inl hdigit
    · split at h
      · rw [Option.some_inj] at h
        have hdigit := lowerDigits_letter (n - 10) (by omega)
        rw [show 10 + (n - 10) = n by omega, show 97 + (n - 10) = c.toNat by omega, hofNat]
          at hdigit
        exact .inl hdigit
      · split at h
        · rw [Option.some_inj] at h
          have hdigit := upperDigits_letter (n - 10) (by omega)
          rw [show 10 + (n - 10) = n by omega, show 65 + (n - 10) = c.toNat by omega, hofNat]
            at hdigit
          exact .inr hdigit
        · cases h
  · intro h
    obtain ⟨hlower, hupper⟩ := bind_hexValue n h.lt
    rcases h with h | h
    · rwa [h] at hlower
    · rwa [h] at hupper

theorem HexQuad.lt {quad : List Char} {n : Nat} (h : HexQuad quad n) : n < 0x10000 := by
  cases h with
  | digits ha hb hc hd =>
      have := ha.lt
      have := hb.lt
      have := hc.lt
      have := hd.lt
      omega

theorem hexQuad_eq_some_iff {a b c d : Char} {n : Nat} :
    hexQuad a b c d = some n ↔ HexQuad [a, b, c, d] n := by
  constructor
  · intro h
    simp only [hexQuad, Option.pure_def, Option.bind_eq_bind, Option.bind_eq_some_iff,
      hexValue_eq_some_iff, Option.some_inj] at h
    obtain ⟨k, hk, l, hl, m, hm, r, hr, rfl⟩ := h
    convert HexQuad.digits hk hl hm hr using 1
    omega
  · rintro ⟨hk, hl, hm, hr⟩
    rw [← hexValue_eq_some_iff] at hk hl hm hr
    simp [hexQuad, hk, hl, hm, hr]
    omega

theorem readQuad_quad {quad : List Char} {n : Nat} (h : HexQuad quad n) (rest : List Char) :
    readQuad (quad ++ rest) = .ok (n, rest) := by
  have hquad := h
  cases hquad with
  | digits ha hb hc hd => simp [readQuad, hexQuad_eq_some_iff.mpr h]

theorem readQuad_eq_ok_iff {cs rest : List Char} {n : Nat} :
    readQuad cs = .ok (n, rest) ↔ ∃ quad, HexQuad quad n ∧ cs = quad ++ rest := by
  constructor
  · intro h
    unfold readQuad at h
    split at h
    · rename_i a b c d tail
      split at h
      · cases h
      · rename_i hquad
        cases h
        exact ⟨[a, b, c, d], hexQuad_eq_some_iff.mp hquad, rfl⟩
    · cases h
  · rintro ⟨quad, hquad, rfl⟩
    exact readQuad_quad hquad rest

/-! ## Escapes -/

theorem shortEscape_eq_some_iff {e c : Char} :
    shortEscape e = some c ↔ (e, c) ∈ letterEscapes := by
  constructor
  · intro h
    unfold shortEscape at h
    split at h <;> simp_all [letterEscapes, eq_comm]
  · intro h
    simp only [letterEscapes, List.mem_cons, Prod.mk.injEq, List.not_mem_nil, or_false] at h
    rcases h with ⟨rfl, rfl⟩ | ⟨rfl, rfl⟩ | ⟨rfl, rfl⟩ | ⟨rfl, rfl⟩ | ⟨rfl, rfl⟩ | ⟨rfl, rfl⟩ |
      ⟨rfl, rfl⟩ | ⟨rfl, rfl⟩ <;> rfl

theorem toNat_bounds (c : Char) : c.toNat < 0xd800 ∨ 0xdfff < c.toNat ∧ c.toNat < 0x110000 :=
  c.valid

theorem toNat_ofNat_of_bounds {n : Nat} (h : n < 0xd800 ∨ 0xdfff < n ∧ n < 0x110000) :
    (Char.ofNat n).toNat = n := by
  rw [Char.ofNat, dif_pos h]
  rfl

theorem units_ofNat {n : Nat} (h : n < 0xd800 ∨ 0xdfff < n ∧ n < 0x10000) :
    units (Char.ofNat n) = [n] := by
  rw [units, toNat_ofNat_of_bounds (by omega), if_pos (by omega)]

theorem units_pairValue {m n : Nat} (hm : isLeading m = true) (hn : isTrailing n = true) :
    units (Char.ofNat (pairValue m n)) = [m, n] := by
  simp only [isLeading, isTrailing, Bool.and_eq_true, decide_eq_true_eq] at hm hn
  have hvalue : pairValue m n = 0x10000 + (m - 0xd800) * 0x400 + (n - 0xdc00) := rfl
  have hleading : 0xd800 + (pairValue m n - 0x10000) / 0x400 = m := by omega
  have htrailing : 0xdc00 + (pairValue m n - 0x10000) % 0x400 = n := by omega
  rw [units, toNat_ofNat_of_bounds (by omega), if_neg (by omega), hleading, htrailing]

theorem units_cases (c : Char) :
    units c = [c.toNat] ∧ isTrailing c.toNat = false ∧ isLeading c.toNat = false ∨
      ∃ m n, units c = [m, n] ∧ isLeading m = true ∧ isTrailing n = true ∧ pairValue m n = c.toNat := by
  have hc := toNat_bounds c
  unfold units
  split
  · refine .inl ⟨rfl, ?_, ?_⟩
    · simp [isTrailing]
      omega
    · simp [isLeading]
      omega
  · refine .inr ⟨_, _, rfl, ?_, ?_, ?_⟩
    · simp [isLeading]
      omega
    · simp [isTrailing]
      omega
    · unfold pairValue
      omega

theorem readUnicode_eq_ok_iff {cs rest : List Char} {c : Char} :
    readUnicode cs = .ok (c, rest) ↔
      ∃ quads, List.Forall₂ HexQuad quads (units c) ∧
        '\\' :: 'u' :: cs = quads.flatMap escapedUnit ++ rest := by
  constructor
  · intro h
    unfold readUnicode at h
    split at h
    · cases h
    · rename_i n after hread
      obtain ⟨quad, hquad, rfl⟩ := readQuad_eq_ok_iff.mp hread
      have hlt := hquad.lt
      split at h
      · cases h
      · rename_i htrailing
        split at h
        · rename_i hleading
          split at h
          · rename_i tail
            split at h
            · cases h
            · rename_i m after hread'
              obtain ⟨quad', hquad', rfl⟩ := readQuad_eq_ok_iff.mp hread'
              split at h
              · rename_i htrailing'
                obtain ⟨rfl, rfl⟩ := Prod.mk.inj (Except.ok.inj h)
                refine ⟨[quad, quad'], ?_, by simp [escapedUnit]⟩
                rw [units_pairValue hleading htrailing']
                exact .cons hquad (.cons hquad' .nil)
              · cases h
          · cases h
        · rename_i hleading
          obtain ⟨rfl, rfl⟩ := Prod.mk.inj (Except.ok.inj h)
          refine ⟨[quad], ?_, by simp [escapedUnit]⟩
          simp only [isTrailing, isLeading, Bool.and_eq_true, decide_eq_true_eq] at htrailing hleading
          rw [units_ofNat (by omega)]
          exact .cons hquad .nil
  · rintro ⟨quads, hquads, hcs⟩
    rcases units_cases c with ⟨hunits, htrailing, hleading⟩ |
      ⟨m, n, hunits, hleading, htrailing, hvalue⟩
    · rw [hunits] at hquads
      cases hquads with
      | cons hquad hnil =>
          cases hnil
          rename_i quad
          obtain rfl : cs = quad ++ rest := by simpa [escapedUnit] using hcs
          simp [readUnicode, readQuad_quad hquad, htrailing, hleading]
    · rw [hunits] at hquads
      cases hquads with
      | cons hquad hquads =>
          cases hquads with
          | cons hquad' hnil =>
              cases hnil
              rename_i quad quad'
              obtain rfl : cs = quad ++ '\\' :: 'u' :: (quad' ++ rest) := by
                simpa [escapedUnit] using hcs
              have hm : isTrailing m = false := by
                simp [isLeading, isTrailing] at hleading ⊢
                omega
              simp [readUnicode, readQuad_quad hquad, readQuad_quad hquad', hm, hleading, htrailing,
                hvalue]

theorem units_ne_nil (c : Char) : units c ≠ [] := by
  unfold units
  split <;> simp

theorem readEscape_eq_ok_iff {cs rest : List Char} {c : Char} :
    readEscape cs = .ok (c, rest) ↔
      ∃ spelling, SpellsChar spelling c ∧ '\\' :: cs = spelling ++ rest := by
  constructor
  · intro h
    unfold readEscape at h
    split at h
    · cases h
    · rename_i e cs
      split at h
      · rename_i hshort
        cases h
        exact ⟨['\\', e], .letter (shortEscape_eq_some_iff.mp hshort), rfl⟩
      · split at h
        · rename_i he
          obtain ⟨quads, hquads, hcs⟩ := readUnicode_eq_ok_iff.mp h
          exact ⟨_, .units hquads, he ▸ hcs⟩
        · cases h
  · rintro ⟨spelling, hspelling, hcs⟩
    cases hspelling with
    | plain hquote hslash hcontrol => exact absurd (List.cons.inj hcs).1.symm hslash
    | letter hletter =>
        rw [(List.cons.inj hcs).2]
        simp [readEscape, shortEscape_eq_some_iff.mpr hletter]
    | units hquads =>
        rename_i quads
        cases quads with
        | nil => exact absurd (List.forall₂_nil_left_iff.mp hquads) (units_ne_nil c)
        | cons quad quads =>
            obtain rfl : cs = 'u' :: (quad ++ (quads.flatMap escapedUnit ++ rest)) := by
              simpa [escapedUnit] using hcs
            have hread := readUnicode_eq_ok_iff.mpr ⟨_, hquads, hcs⟩
            simp [readEscape, shortEscape, hread]

/-! ## Strings -/

theorem readChars_spelled {spelling : List Char} {c : Char} (h : SpellsChar spelling c)
    (cs : List Char) : readChars (spelling ++ cs) = prepend c (readChars cs) := by
  have hescape : ∀ rest, spelling = '\\' :: rest →
      readChars (spelling ++ cs) = prepend c (readChars cs) := by
    rintro rest rfl
    have hread := readEscape_eq_ok_iff.mpr ⟨_, h, Eq.refl ('\\' :: (rest ++ cs))⟩
    rw [List.cons_append, readChars_escape, hread]
  cases h with
  | plain hquote hslash hcontrol => exact readChars_plain hquote hslash hcontrol cs
  | letter hletter => exact hescape _ rfl
  | units hquads =>
      rename_i quads
      cases quads with
      | nil => exact absurd (List.forall₂_nil_left_iff.mp hquads) (units_ne_nil c)
      | cons quad quads => exact hescape _ rfl

theorem readChars_spells {body cs : List Char} (h : Spells body cs) (rest : List Char) :
    readChars (body ++ '"' :: rest) = .ok (cs, rest) := by
  induction h with
  | nil => exact readChars_quote rest
  | cons hc hcs ih => rw [List.append_assoc, readChars_spelled hc, ih, prepend]

theorem of_prepend {c : Char} {reading : Reading (List Char)} {cs rest : List Char}
    (h : prepend c reading = .ok (cs, rest)) :
    ∃ others, reading = .ok (others, rest) ∧ cs = c :: others := by
  cases reading with
  | error fault => cases h
  | ok read =>
      obtain ⟨others, tail⟩ := read
      cases h
      exact ⟨others, rfl, rfl⟩

theorem exists_spells_of_readChars {cs name rest : List Char} (h : readChars cs = .ok (name, rest)) :
    ∃ body, Spells body name ∧ cs = body ++ '"' :: rest := by
  induction cs using readChars.induct generalizing name with
  | case1 =>
      rw [readChars_nil] at h
      cases h
  | case2 cs =>
      rw [readChars_quote] at h
      cases h
      exact ⟨[], .nil, rfl⟩
  | case3 cs fault hread =>
      rw [readChars_escape, hread] at h
      cases h
  | case4 cs c tail hread _ ih =>
      obtain ⟨spelling, hspelling, hcs⟩ := readEscape_eq_ok_iff.mp hread
      rw [readChars_escape, hread] at h
      obtain ⟨name, hname, rfl⟩ := of_prepend h
      obtain ⟨body, hbody, rfl⟩ := ih hname
      exact ⟨spelling ++ body, .cons hspelling hbody, by rw [hcs, List.append_assoc]⟩
  | case5 c cs hquote hslash hcontrol =>
      rw [readChars] at h
      simp [hquote, hslash, hcontrol] at h
  | case6 c cs hquote hslash hcontrol ih =>
      have hc := Nat.not_lt.mp hcontrol
      rw [readChars_plain hquote hslash hc] at h
      obtain ⟨name, hname, rfl⟩ := of_prepend h
      obtain ⟨body, hbody, rfl⟩ := ih hname
      exact ⟨c :: body, .cons (.plain hquote hslash hc) hbody, rfl⟩

/-- Strings are read from their spellings and from nothing else. -/
theorem readChars_eq_ok_iff {cs name rest : List Char} :
    readChars cs = .ok (name, rest) ↔ ∃ body, Spells body name ∧ cs = body ++ '"' :: rest := by
  constructor
  · exact exists_spells_of_readChars
  · rintro ⟨body, hbody, rfl⟩
    exact readChars_spells hbody rest

/-! ## Written strings -/

private theorem isHexDigit_hexDigit : ∀ n < 16, lowerDigits[n]? = some (hexDigit n) := by
  decide

theorem hexQuad_escapeControl {n : Nat} (h : n < 0x20) :
    HexQuad ['0', '0', hexDigit (n / 16), hexDigit (n % 16)] n := by
  have hzero : IsHexDigit '0' 0 := .inl rfl
  have hhigh : IsHexDigit (hexDigit (n / 16)) (n / 16) := .inl (isHexDigit_hexDigit _ (by omega))
  have hlow : IsHexDigit (hexDigit (n % 16)) (n % 16) := .inl (isHexDigit_hexDigit _ (by omega))
  convert HexQuad.digits hzero hzero hhigh hlow using 1
  omega

theorem spellsChar_writeChar (c : Char) : SpellsChar (writeChar c) c := by
  unfold writeChar
  split_ifs with hquote hslash _ _ _ _ _ hcontrol
  any_goals exact .letter (by simp [letterEscapes, *])
  · have hunits : units c = [c.toNat] := if_pos (by omega)
    have hquads := List.Forall₂.cons (hexQuad_escapeControl hcontrol) .nil
    exact .units (hunits ▸ hquads)
  · exact .plain hquote hslash (Nat.not_lt.mp hcontrol)

theorem spells_writeChars (cs : List Char) : Spells (writeChars cs) cs := by
  induction cs with
  | nil => exact .nil
  | cons c cs ih => exact .cons (spellsChar_writeChar c) ih

end Intercept.Json
