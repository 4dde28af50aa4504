import Mathlib.Data.List.TakeDrop
import Intercept.Json.Magnitude
import Intercept.Proofs.Json.Layout

/-!
# Numbers in JSON text

A number is a sign, a whole part, a fraction and an exponent, of which only the whole part has to be
there.  It is read as far as it goes (`exists_readNumeral`).  The decimal digits of a number that
64 bits hold are in range (`isBeyond_toDigits`) and read as that word (`word?_toDigits`).
-/

namespace Intercept.Json

/-! ## Forms of numbers -/

def IsDigits (cs : List Char) : Prop :=
  cs ≠ [] ∧ ∀ c ∈ cs, isDigit c = true

/-- A zero in front stands alone. -/
def IsWhole (cs : List Char) : Prop :=
  IsDigits cs ∧ (cs.head? = some '0' → cs = ['0'])

inductive IsFraction : List Char → Prop
  | none : IsFraction []
  | digits {ds : List Char} (h : IsDigits ds) : IsFraction ('.' :: ds)

inductive IsExponent : List Char → Prop
  | none : IsExponent []
  | digits {e : Char} {sign ds : List Char} (he : e = 'e' ∨ e = 'E')
      (hsign : sign ∈ [[], ['+'], ['-']]) (h : IsDigits ds) : IsExponent (e :: (sign ++ ds))

inductive IsNumber : List Char → Prop
  | mk {sign whole fraction exponent : List Char} (hsign : sign ∈ [[], ['-']])
      (hwhole : IsWhole whole) (hfraction : IsFraction fraction) (hexponent : IsExponent exponent) :
      IsNumber (sign ++ (whole ++ (fraction ++ exponent)))

/-! ## Reading numbers -/

/-- The text does not go on with a digit. -/
def EndsDigits (rest : List Char) : Prop :=
  ∀ c ∈ rest.head?, isDigit c = false

theorem Ends.digits {rest : List Char} (h : Ends rest) : EndsDigits rest :=
  fun c hc => (h c hc).1

theorem IsDigits.exists_cons {ds : List Char} (h : IsDigits ds) :
    ∃ d others, ds = d :: others ∧ isDigit d = true := by
  obtain ⟨d, others, rfl⟩ := List.exists_cons_of_ne_nil h.1
  exact ⟨d, others, rfl, h.2 d List.mem_cons_self⟩

theorem ne_of_isDigit {c d : Char} (hc : isDigit c = true) (hd : isDigit d = false) : c ≠ d := by
  rintro rfl
  simp [hc] at hd

theorem readDigits_digits {ds rest : List Char} (cut : Fault) (h : IsDigits ds)
    (hrest : EndsDigits rest) : readDigits cut (ds ++ rest) = .ok (ds, rest) := by
  have hspan : (ds ++ rest).span isDigit = (ds, rest) := by
    rw [List.span_eq_takeWhile_dropWhile, List.takeWhile_append_of_pos h.2,
      List.dropWhile_append_of_pos h.2]
    cases rest with
    | nil => simp
    | cons c rest =>
        have hc := hrest c rfl
        simp [hc]
  obtain ⟨d, others, rfl, -⟩ := h.exists_cons
  simp only [readDigits, hspan]

theorem readWhole_whole {ds rest : List Char} (cut : Fault) (h : IsWhole ds)
    (hrest : EndsDigits rest) : readWhole cut (ds ++ rest) = .ok (ds, rest) := by
  obtain ⟨hdigits, hzero⟩ := h
  rw [readWhole, readDigits_digits cut hdigits hrest]
  split
  · rename_i hread
    cases hread
    simp at hzero
  · rfl

theorem readFraction_fraction {fraction rest : List Char} (cut : Fault) (h : IsFraction fraction)
    (hdigits : EndsDigits rest) (hpoint : rest.head? ≠ some '.') :
    readFraction cut (fraction ++ rest) = .ok (fraction.drop 1, rest) := by
  cases h with
  | none =>
      rw [List.nil_append, readFraction]
      · rfl
      · rintro tail rfl
        exact hpoint rfl
  | digits h => exact readDigits_digits cut h hdigits

theorem readSign_sign {sign ds : List Char} (hsign : sign ∈ [[], ['+'], ['-']]) (h : IsDigits ds)
    (rest : List Char) : (readSign (sign ++ (ds ++ rest))).2 = ds ++ rest := by
  obtain ⟨d, others, rfl, hd⟩ := h.exists_cons
  simp only [List.mem_cons, List.not_mem_nil, or_false] at hsign
  rcases hsign with rfl | rfl | rfl
  · have hminus : d ≠ '-' := ne_of_isDigit hd rfl
    have hplus : d ≠ '+' := ne_of_isDigit hd rfl
    simp [readSign, hminus, hplus]
  · rfl
  · rfl

theorem readExponent_of_ends {rest : List Char} (cut : Fault) (hrest : Ends rest) :
    readExponent cut rest = .ok (none, rest) := by
  cases rest with
  | nil => rfl
  | cons c rest =>
      obtain ⟨-, -, he, hE⟩ := hrest c rfl
      simp [readExponent, he, hE]

theorem exists_readExponent {exponent rest : List Char} (cut : Fault) (h : IsExponent exponent)
    (hrest : Ends rest) : ∃ read, readExponent cut (exponent ++ rest) = .ok (read, rest) := by
  cases h with
  | none => exact ⟨.none, readExponent_of_ends cut hrest⟩
  | digits he hsign h =>
      rename_i e sign ds
      refine ⟨.some ((readSign (sign ++ (ds ++ rest))).1, ds), ?_⟩
      have hread := readSign_sign hsign h rest
      simp [readExponent, he, hread, readDigits_digits cut h hrest.digits]

theorem IsFraction.endsDigits {fraction rest : List Char} (h : IsFraction fraction)
    (hrest : EndsDigits rest) : EndsDigits (fraction ++ rest) := by
  cases h with
  | none => exact hrest
  | digits h =>
      rintro c ⟨⟩
      rfl

theorem IsExponent.endsDigits {exponent rest : List Char} (h : IsExponent exponent)
    (hrest : Ends rest) :
    EndsDigits (exponent ++ rest) ∧ (exponent ++ rest).head? ≠ some '.' := by
  cases h with
  | none =>
      refine ⟨hrest.digits, fun hpoint => ?_⟩
      exact (hrest '.' hpoint).2.1 rfl
  | digits he hsign h =>
      constructor
      · rintro c ⟨⟩
        rcases he with rfl | rfl <;> rfl
      · rcases he with rfl | rfl <;> simp

theorem exists_readUnsigned {whole fraction exponent rest : List Char} (cut : Fault)
    (negative : Bool) (hwhole : IsWhole whole) (hfraction : IsFraction fraction)
    (hexponent : IsExponent exponent) (hrest : Ends rest) :
    ∃ read, readUnsigned cut negative (whole ++ (fraction ++ (exponent ++ rest))) =
      .ok (⟨negative, whole, fraction.drop 1, read⟩, rest) := by
  obtain ⟨hdigits, hpoint⟩ := hexponent.endsDigits hrest
  obtain ⟨read, hread⟩ := exists_readExponent cut hexponent hrest
  refine ⟨read, ?_⟩
  simp [readUnsigned, readWhole_whole cut hwhole (hfraction.endsDigits hdigits),
    readFraction_fraction cut hfraction hdigits hpoint, hread]

theorem exists_readNumeral {cs rest : List Char} (cut : Fault) (h : IsNumber cs)
    (hrest : Ends rest) : ∃ numeral, readNumeral cut (cs ++ rest) = .ok (numeral, rest) := by
  cases h with
  | mk hsign hwhole hfraction hexponent =>
      obtain ⟨d, others, rfl, hd⟩ := hwhole.1.exists_cons
      simp only [List.mem_cons, List.not_mem_nil, or_false] at hsign
      rcases hsign with rfl | rfl
      · obtain ⟨read, hread⟩ := exists_readUnsigned cut false hwhole hfraction hexponent hrest
        have hminus : d ≠ '-' := ne_of_isDigit hd rfl
        refine ⟨_, Eq.trans ?_ hread⟩
        simp [readNumeral, hminus]
      · obtain ⟨read, hread⟩ := exists_readUnsigned cut true hwhole hfraction hexponent hrest
        refine ⟨_, Eq.trans ?_ hread⟩
        simp [readNumeral]

/-! ## Words -/

theorem toDigits_head? (n : Nat) (h : (Nat.toDigits 10 n).head? = some '0') :
    Nat.toDigits 10 n = ['0'] := by
  induction n using Nat.strong_induction_on with
  | h n ih =>
      rcases Nat.lt_or_ge n 10 with hlt | hge
      · rw [Nat.toDigits_of_lt_base hlt] at h ⊢
        rw [Option.some.inj h]
      · -- The first digit is that of a tenth, which is not zero.
        rw [Nat.toDigits_of_base_le (by decide) hge,
          List.head?_append_of_ne_nil _ Nat.toDigits_ne_nil] at h
        have hvalue := Nat.ofDigitChars_ten_toDigits (n := n / 10)
        rw [ih (n / 10) (by omega) h] at hvalue
        have hzero : 0 = n / 10 := hvalue
        omega

theorem isWhole_toDigits (n : Nat) : IsWhole (Nat.toDigits 10 n) := by
  refine ⟨⟨Nat.toDigits_ne_nil, fun c hc => ?_⟩, toDigits_head? n⟩
  have h := Nat.isDigit_of_mem_toDigits (by decide) (by decide) hc
  rw [Char.isDigit_iff_toNat] at h
  simpa [isDigit, Char.le_def, UInt32.le_iff_toNat_le] using h

theorem digitsValue_toDigits (n : Nat) : digitsValue (Nat.toDigits 10 n) = n := by
  have h := Nat.ofDigitChars_ten_toDigits (n := n)
  rw [Nat.ofDigitChars_eq_foldl] at h
  simpa [digitsValue, Nat.mul_comm] using h

theorem readNumeral_toDigits {rest : List Char} (cut : Fault) (n : Nat) (hrest : Ends rest) :
    readNumeral cut (Nat.toDigits 10 n ++ rest) =
      .ok (⟨false, Nat.toDigits 10 n, [], none⟩, rest) := by
  have hwhole := readWhole_whole cut (isWhole_toDigits n) hrest.digits
  have hpoint : rest.head? ≠ some '.' := fun h => (hrest '.' h).2.1 rfl
  have hfraction : readFraction cut rest = .ok ([], rest) :=
    readFraction_fraction cut .none hrest.digits hpoint
  have hread : readUnsigned cut false (Nat.toDigits 10 n ++ rest) =
      .ok (⟨false, Nat.toDigits 10 n, [], none⟩, rest) := by
    simp [readUnsigned, hwhole, hfraction, readExponent_of_ends cut hrest]
  obtain ⟨d, others, hdigits, hd⟩ := (isWhole_toDigits n).1.exists_cons
  have hminus : d ≠ '-' := ne_of_isDigit hd rfl
  rw [← hread, hdigits]
  simp [readNumeral, hminus]

/-! ## Range of words -/

theorem le_foldl_digits (digits : List Char) (n : Nat) :
    n ≤ digits.foldl (fun n c => n * 10 + (c.toNat - 48)) n := by
  induction digits generalizing n with
  | nil => exact Nat.le_refl n
  | cons d digits ih => exact Nat.le_trans (by omega) (ih (n * 10 + (d.toNat - 48)))

theorem absorb_of_lt (digits : List Char) {n : Nat}
    (h : digits.foldl (fun n c => n * 10 + (c.toNat - 48)) n < 18446744073709551616) :
    absorb n digits = (digits.foldl (fun n c => n * 10 + (c.toNat - 48)) n, digits.length) := by
  induction digits generalizing n with
  | nil => rfl
  | cons d digits ih =>
      rw [List.foldl_cons] at h ⊢
      have hlt := Nat.lt_of_le_of_lt (le_foldl_digits digits _) h
      simp [absorb, hlt, ih h]

theorem nearestBinary64_le (n : Nat) : nearestBinary64 n ≤ 2 * n := by
  rcases Nat.eq_zero_or_pos n with rfl | hn
  · decide
  · have hunit : 2 ^ (Nat.log2 n + 1 - 53) ≤ n :=
      Nat.le_trans (Nat.pow_le_pow_right (by decide) (by omega)) (Nat.log2_self_le hn.ne')
    have hquotient := Nat.div_mul_le_self n (2 ^ (Nat.log2 n + 1 - 53))
    unfold nearestBinary64
    simp only [Nat.pow_eq]
    split
    · rw [Nat.succ_mul]
      omega
    · omega

theorem words_le_beyondBinary64 : 4 * 18446744073709551616 ≤ beyondBinary64 := by
  decide +kernel

theorem isBeyond_toDigits {n : Nat} (h : n < 18446744073709551616) :
    Numeral.isBeyond ⟨false, Nat.toDigits 10 n, [], none⟩ = false := by
  have hvalue := digitsValue_toDigits n
  unfold digitsValue at hvalue
  have habsorb := absorb_of_lt (Nat.toDigits 10 n) (n := 0) (by omega)
  rw [hvalue] at habsorb
  have hscaled : Numeral.scaled ⟨false, Nat.toDigits 10 n, [], none⟩ = (n, 0) := by
    simp [Numeral.scaled, habsorb, absorb, Numeral.exponentValue]
  have hproduct : nearestBinary64 n * nearestBinary64 1 ≤ 2 * n * (2 * 1) :=
    Nat.mul_le_mul (nearestBinary64_le n) (nearestBinary64_le 1)
  have hbeyond := words_le_beyondBinary64
  have hlt : nearestBinary64 n * nearestBinary64 1 < beyondBinary64 := by omega
  simp [Numeral.isBeyond, hscaled, hlt]

theorem word?_toDigits {n : Nat} (h : n < 18446744073709551616) :
    Numeral.word? ⟨false, Nat.toDigits 10 n, [], none⟩ = some n := by
  simp [Numeral.word?, digitsValue_toDigits, h]

end Intercept.Json
