import Intercept.Json.Scan

/-!
# Strings in JSON text

A string is read character by character up to its closing quote.  An escape stands for one character,
and a leading surrogate needs a trailing one after it.  In a string that is only passed over, escapes
are looked at for their form alone.
-/

namespace Intercept.Json

/-! ## Escapes -/

def hexValue (c : Char) : Option Nat :=
  if '0' ≤ c ∧ c ≤ '9' then some (c.toNat - 48)
  else if 'a' ≤ c ∧ c ≤ 'f' then some (c.toNat - 87)
  else if 'A' ≤ c ∧ c ≤ 'F' then some (c.toNat - 55)
  else none

def hexQuad (a b c d : Char) : Option Nat := do
  let a ← hexValue a
  let b ← hexValue b
  let c ← hexValue c
  let d ← hexValue d
  return ((a * 16 + b) * 16 + c) * 16 + d

def byteLength : List Char → Nat
  | [] => 0
  | c :: cs => c.utf8Size + byteLength cs

/-- A text with fewer than four bytes left has ended inside the escape. -/
def quadFault (cs : List Char) : Fault :=
  if byteLength cs < 4 then .truncated else .malformed

def shortEscape (c : Char) : Option Char :=
  match c with
  | '"' => some '"'
  | '\\' => some '\\'
  | '/' => some '/'
  | 'b' => some (Char.ofNat 8)
  | 'f' => some (Char.ofNat 12)
  | 'n' => some '\n'
  | 'r' => some '\r'
  | 't' => some '\t'
  | _ => none

def isLeading (n : Nat) : Bool :=
  0xd800 ≤ n && n ≤ 0xdbff

def isTrailing (n : Nat) : Bool :=
  0xdc00 ≤ n && n ≤ 0xdfff

def pairValue (leading trailing : Nat) : Nat :=
  0x10000 + (leading - 0xd800) * 0x400 + (trailing - 0xdc00)

def readQuad : List Char → Reading Nat
  | a :: b :: c :: d :: rest =>
    match hexQuad a b c d with
    | none => .error .malformed
    | some n => .ok (n, rest)
  | cs => .error (quadFault cs)

/-- The fault of a text that does not go on with a second escape after a leading surrogate. -/
def pairFault : List Char → Fault
  | [] => .truncated
  | ['\\'] => .truncated
  | _ => .malformed

/-- A character by its number, or by a leading surrogate and the trailing one after it. -/
def readUnicode (cs : List Char) : Reading Char :=
  match readQuad cs with
  | .error fault => .error fault
  | .ok (n, rest) =>
    if isTrailing n then .error .malformed
    else if isLeading n then
      match rest with
      | '\\' :: 'u' :: rest =>
        match readQuad rest with
        | .error fault => .error fault
        | .ok (m, rest) =>
          if isTrailing m then .ok (Char.ofNat (pairValue n m), rest) else .error .malformed
      | rest => .error (pairFault rest)
    else .ok (Char.ofNat n, rest)

def readEscape : List Char → Reading Char
  | [] => .error .truncated
  | e :: cs =>
    match shortEscape e with
    | some c => .ok (c, cs)
    | none => if e = 'u' then readUnicode cs else .error .malformed

/-- Surrogates need no partner in a text that is passed over. -/
def skipEscape : List Char → Except Fault (List Char)
  | [] => .error .truncated
  | e :: cs =>
    match shortEscape e with
    | some _ => .ok cs
    | none =>
      if e = 'u' then
        match readQuad cs with
        | .error fault => .error fault
        | .ok (_, rest) => .ok rest
      else .error .malformed

theorem length_readQuad {cs rest : List Char} {n : Nat} (h : readQuad cs = .ok (n, rest)) :
    rest.length < cs.length := by
  unfold readQuad at h
  split at h
  · split at h
    · simp at h
    · simp only [Except.ok.injEq, Prod.mk.injEq] at h
      simp only [← h.2, List.length_cons]
      omega
  · simp at h

theorem length_readUnicode {cs rest : List Char} {c : Char} (h : readUnicode cs = .ok (c, rest)) :
    rest.length < cs.length := by
  unfold readUnicode at h
  split at h
  · simp at h
  · rename_i n after hquad
    have hlt := length_readQuad hquad
    split at h
    · simp at h
    · split at h
      · split at h
        · split at h
          · simp at h
          · rename_i hpair
            have hpairlt := length_readQuad hpair
            split at h
            · simp only [Except.ok.injEq, Prod.mk.injEq] at h
              rw [← h.2]
              simp only [List.length_cons] at hlt
              omega
            · simp at h
        · simp at h
      · simp only [Except.ok.injEq, Prod.mk.injEq] at h
        rw [← h.2]
        exact hlt

theorem length_readEscape {cs rest : List Char} {c : Char} (h : readEscape cs = .ok (c, rest)) :
    rest.length < cs.length := by
  unfold readEscape at h
  split at h
  · simp at h
  · split at h
    · simp only [Except.ok.injEq, Prod.mk.injEq] at h
      rw [← h.2, List.length_cons]
      omega
    · split at h
      · have hlt := length_readUnicode h
        rw [List.length_cons]
        omega
      · simp at h

theorem length_skipEscape {cs rest : List Char} (h : skipEscape cs = .ok rest) :
    rest.length < cs.length := by
  unfold skipEscape at h
  split at h
  · simp at h
  · split at h
    · simp only [Except.ok.injEq] at h
      rw [← h, List.length_cons]
      omega
    · split at h
      · split at h
        · simp at h
        · rename_i hquad
          have hlt := length_readQuad hquad
          simp only [Except.ok.injEq] at h
          rw [← h, List.length_cons]
          omega
      · simp at h

/-! ## Whole strings -/

def prepend (c : Char) : Reading (List Char) → Reading (List Char)
  | .error fault => .error fault
  | .ok (cs, rest) => .ok (c :: cs, rest)

def readChars (cs : List Char) : Reading (List Char) :=
  match cs with
  | [] => .error .truncated
  | c :: cs =>
    if c = '"' then .ok ([], cs)
    else if c = '\\' then
      match _h : readEscape cs with
      | .error fault => .error fault
      | .ok (c, rest) => prepend c (readChars rest)
    else if c.toNat < 0x20 then .error .malformed
    else prepend c (readChars cs)
termination_by cs.length
decreasing_by
  · have hlt := length_readEscape _h
    rw [List.length_cons]
    omega
  · rw [List.length_cons]
    omega

def skipChars (cs : List Char) : Except Fault (List Char) :=
  match cs with
  | [] => .error .truncated
  | c :: cs =>
    if c = '"' then .ok cs
    else if c = '\\' then
      match _h : skipEscape cs with
      | .error fault => .error fault
      | .ok rest => skipChars rest
    else if c.toNat < 0x20 then .error .malformed
    else skipChars cs
termination_by cs.length
decreasing_by
  · have hlt := length_skipEscape _h
    rw [List.length_cons]
    omega
  · rw [List.length_cons]
    omega

@[simp] theorem readChars_nil : readChars [] = .error .truncated := by
  rw [readChars]

@[simp] theorem readChars_quote (cs : List Char) : readChars ('"' :: cs) = .ok ([], cs) := by
  rw [readChars]
  simp

theorem readChars_escape (cs : List Char) :
    readChars ('\\' :: cs) =
      match readEscape cs with
      | .error fault => .error fault
      | .ok (c, rest) => prepend c (readChars rest) := by
  rw [readChars]
  cases h : readEscape cs <;> simp

theorem readChars_plain {c : Char} (hquote : c ≠ '"') (hslash : c ≠ '\\')
    (hcontrol : 0x20 ≤ c.toNat) (cs : List Char) :
    readChars (c :: cs) = prepend c (readChars cs) := by
  rw [readChars]
  simp [hquote, hslash, Nat.not_lt.mpr hcontrol]

@[simp] theorem skipChars_quote (cs : List Char) : skipChars ('"' :: cs) = .ok cs := by
  rw [skipChars]
  simp

theorem skipChars_escape (cs : List Char) :
    skipChars ('\\' :: cs) =
      match skipEscape cs with
      | .error fault => .error fault
      | .ok rest => skipChars rest := by
  rw [skipChars]
  cases h : skipEscape cs <;> simp

theorem skipChars_plain {c : Char} (hquote : c ≠ '"') (hslash : c ≠ '\\')
    (hcontrol : 0x20 ≤ c.toNat) (cs : List Char) :
    skipChars (c :: cs) = skipChars cs := by
  rw [skipChars]
  simp [hquote, hslash, Nat.not_lt.mpr hcontrol]

end Intercept.Json
