import Intercept.Json.Scan

/-!
# Numbers in JSON text

A number is read as it is written; what it stands for is another matter.
-/

namespace Intercept.Json

def isDigit (c : Char) : Bool :=
  '0' ≤ c && c ≤ '9'

def digitsValue (digits : List Char) : Nat :=
  digits.foldl (fun n c => n * 10 + (c.toNat - 48)) 0

/-- A number as it is written.  The fraction is empty when there is no point. -/
structure Numeral where
  negative : Bool
  whole : List Char
  fraction : List Char
  exponent : Option (Bool × List Char)
  deriving DecidableEq, Repr

/-- One digit or more; `cut` is the fault of a text that ends before the first. -/
def readDigits (cut : Fault) (cs : List Char) : Reading (List Char) :=
  match cs.span isDigit with
  | ([], []) => .error cut
  | ([], _ :: _) => .error .malformed
  | (digits, rest) => .ok (digits, rest)

/-- A zero in front stands alone. -/
def readWhole (cut : Fault) (cs : List Char) : Reading (List Char) :=
  match readDigits cut cs with
  | .ok ('0' :: _ :: _, _) => .error .malformed
  | reading => reading

def readFraction (cut : Fault) (cs : List Char) : Reading (List Char) :=
  match cs with
  | '.' :: rest => readDigits cut rest
  | cs => .ok ([], cs)

def readSign : List Char → Bool × List Char
  | '-' :: rest => (true, rest)
  | '+' :: rest => (false, rest)
  | cs => (false, cs)

def readExponent (cut : Fault) : List Char → Reading (Option (Bool × List Char))
  | [] => .ok (none, [])
  | c :: cs =>
    if c = 'e' ∨ c = 'E' then
      let (negative, cs) := readSign cs
      match readDigits cut cs with
      | .error fault => .error fault
      | .ok (digits, rest) => .ok (some (negative, digits), rest)
    else .ok (none, c :: cs)

def readUnsigned (cut : Fault) (negative : Bool) (cs : List Char) : Reading Numeral :=
  match readWhole cut cs with
  | .error fault => .error fault
  | .ok (whole, cs) =>
    match readFraction cut cs with
    | .error fault => .error fault
    | .ok (fraction, cs) =>
      match readExponent cut cs with
      | .error fault => .error fault
      | .ok (exponent, rest) => .ok (⟨negative, whole, fraction, exponent⟩, rest)

def readNumeral (cut : Fault) : List Char → Reading Numeral
  | '-' :: cs => readUnsigned cut true cs
  | cs => readUnsigned cut false cs

end Intercept.Json
