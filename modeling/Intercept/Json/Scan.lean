/-!
# Scanning JSON text

JSON text is read from left to right, and the first fault in the order of the text is the one
reported: the text ended too early, it is malformed, or what it says does not fit what is asked for.
-/

namespace Intercept.Json

inductive Fault where
  | truncated
  | malformed
  | mismatched
  deriving DecidableEq, Repr

/-- What was read and the text after it. -/
abbrev Reading (α : Type) := Except Fault (α × List Char)

/-! ## Blanks and words -/

def isBlank (c : Char) : Bool :=
  c == ' ' || c == '\n' || c == '\t' || c == '\r'

def skipBlank (cs : List Char) : List Char :=
  cs.dropWhile isBlank

/-- The fault of a text that goes on with anything but what must come here. -/
def unexpected : List Char → Fault
  | [] => .truncated
  | _ :: _ => .malformed

def skipWord : List Char → List Char → Except Fault (List Char)
  | [], cs => .ok cs
  | _ :: _, [] => .error .truncated
  | w :: word, c :: cs => if c = w then skipWord word cs else .error .malformed

/-- A colon, after blanks. -/
def skipColon (cs : List Char) : Except Fault (List Char) :=
  match skipBlank cs with
  | ':' :: rest => .ok rest
  | cs => .error (unexpected cs)

end Intercept.Json
