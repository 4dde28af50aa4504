import Intercept.Json.Chars
import Intercept.Json.Numeral

/-!
# Passing over JSON values

`skipValue` passes over a value of any shape, looking at its form only.
-/

namespace Intercept.Json

def skipScalar (cs : List Char) : Except Fault (List Char) :=
  match cs with
  | [] => .error .truncated
  | c :: rest =>
    if c = 'n' then skipWord ['u', 'l', 'l'] rest
    else if c = 't' then skipWord ['r', 'u', 'e'] rest
    else if c = 'f' then skipWord ['a', 'l', 's', 'e'] rest
    else if c = '"' then skipChars rest
    else if c = '-' || isDigit c then
      match readNumeral .malformed cs with
      | .error fault => .error fault
      | .ok (_, rest) => .ok rest
    else .error .malformed

mutual

def skipNested : Nat → List Char → Except Fault (List Char)
  | 0, _ => .error .malformed
  | fuel + 1, cs =>
    match skipBlank cs with
    | '[' :: cs =>
      match skipBlank cs with
      | ']' :: rest => .ok rest
      | [] => .error .truncated
      | cs => skipItems fuel cs
    | '{' :: cs =>
      match skipBlank cs with
      | '}' :: rest => .ok rest
      | cs => skipMembers fuel cs
    | cs => skipScalar cs

/-- One item at least, up to the closing bracket. -/
def skipItems : Nat → List Char → Except Fault (List Char)
  | 0, _ => .error .malformed
  | fuel + 1, cs =>
    match skipNested fuel cs with
    | .error fault => .error fault
    | .ok cs =>
      match skipBlank cs with
      | ',' :: cs => skipItems fuel cs
      | ']' :: rest => .ok rest
      | cs => .error (unexpected cs)

/-- One member at least, up to the closing brace. -/
def skipMembers : Nat → List Char → Except Fault (List Char)
  | 0, _ => .error .malformed
  | fuel + 1, cs =>
    match skipBlank cs with
    | '"' :: cs =>
      match skipChars cs with
      | .error fault => .error fault
      | .ok cs =>
        match skipColon cs with
        | .error fault => .error fault
        | .ok cs =>
          match skipNested fuel cs with
          | .error fault => .error fault
          | .ok cs =>
            match skipBlank cs with
            | ',' :: cs => skipMembers fuel cs
            | '}' :: rest => .ok rest
            | cs => .error (unexpected cs)
    | cs => .error (unexpected cs)

end

/-- Every step of the search reads a character or goes one level down on one already seen. -/
def skipValue (cs : List Char) : Except Fault (List Char) :=
  skipNested (2 * cs.length + 2) cs

end Intercept.Json
