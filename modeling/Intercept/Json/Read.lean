import Intercept.Json.Magnitude
import Intercept.Json.Skip

/-!
# Reading JSON of a known shape

Readers for words, truth values, texts, variants and records.  A value of another shape is passed
over far enough to tell a malformed text from one that does not fit.  A record is read from members
in any order, of which the known ones may come once and the others are skipped, or from a list of the
first fields in their order.
-/

namespace Intercept.Json

/-! ## Values -/

def misfit (cs : List Char) : Fault :=
  let judged {α : Type} : Except Fault α → Fault
    | .error fault => fault
    | .ok _ => .mismatched
  match cs with
  | [] => .truncated
  | c :: rest =>
    if c = '[' || c = '{' then .mismatched
    else if c = '"' then judged (readChars rest)
    else if c = '-' || isDigit c then
      match readNumeral .truncated cs with
      | .error fault => fault
      | .ok (numeral, _) => if numeral.isBeyond then .malformed else .mismatched
    else judged (skipScalar cs)

def readWord (cs : List Char) : Reading Nat :=
  match skipBlank cs with
  | [] => .error .truncated
  | c :: rest =>
    if c = '-' || isDigit c then
      match readNumeral .truncated (c :: rest) with
      | .error fault => .error fault
      | .ok (numeral, rest) =>
        if numeral.isBeyond then .error .malformed
        else
          match numeral.word? with
          | none => .error .mismatched
          | some n => .ok (n, rest)
    else .error (misfit (c :: rest))

def readBoolean (cs : List Char) : Reading Bool :=
  let decided (b : Bool) : Except Fault (List Char) → Reading Bool
    | .error fault => .error fault
    | .ok rest => .ok (b, rest)
  match skipBlank cs with
  | 't' :: rest => decided true (skipWord ['r', 'u', 'e'] rest)
  | 'f' :: rest => decided false (skipWord ['a', 'l', 's', 'e'] rest)
  | cs => .error (misfit cs)

def readText (cs : List Char) : Reading String :=
  match skipBlank cs with
  | '"' :: rest =>
    match readChars rest with
    | .error fault => .error fault
    | .ok (cs, rest) => .ok (String.ofList cs, rest)
  | cs => .error (misfit cs)

def skipNull (cs : List Char) : Except Fault (List Char) :=
  match skipBlank cs with
  | 'n' :: rest => skipWord ['u', 'l', 'l'] rest
  | cs => .error (misfit cs)

def readNamed {α : Type} (ofName? : String → Option α) (cs : List Char) : Reading α :=
  match skipBlank cs with
  | '"' :: cs =>
    match readChars cs with
    | .error fault => .error fault
    | .ok (name, rest) =>
      match ofName? (String.ofList name) with
      | none => .error .mismatched
      | some a => .ok (a, rest)
  | cs => .error (unexpected cs)

/-- A name, or a record whose only member has that name and holds null. -/
def readVariant {α : Type} (ofName? : String → Option α) (cs : List Char) : Reading α :=
  match skipBlank cs with
  | '{' :: cs =>
    match readNamed ofName? cs with
    | .error fault => .error fault
    | .ok (a, cs) =>
      match skipColon cs with
      | .error fault => .error fault
      | .ok cs =>
        match skipNull cs with
        | .error fault => .error fault
        | .ok cs =>
          match skipBlank cs with
          | '}' :: rest => .ok (a, rest)
          | cs => .error (unexpected cs)
  | cs => readNamed ofName? cs

/-! ## Records -/

structure Field (α : Type) where
  name : String
  read : α → List Char → Reading α

/-- Members up to the closing brace; `seen` are the known names that have come. -/
def readMembers {α : Type} (fields : List (Field α)) :
    Nat → List String → Bool → α → List Char → Reading α
  | 0, _, _, _, _ => .error .malformed
  | fuel + 1, seen, first, a, cs =>
    let member (cs : List Char) : Reading α :=
      match readChars cs with
      | .error fault => .error fault
      | .ok (name, cs) =>
        match fields.find? fun field => field.name == String.ofList name with
        | none =>
          match skipColon cs with
          | .error fault => .error fault
          | .ok cs =>
            match skipValue cs with
            | .error fault => .error fault
            | .ok cs => readMembers fields fuel seen false a cs
        | some field =>
          if seen.contains field.name then .error .mismatched
          else
            match skipColon cs with
            | .error fault => .error fault
            | .ok cs =>
              match field.read a cs with
              | .error fault => .error fault
              | .ok (a, cs) => readMembers fields fuel (field.name :: seen) false a cs
    match skipBlank cs with
    | '}' :: rest => .ok (a, rest)
    | '"' :: cs => if first then member cs else .error .malformed
    | ',' :: cs =>
      if first then .error .malformed
      else
        match skipBlank cs with
        | '"' :: cs => member cs
        | cs => .error (unexpected cs)
    | cs => .error (unexpected cs)

/-- Fields in their order up to the closing bracket; there may be fewer of them, but not more. -/
def readItems {α : Type} : List (Field α) → Bool → α → List Char → Reading α
  | [], _, a, cs =>
    match skipBlank cs with
    | ']' :: rest => .ok (a, rest)
    | cs => .error (unexpected cs)
  | field :: fields, first, a, cs =>
    let item (cs : List Char) : Reading α :=
      match field.read a cs with
      | .error fault => .error fault
      | .ok (a, cs) => readItems fields false a cs
    match skipBlank cs with
    | [] => .error .truncated
    | ']' :: rest => .ok (a, rest)
    | c :: cs =>
      if first then item (c :: cs)
      else if c = ',' then
        match skipBlank cs with
        | [] => .error .truncated
        | ']' :: _ => .error .malformed
        | cs => item cs
      else .error .malformed

/-- Fields that do not come keep what they are in `a`. -/
def readRecord {α : Type} (fields : List (Field α)) (a : α) (cs : List Char) : Reading α :=
  match skipBlank cs with
  | '{' :: cs => readMembers fields (cs.length + 1) [] true a cs
  | '[' :: cs => readItems fields true a cs
  | cs => .error (misfit cs)

/-! ## Whole texts -/

def readAll {α : Type} (read : List Char → Reading α) (text : String) : Except Fault α :=
  match read text.toList with
  | .error fault => .error fault
  | .ok (a, rest) => if (skipBlank rest).isEmpty then .ok a else .error .malformed

end Intercept.Json
