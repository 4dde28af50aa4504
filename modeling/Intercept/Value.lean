/-!
# Tagged values

Arguments, results, notes and plain payloads are values that carry their kind.  Kinds never convert:
a value answers to its own kind only.  Nine kinds can be written down; of a value of any other type
nothing is known but the name of its type and the tag that tells it from others of that type.
-/

namespace Intercept

inductive Kind where
  | int32 | int64 | word8 | word64 | bool | text | constant | unit | list
  | other (type : String)
  deriving DecidableEq, Repr

/-- Text that was made and constant text are of different kinds. -/
inductive Value where
  | int32 (n : Int32)
  | int64 (n : Int64)
  | word8 (n : UInt8)
  | word64 (n : UInt64)
  | bool (b : Bool)
  | text (s : String)
  | constant (s : String)
  | unit
  | list (items : List Int64)
  | other (type : String) (tag : Nat)
  deriving DecidableEq

namespace Value

def kind : Value → Kind
  | .int32 _ => .int32
  | .int64 _ => .int64
  | .word8 _ => .word8
  | .word64 _ => .word64
  | .bool _ => .bool
  | .text _ => .text
  | .constant _ => .constant
  | .unit => .unit
  | .list _ => .list
  | .other type _ => .other type

def as? (kind : Kind) (value : Value) : Option Value :=
  if value.kind = kind then some value else none

/-- What either kind of text says. -/
def text? : Value → Option String
  | .text s | .constant s => some s
  | _ => none

theorem as?_eq_some_iff {kind : Kind} {value other : Value} :
    value.as? kind = some other ↔ other = value ∧ value.kind = kind := by
  by_cases h : value.kind = kind
  · simp [as?, h, eq_comm]
  · simp [as?, h]

end Value

namespace Kind

/-- The kinds whose values can be written down. -/
def written : List Kind :=
  [.int32, .int64, .word8, .word64, .bool, .text, .constant, .unit, .list]

def name : Kind → String
  | .int32 => "i32"
  | .int64 => "i64"
  | .word8 => "u8"
  | .word64 => "u64"
  | .bool => "bool"
  | .text => "string"
  | .constant => "str"
  | .unit => "unit"
  | .list => "list"
  | .other type => type

def ofName? (name : String) : Option Kind :=
  written.find? fun kind => kind.name == name

theorem ofName?_name : ∀ kind ∈ written, ofName? kind.name = some kind := by
  decide

end Kind

end Intercept
