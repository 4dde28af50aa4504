/-!
# Documents

Values of the JSON data format without fractions.  Members of a record have distinct names and no
order: `agrees` compares documents in that sense.
-/

namespace Intercept

inductive Json where
  | null
  | bool (b : Bool)
  | int (n : Int)
  | str (s : String)
  | arr (items : List Json)
  | obj (members : List (String × Json))

namespace Json

mutual

def agrees : Json → Json → Bool
  | .null, .null => true
  | .bool a, .bool b => a == b
  | .int a, .int b => a == b
  | .str a, .str b => a == b
  | .arr items, .arr others => agreesItems items others
  | .obj members, .obj others => members.length == others.length && agreesMembers members others
  | _, _ => false

def agreesItems : List Json → List Json → Bool
  | [], [] => true
  | a :: items, b :: others => agrees a b && agreesItems items others
  | _, _ => false

def agreesMembers : List (String × Json) → List (String × Json) → Bool
  | [], _ => true
  | (name, a) :: members, others =>
      (match others.lookup name with
        | none => false
        | some b => agrees a b) &&
      agreesMembers members others

end

/-- Order is defined between whole numbers only. -/
def isBelow : Json → Json → Bool
  | .int a, .int b => a < b
  | _, _ => false

def nat (n : Nat) : Json :=
  .int n

def strings (items : List String) : Json :=
  .arr (items.map .str)

def optional (item : Option Json) : Json :=
  item.getD .null

end Json

end Intercept
