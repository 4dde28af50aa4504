import Intercept.Table
import Intercept.Text.Quoted
import Intercept.Value

/-!
# Notes

Values that the advice of one call leaves for each other under text keys.
-/

namespace Intercept

structure Notes where
  entries : Table String Value
  deriving DecidableEq

namespace Notes

def empty : Notes :=
  ⟨.empty⟩

def get? (notes : Notes) (key : String) : Option Value :=
  notes.entries.find? key

def read? (notes : Notes) (key : String) (kind : Kind) : Option Value :=
  (notes.get? key).bind (Value.as? kind)

def contains (notes : Notes) (key : String) : Bool :=
  (notes.get? key).isSome

def erase (notes : Notes) (key : String) : Notes :=
  ⟨notes.entries.erase key⟩

def insert (notes : Notes) (key : String) (value : Value) : Notes :=
  ⟨notes.entries.insert key value⟩

def size (notes : Notes) : Nat :=
  notes.entries.size

/-- In increasing order of code points. -/
def keys (notes : Notes) : List String :=
  notes.entries.keys.mergeSort fun a b => decide (a ≤ b)

def outline (notes : Notes) : String :=
  Text.record "Metadata" [("keys", Text.list (notes.keys.map Text.quoted))]

end Notes

end Intercept
