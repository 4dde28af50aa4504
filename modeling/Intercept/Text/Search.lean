/-!
# Looking for a text inside another

A plain search from left to right.
-/

namespace Intercept.Text

def occursIn (needle : List Char) : List Char → Bool
  | [] => needle.isEmpty
  | c :: rest => needle.isPrefixOf (c :: rest) || occursIn needle rest

def contains (hay needle : String) : Bool :=
  occursIn needle.toList hay.toList

end Intercept.Text
