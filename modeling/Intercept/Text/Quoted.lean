import Intercept.Text.Hidden

/-!
# Quoted text and outlines

One-line texts for people: a string in quotes with everything invisible spelled out, and outlines of
records, lists and optional values built from them.
-/

namespace Intercept.Text

/-! ## Quoted strings -/

def quotedChar (c : Char) : List Char :=
  if c = '"' then ['\\', '"']
  else if c = '\\' then ['\\', '\\']
  else if c = '\n' then ['\\', 'n']
  else if c = '\r' then ['\\', 'r']
  else if c = '\t' then ['\\', 't']
  else if c = Char.ofNat 0 then ['\\', '0']
  else if isHidden c then '\\' :: 'u' :: '{' :: (Nat.toDigits 16 c.toNat ++ ['}'])
  else [c]

def quotedChars (cs : List Char) : List Char :=
  '"' :: (cs.flatMap quotedChar ++ ['"'])

def quoted (s : String) : String :=
  String.ofList (quotedChars s.toList)

/-! ## Outlines -/

def list (items : List String) : String :=
  "[" ++ ", ".intercalate items ++ "]"

def optional (item : Option String) : String :=
  match item with
  | none => "None"
  | some text => "Some(" ++ text ++ ")"

def call (name : String) (argument : String) : String :=
  name ++ "(" ++ argument ++ ")"

private def fieldTexts (fields : List (String × String)) : List String :=
  fields.map fun field => field.1 ++ ": " ++ field.2

/-- The name, then the fields between braces. -/
def record (name : String) (fields : List (String × String)) : String :=
  name ++ " \x7b " ++ ", ".intercalate (fieldTexts fields) ++ " \x7d"

/-- A record that keeps some of its fields to itself ends in two dots. -/
def openRecord (name : String) (fields : List (String × String)) : String :=
  name ++ " \x7b " ++ ", ".intercalate (fieldTexts fields ++ [".."]) ++ " \x7d"

def boolean (b : Bool) : String :=
  if b then "true" else "false"

/-- Decimal digits, with a minus sign below zero. -/
def integer : Int → String
  | .ofNat n => Nat.repr n
  | .negSucc n => "-" ++ Nat.repr (n + 1)

end Intercept.Text
