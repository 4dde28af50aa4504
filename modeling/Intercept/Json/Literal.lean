import Intercept.Text.Quoted

/-!
# Written literals

How strings, booleans and whole numbers are written in JSON: quotes, backslashes and control
characters are escaped, and everything else stands for itself.
-/

namespace Intercept.Json

def hexDigit (n : Nat) : Char :=
  if n < 10 then Char.ofNat (48 + n) else Char.ofNat (87 + n)

def escapeControl (n : Nat) : List Char :=
  ['\\', 'u', '0', '0', hexDigit (n / 16), hexDigit (n % 16)]

def writeChar (c : Char) : List Char :=
  if c = '"' then ['\\', '"']
  else if c = '\\' then ['\\', '\\']
  else if c = Char.ofNat 8 then ['\\', 'b']
  else if c = Char.ofNat 9 then ['\\', 't']
  else if c = Char.ofNat 10 then ['\\', 'n']
  else if c = Char.ofNat 12 then ['\\', 'f']
  else if c = Char.ofNat 13 then ['\\', 'r']
  else if c.toNat < 0x20 then escapeControl c.toNat
  else [c]

/-- What stands between the quotes. -/
def writeChars (cs : List Char) : List Char :=
  cs.flatMap writeChar

def literal (s : String) : String :=
  String.ofList ('"' :: (writeChars s.toList ++ ['"']))

/-- A record on one line without blanks. -/
def compactRecord (members : List (String × String)) : String :=
  "\x7b" ++ ",".intercalate (members.map fun m => literal m.1 ++ ":" ++ m.2) ++ "\x7d"

end Intercept.Json
