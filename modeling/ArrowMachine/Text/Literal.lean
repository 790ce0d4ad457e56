import ArrowMachine.Text.Quoted

/-!
String literals of generated scripts.

A literal is ASCII: quotes, backslashes and control characters are escaped, and any other character
beyond U+007E is written as one or two UTF-16 units.
-/
namespace ArrowMachine.Text

/-- The UTF-16 units of a character. -/
def units16 (c : Char) : List Nat :=
  if c.toNat < 0x10000 then [c.toNat]
  else [0xd800 + (c.toNat - 0x10000) / 0x400, 0xdc00 + (c.toNat - 0x10000) % 0x400]

def literalChar (c : Char) : List Char :=
  if c = '"' || c = '\\' then ['\\', c]
  else if c = '\n' then ['\\', 'n']
  else if c = '\r' then ['\\', 'r']
  else if c = '\t' then ['\\', 't']
  else if c = '\x0c' then ['\\', 'f']
  else if c = '\x08' then ['\\', 'b']
  else if ' ' ≤ c && c ≤ '~' then [c]
  else (units16 c).flatMap fun u => '\\' :: 'u' :: hexDigits 4 u

def literal (s : String) : String := String.ofList ('"' :: s.toList.flatMap literalChar ++ ['"'])

/-- A literal, or `null` for an absent text. -/
def literalOrNull : Option String → String
  | some s => literal s
  | none => "null"

end ArrowMachine.Text
