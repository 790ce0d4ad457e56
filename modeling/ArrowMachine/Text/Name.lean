import ArrowMachine.Text.Name.Ancient
import ArrowMachine.Text.Name.EastAsian
import ArrowMachine.Text.Name.Emoji
import ArrowMachine.Text.Name.European
import ArrowMachine.Text.Name.Form
import ArrowMachine.Text.Name.Further
import ArrowMachine.Text.Name.MiddleEastern
import ArrowMachine.Text.Name.Notated
import ArrowMachine.Text.Name.Phonetic
import ArrowMachine.Text.Name.Picture
import ArrowMachine.Text.Name.Regional
import ArrowMachine.Text.Name.Sign
import ArrowMachine.Text.Name.Signary
import ArrowMachine.Text.Name.SouthAsian
import ArrowMachine.Text.Name.Syllabic
import ArrowMachine.Text.Name.Symbol

/-!
Names of characters, as the Unicode standard (version 14) gives them.

Most names are listed. A table of them is a text of runs, each closed by a semicolon: the first code point
in hexadecimal digits, a blank, what the names have in common, an asterisk, and then what the names of that
code point and of those behind it end with, between bars. Line ends in a table mean nothing. Names that
follow a rule are not listed: those that end with the code point, and those of the Hangul syllables. Case
does not matter, except in the names of Hangul syllables and unified ideographs.
-/
namespace ArrowMachine.Text.Name

/-- The tables of listed names. -/
def tables : List String :=
  [european, symbol, sign, further, emoji, picture, phonetic, middleEastern, southAsian, regional,
    eastAsian, syllabic, form, ancient, signary, notated]

/-- The value of a hexadecimal digit with a capital letter. -/
def hexDigit? (c : Char) : Option Nat :=
  if c.isDigit then some (c.toNat - '0'.toNat)
  else if 'A' ≤ c ∧ c ≤ 'F' then some (c.toNat - 'A'.toNat + 10)
  else none

/-- The number written in hexadecimal digits with capital letters. -/
def hex? (digits : List Char) : Option Nat := do
  let ds ← digits.mapM hexDigit?
  if ds.isEmpty then none else some (ds.foldl (fun n d => 16 * n + d) 0)

/-! ## Listed names -/

/-- The code point that a run gives a name to. -/
def codeInRun? (name run : String) : Option Nat := do
  let [head, ends] := run.splitOn "*" | none
  let first :: words := head.splitOn " " | none
  let stem := " ".intercalate words
  if !stem.isPrefixOf name then none
  let place ← (ends.splitOn "|").idxOf? (name.drop stem.length).copy
  let code ← hex? first.toList
  return code + place

/-- The code point that a table gives a name to. -/
def codeIn? (name table : String) : Option Nat :=
  ((table.replace "\n" "").splitOn ";").findSome? (codeInRun? name)

/-! ## Names that end with the code point -/

/-- Beginnings of names that end with the code point, with the code points. -/
def numbered : List (String × Nat × Nat) :=
  [("CJK COMPATIBILITY IDEOGRAPH-", 0xF900, 0xFA6D), ("CJK COMPATIBILITY IDEOGRAPH-", 0xFA70, 0xFAD9),
    ("KHITAN SMALL SCRIPT CHARACTER-", 0x18B00, 0x18CD5), ("NUSHU CHARACTER-", 0x1B170, 0x1B2FB),
    ("CJK COMPATIBILITY IDEOGRAPH-", 0x2F800, 0x2FA1D)]

/-- What stands behind the beginning `stem` of a name. -/
def ending? (stem name : String) : Option (List Char) :=
  if stem.isPrefixOf name then some (name.toList.drop stem.length) else none

/-- How many hexadecimal digits a code point is written with. -/
def digitCount (code : Nat) : Nat := if code ≤ 0xFFFF then 4 else 5

/-- The code point that ends a name. -/
def numberedCode? (name : String) : Option Nat :=
  numbered.findSome? fun (stem, first, last) => do
    let digits ← ending? stem name
    let code ← hex? digits
    if first ≤ code ∧ code ≤ last ∧ digits.length = digitCount code then some code else none

/-- The unified ideographs. -/
def unified : List (Nat × Nat) :=
  [(0x3400, 0x4DBF), (0x4E00, 0x9FFF), (0x20000, 0x2A6DF), (0x2A700, 0x2B738), (0x2B740, 0x2B81D),
    (0x2B820, 0x2CEA1), (0x2CEB0, 0x2EBE0), (0x30000, 0x3134A)]

/-- The unified ideograph of a name, whose code point has four or five digits. -/
def ideograph? (name : String) : Option Nat := do
  let digits ← ending? "CJK UNIFIED IDEOGRAPH-" name
  let code ← hex? digits
  if (digits.length = 4 ∨ digits.length = 5) ∧ unified.any (fun r => r.1 ≤ code && code ≤ r.2) then
    some code
  else none

/-! ## Hangul syllables -/

/-- How the first letter of a syllable is written. -/
def initials : List String :=
  ["G", "GG", "N", "D", "DD", "R", "M", "B", "BB", "S", "SS", "", "J", "JJ", "C", "K", "T", "P", "H"]

/-- How the vowel of a syllable is written. -/
def vowels : List String :=
  ["A", "AE", "YA", "YAE", "EO", "E", "YEO", "YE", "O", "WA", "WAE", "OE", "YO", "U", "WEO", "WE", "WI",
    "YU", "EU", "YI", "I"]

/-- How what closes a syllable is written. -/
def finals : List String :=
  ["", "G", "GG", "GS", "N", "NJ", "NH", "D", "L", "LG", "LM", "LB", "LS", "LT", "LP", "LH", "M", "B",
    "BS", "S", "SS", "NG", "J", "C", "K", "T", "P", "H"]

/-- The longest of some spellings that a text begins with: its number, and what stands behind it. -/
def longest? (spellings : List String) (cs : List Char) : Option (Nat × List Char) :=
  let fitting := spellings.zipIdx.filter fun (s, _) => s.toList.isPrefixOf cs
  let length := (fitting.map fun (s, _) => s.length).foldl max 0
  (fitting.find? fun (s, _) => s.length = length).map fun (_, i) => (i, cs.drop length)

/-- The Hangul syllable of a name. -/
def syllable? (name : String) : Option Nat := do
  let cs ← ending? "HANGUL SYLLABLE " name
  let (i, cs) ← longest? initials cs
  let (v, cs) ← longest? vowels cs
  let (f, cs) ← longest? finals cs
  if cs.isEmpty then some (0xAC00 + (i * vowels.length + v) * finals.length + f) else none

/-! ## All names -/

/-- The code point of the character with the given name. -/
def code? (name : List Char) : Option Nat :=
  let exactly := String.ofList name
  let inCapitals := String.ofList (name.map Char.toUpper)
  (ideograph? exactly).or <| (syllable? exactly).or <| (numberedCode? inCapitals).or <|
    tables.findSome? (codeIn? inCapitals)

end ArrowMachine.Text.Name
