import ArrowMachine.Text.Blank
import ArrowMachine.Text.Numeral

/-!
Reading integers.

White space around the number is dropped, the information separators apart. A sign may stand in
front, the digits may be those of any script, and single underscores may stand between them. Numbers
of more than `maxDigits` digits are refused.
-/
namespace ArrowMachine.Text

/-- The most digits that a number may be written with. -/
def maxDigits : Nat := 4300

/-- The white space that may surround a number. -/
def isMargin (c : Char) : Bool := isBlank c && !('\x1c' ≤ c && c ≤ '\x1f')

/-- The values of the digits of a number whose previous character was a digit. -/
def digitsAfter : List Char → Option (List Nat)
  | [] => some []
  | ['_'] => none
  | '_' :: d :: cs => do return (← digitValue? d) :: (← digitsAfter cs)
  | d :: cs => do return (← digitValue? d) :: (← digitsAfter cs)

/-- The values of the digits of an unsigned number. -/
def digits? : List Char → Option (List Nat)
  | [] => none
  | d :: cs => do return (← digitValue? d) :: (← digitsAfter cs)

def natOfDigits (ds : List Nat) : Nat := ds.foldl (fun n d => 10 * n + d) 0

def natural? (cs : List Char) : Option Nat := do
  let ds ← digits? cs
  if ds.length ≤ maxDigits then some (natOfDigits ds) else none

def integer? (s : String) : Option Int :=
  let cs := ((s.toList.dropWhile isMargin).reverse.dropWhile isMargin).reverse
  match cs with
  | '-' :: ds => (natural? ds).map fun n => -(n : Int)
  | '+' :: ds => (natural? ds).map fun n => (n : Int)
  | ds => (natural? ds).map fun n => (n : Int)

end ArrowMachine.Text
