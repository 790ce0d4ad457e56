import ArrowMachine.Pattern.Syntax
import ArrowMachine.Text.Blank
import ArrowMachine.Text.Case
import ArrowMachine.Text.Letter
import ArrowMachine.Text.Numeral

/-!
Tests on a single character.

A test is a literal or a set together with the switches in force where it stands. Where case does not
matter, the character is brought to its small letter first and then stands for all code points of its
family; a set none of whose members has case is left as it is.
-/
namespace ArrowMachine.Pattern

open ArrowMachine.Text

/-- The switches that matter for matching. -/
structure Mode where
  ignoreCase : Bool
  multiLine : Bool
  dotAll : Bool
  ascii : Bool
  deriving DecidableEq, Repr

def Mode.ofFlags (fs : Flags) : Mode :=
  ⟨fs.contains .ignoreCase, fs.contains .multiLine, fs.contains .dotAll, fs.contains .ascii⟩

/-- How the case of a character is dropped. -/
inductive Fold where
  | kept | ascii | full
  deriving DecidableEq, Repr

def Mode.fold (m : Mode) : Fold :=
  if !m.ignoreCase then .kept else if m.ascii then .ascii else .full

/-! ## Classes of characters -/

def isWordChar (ascii : Bool) (c : Char) : Bool :=
  if ascii then c.isAlphanum || c = '_' else isLetter c || isNumeral c || c = '_'

def Category.contains (ascii : Bool) (c : Char) : Category → Bool
  | digit => if ascii then c.isDigit else isDecimalDigit c
  | space => if ascii then c = ' ' || ('\t' ≤ c && c ≤ '\r') else isBlank c
  | word => isWordChar ascii c

/-- The last code point that is written with one unit of sixteen bits. -/
def lastShort : Nat := 0xffff

namespace Fold

/-- The small letter of a character. -/
def apply (f : Fold) (c : Char) : Char :=
  match f with
  | kept => c
  | ascii => lowerAscii c
  | full => lower c

/-- The code points that a small letter stands for. -/
def family (f : Fold) (small : Char) : List Nat :=
  match f with
  | kept => [small.toNat]
  | ascii =>
    if 'a' ≤ small ∧ small ≤ 'z' then [small.toNat, small.toNat - 32] else [small.toNat]
  | full => caseFamily small.toNat

/-- Whether case makes a difference to some code point from `a` to `b`. -/
def anyCased (f : Fold) (a b : Nat) : Bool :=
  match f with
  | kept => false
  | ascii => (a ≤ 'Z'.toNat && 'A'.toNat ≤ b) || (a ≤ 'z'.toNat && 'a'.toNat ≤ b)
  | full => Text.anyCased a b

end Fold

namespace SetItem

/-- Whether case makes a difference to a member, as far as that is known: a range that goes beyond
`lastShort` is taken to have case. -/
def hasCase (f : Fold) : SetItem → Bool
  | code n => f.anyCased n n
  | range a b => lastShort < b || f.anyCased a b
  | category .. => false

/-- Whether a member has to be compared without case: one that goes beyond `lastShort` always is. -/
def isFolded (f : Fold) : SetItem → Bool
  | code n => lastShort < n || f.anyCased n n
  | item => item.hasCase f

/-- Whether a member of a set holds the character with the given small letter. Beyond `lastShort` a code
point stands for itself alone, and a range holds the letter if it holds its capital. -/
def contains (ascii : Bool) (f : Fold) (small : Char) : SetItem → Bool
  | code n => if lastShort < n then small.toNat = n else (f.family small).contains n
  | range a b =>
    (f.family small).any (fun n => a ≤ n && n ≤ b) ||
      (f ≠ .kept && lastShort < b && (capital? small.toNat).any fun n => a ≤ n && n ≤ b)
  | category k negated => k.contains ascii small != negated

end SetItem

/-- A test on one character. -/
inductive CharTest where
  | any
  /-- Anything but the end of a line. -/
  | inLine
  | code (fold : Fold) (negated : Bool) (n : Nat)
  | set (fold : Fold) (negated ascii : Bool) (items : List SetItem)
  deriving DecidableEq, Repr

namespace CharTest

def accepts (t : CharTest) (c : Char) : Bool :=
  match t with
  | any => true
  | inLine => c ≠ '\n'
  | code fold negated n => (fold.family (fold.apply c)).contains n != negated
  | set fold negated ascii items => items.any (·.contains ascii fold (fold.apply c)) != negated

/-- The test for a literal under the given switches. -/
def ofCode (m : Mode) (negated : Bool) (n : Nat) : CharTest :=
  .code (if m.fold.anyCased n n then m.fold else .kept) negated n

/-- The test for a set under the given switches. -/
def ofSet (m : Mode) (negated : Bool) (items : List SetItem) : CharTest :=
  .set (if m.fold ≠ .kept && items.any (·.isFolded m.fold) then m.fold else .kept) negated m.ascii items

/-- Whether the test accepts the character at `i`. -/
def holdsAt (t : CharTest) (text : Array Char) (i : Nat) : Bool := text[i]?.any t.accepts

/-- How many characters from `i` on the test accepts, at most `limit` of them. -/
def count (t : CharTest) (text : Array Char) (i : Nat) : (limit : Nat) → Nat
  | 0 => 0
  | limit + 1 => if t.holdsAt text i then t.count text (i + 1) limit + 1 else 0

/-- The code point that alone passes the test, if case does not matter to it. -/
def literal? : CharTest → Option Nat
  | code .kept false n => some n
  | _ => none

/-- Whether the test can be made without a look at case: that of a literal or a set, but not of a literal
that is excluded. -/
def isPlain : CharTest → Bool
  | code .kept false _ | set .kept .. => true
  | _ => false

/-- Whether the test compares with several letters for one. -/
def isFolded : CharTest → Bool
  | set fold .. => fold ≠ .kept
  | code .full _ n => sameCapital.any (·.contains (lowerCode n))
  | _ => false

end CharTest

/-- The test of a node that takes one character, also within groups that only set switches. -/
def Node.single? (fs : Flags) : Node → Option CharTest
  | any => some (if (Mode.ofFlags fs).dotAll then .any else .inLine)
  | code negated n => some (.ofCode (.ofFlags fs) negated n)
  | set negated items => some (.ofSet (.ofFlags fs) negated items)
  | group none on off body => body.single? (Flags.within fs on off)
  | _ => none

end ArrowMachine.Pattern
