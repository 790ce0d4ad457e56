import ArrowMachine.Text.Quoted

/-!
What a machine has in hand: a state, its stacks and the input that is left.

A stack is a list with its top first; it is shown from the bottom up.
-/
namespace ArrowMachine

abbrev Stack := List String

namespace Stack

def top? (s : Stack) : Option String := s.head?

/-- The symbols in the order in which they were pushed. -/
def bottomUp (s : Stack) : List String := s.reverse

def ofBottomUp (xs : List String) : Stack := xs.reverse

end Stack

structure Configuration where
  state : String
  /-- The stack of each channel. -/
  channels : List Stack
  input : List String
  deriving DecidableEq, Repr

namespace Configuration

def head? (c : Configuration) : Option String := c.input.head?

def tops (c : Configuration) : List (Option String) := c.channels.map Stack.top?

/-- How many symbols are left, on the stacks and in the input. -/
def workload (c : Configuration) : Nat := c.channels.flatten.length + c.input.length

/-- The stacks as lists of shown symbols. -/
def stacksText (c : Configuration) : String :=
  Text.bracketed (c.channels.map fun s => Text.quotedList s.bottomUp)

end Configuration

end ArrowMachine
