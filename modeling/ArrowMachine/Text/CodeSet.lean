/-!
Sets of code points, written as the points where membership changes.

A property of characters is a list of half-open runs; `CodeSet` keeps only their ends, in
ascending order, so a set of thousands of characters is a short list of numbers.
-/
namespace ArrowMachine.Text

/-- A set of code points: membership starts out false and flips at each of `changes`. -/
structure CodeSet where
  changes : List Nat

namespace CodeSet

/-- Membership of `n` among `changes`, when everything before the first of them has membership `b`. -/
def flips (n : Nat) : List Nat → Bool → Bool
  | [], b => b
  | x :: xs, b => if n < x then b else flips n xs (!b)

def containsCode (s : CodeSet) (n : Nat) : Bool := flips n s.changes false

def contains (s : CodeSet) (c : Char) : Bool := s.containsCode c.toNat

/-- The set of the given inclusive runs, which must ascend and not touch. -/
def ofRuns (runs : List (Nat × Nat)) : CodeSet := ⟨runs.flatMap fun r => [r.1, r.2 + 1]⟩

end CodeSet

end ArrowMachine.Text
