/-!
Which situations a transition applies in.

A filter names the input it takes and what it reads off each stack channel. `epsilon` as input takes
nothing, and as a read, like an absent read, asks for nothing. So several filters may apply in the same
situations; `Filter.key` is the one of them without epsilon reads and without absent reads at its end.
-/
namespace ArrowMachine

/-- The symbol that stands for no symbol. -/
def epsilon : String := "_"

structure Filter where
  input : String
  reads : List (Option String) := []
  deriving DecidableEq, Repr

namespace Filter

/-- A read without the two ways to ask for nothing. -/
def normalRead (r : Option String) : Option String := if r = some epsilon then none else r

/-- Reads without those at the end that ask for nothing. -/
def trimReads (rs : List (Option String)) : List (Option String) :=
  (rs.reverse.dropWhile (·.isNone)).reverse

/-- The filter by which conflicts are found. -/
def key (f : Filter) : Filter := ⟨f.input, trimReads (f.reads.map normalRead)⟩

/-- How many absent reads a filter lacks to `count` channels. -/
def missing (f : Filter) (count : Nat) : Nat := count - f.reads.length

/-- The filter with absent reads added up to `count` channels. -/
def padded (f : Filter) (count : Nat) : Filter :=
  { f with reads := f.reads ++ List.replicate (f.missing count) none }

/-- Whether one read accepts the top of its channel. -/
def readFits (r top : Option String) : Bool :=
  match normalRead r with
  | none => true
  | some x => top = some x

/-- Whether reads accept the tops of the channels; channels beyond the last top are empty. -/
def readsFit : List (Option String) → List (Option String) → Bool
  | [], _ => true
  | r :: rs, tops => readFits r tops.head?.join && readsFit rs tops.tail

def accepts (f : Filter) (head : Option String) (tops : List (Option String)) : Bool :=
  (f.input = epsilon || head = some f.input) && readsFit f.reads tops

/-- The filter as a rule would write it. -/
def text (f : Filter) : String :=
  if f.reads.all (·.isNone) then f.input
  else "[" ++ ",".intercalate (f.input :: f.reads.map (·.getD epsilon)) ++ "]"

theorem length_reads_padded (f : Filter) (count : Nat) :
    (f.padded count).reads.length = max f.reads.length count := by
  simp [padded, missing]
  omega

end Filter

end ArrowMachine
