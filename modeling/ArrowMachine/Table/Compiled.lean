import ArrowMachine.Table.Entry

/-!
A compiled machine: pure data, whose rows are found by state in the order in which they were added.
-/
namespace ArrowMachine

/-- Names in ascending order of code points, each once. -/
def nameSet (names : List String) : List String := names.eraseDups.mergeSort (· ≤ ·)

structure Compiled where
  initial : String
  transitions : List (String × List Entry)
  /-- The accepting states, in ascending order. -/
  accepting : List String
  stackCount : Int
  states : List String
  labels : List String
  deriving DecidableEq, Repr

namespace Compiled

def entriesFor (m : Compiled) (state : String) : List Entry :=
  (m.transitions.lookup state).getD []

def accepts (m : Compiled) (state : String) : Bool := m.accepting.contains state

/-- The entries of a state that apply to the given head of the input and tops of the stacks. -/
def possible (m : Compiled) (state : String) (head : Option String)
    (tops : List (Option String)) : List Entry :=
  (m.entriesFor state).filter (·.filter.accepts head tops)

/-- The machine as a list of lines, state by state. -/
def listing (m : Compiled) : List String :=
  let accept := ", ".intercalate m.accepting
  ["initial: " ++ m.initial, "accept: " ++ (if accept.isEmpty then "(none)" else accept),
    "stacks: " ++ toString m.stackCount] ++
    m.states.flatMap fun state =>
      match m.entriesFor state with
      | [] => []
      | entries =>
        (state ++ ":") :: entries.map fun e => "  " ++ e.describe ++ " -> " ++ e.action.target

end Compiled

end ArrowMachine
