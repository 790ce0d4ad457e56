import ArrowMachine.Rule.Position
import ArrowMachine.Table.Action

/-!
One row of a table: the label it was written with, when it applies and what it does.
-/
namespace ArrowMachine

structure Entry where
  label : String
  filter : Filter
  action : Action
  pos : Option Position := none
  deriving DecidableEq, Repr

namespace Entry

def padded (e : Entry) (count : Nat) : Entry := { e with filter := e.filter.padded count }

/-- The symbols that the entry pushes, with their channels. -/
def pushTexts (e : Entry) : List String :=
  e.action.ops.filterMap fun
    | .push channel value => some (toString channel ++ ":" ++ value)
    | _ => none

/-- The filter and the pushes in one line. -/
def describe (e : Entry) : String :=
  if e.pushTexts.isEmpty then e.filter.text
  else e.filter.text ++ " push " ++ ",".intercalate e.pushTexts

def shown (e : Entry) : String :=
  "<TransitionEntry " ++ e.describe ++ " to=" ++ e.action.target ++ ">"

end Entry

end ArrowMachine
