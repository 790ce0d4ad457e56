import ArrowMachine.Settings
import ArrowMachine.Table.Compiled

/-!
A table as a graph to be drawn: a node for every state and an edge for every row.

A point in front of the initial state shows where the machine starts. Names are as they are; labels are
written as the drawing library wants them, which is what `escape` is for.
-/
namespace ArrowMachine.Command

namespace Graph

structure Node where
  name : String
  label : Option String := none
  shape : String

structure Edge where
  source : String
  target : String
  label : Option String := none

end Graph

structure Graph where
  name : String
  comment : String
  nodes : List Graph.Node
  edges : List Graph.Edge

/-- The point that the edge into the initial state comes from. -/
def Graph.start : String := "__start"

/-- What an edge is labelled with, with or without the pushes. -/
def edgeLabel (showPushes : Bool) (e : Entry) : String :=
  if showPushes then e.describe else e.filter.text

/-- The graph of a table. -/
def graphOf (escape : String → String) (settings : Settings) (m : Compiled) : Graph where
  name := "table"
  comment := "nfsm table starting at " ++ m.initial
  nodes := { name := Graph.start, shape := "point" } :: m.states.map fun state =>
    { name := state, label := some (escape state),
      shape := if m.accepts state then "doublecircle" else "circle" }
  edges := { source := Graph.start, target := m.initial } :: m.transitions.flatMap fun (state, es) =>
    es.map fun e =>
      { source := state, target := e.action.target,
        label := some (escape (edgeLabel (settings.isOn .debugTableShowOps) e)) }

end ArrowMachine.Command
