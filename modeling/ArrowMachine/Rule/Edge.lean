import ArrowMachine.Problem
import ArrowMachine.Rule.Statement
import ArrowMachine.Table.Entry

/-!
From statements to directed edges.

Each transition joins the nearest state on its left with the nearest one on its right. `links` cuts a
statement into such neighbours, `Link.attempts` directs the transitions between two of them, and
`collect` takes the attempts in order up to the first that fails or repeats an earlier edge.
-/
namespace ArrowMachine

/-- A part that transitions join. -/
inductive Node where
  | state (s : StatePart)
  /-- A wildcard and its seat in the statement, or another number that tells it from its equals. -/
  | wildcard (seat : Nat) (w : Wildcard)

/-- Where an edge starts. -/
inductive Origin where
  | state (name : String)
  | wildcard (seat : Nat) (w : Wildcard)

/-- A directed edge: its entry belongs to every state that its origin stands for. -/
structure Edge where
  origin : Origin
  entry : Entry

/-- Two neighbouring nodes of a statement with the transitions between them. -/
structure Link where
  left : Node
  transitions : List TransitionPart
  right : Node

/-- What one statement contributes. -/
structure Expansion where
  edges : List Edge
  states : List String
  labels : List String
  initial : List StatePart
  accepting : List String

namespace Node

def pos : Node → Option Position
  | state s => s.pos
  | wildcard _ w => w.pos

/-- The node with the number that `token` has for a seat. -/
def renumber (token : Nat → Nat) : Node → Node
  | state s => .state s
  | wildcard seat w => .wildcard (token seat) w

def origin : Node → Origin
  | state s => .state s.name
  | wildcard seat w => .wildcard seat w

/-- Whether two nodes mention the same state. -/
def same : Node → Node → Bool
  | state a, state b => a.name = b.name
  | _, _ => false

end Node

namespace Origin

/-- Whether two origins are the same state or the same wildcard. -/
def same : Origin → Origin → Bool
  | state a, state b => a = b
  | wildcard i _, wildcard j _ => i = j
  | _, _ => false

def text : Origin → String
  | state name => name
  | wildcard _ w => w.text

def isState : Origin → Bool
  | state _ => true
  | wildcard .. => false

end Origin

/-- Whether two edges start at the same place, apply in the same situations and do the same. -/
def Edge.repeats (e f : Edge) : Bool :=
  e.origin.same f.origin && e.entry.filter.key = f.entry.filter.key && e.entry.action = f.entry.action

/-- The entry of a transition into a state. -/
def TransitionPart.entry (t : TransitionPart) (target : String) : Entry :=
  ⟨t.label, t.filter, .build target t.label t.ops, t.pos⟩

/-- The edge of a transition between two nodes, unless it leads to a wildcard. -/
def TransitionPart.edge (t : TransitionPart) (source target : Node) : Except CompileError Edge :=
  match target with
  | .state s => .ok ⟨source.origin, t.entry s.name⟩
  | .wildcard _ w => .error (.of (.wildcardTarget w.text) [w.pos, t.pos])

namespace Link

def renumber (token : Nat → Nat) (l : Link) : Link :=
  { l with left := l.left.renumber token, right := l.right.renumber token }

/-- The edges of one transition. A transition both ways between two mentions of one state is one
edge. -/
def directed (l : Link) (t : TransitionPart) : List (Except CompileError Edge) :=
  match t.direction with
  | .right => [t.edge l.left l.right]
  | .left => [t.edge l.right l.left]
  | .both =>
    t.edge l.left l.right :: if l.left.same l.right then [] else [t.edge l.right l.left]

def attempts (l : Link) : List (Except CompileError Edge) :=
  if l.transitions.isEmpty then [.error (.of .noTransition [l.left.pos, l.right.pos])]
  else l.transitions.flatMap l.directed

end Link

/-- The links behind a node, `pending` being the transitions read since. -/
def linksFrom (left : Node) (pending : List TransitionPart) : (seat : Nat) → List Part → List Link
  | _, [] => []
  | n, .transition t :: ps => linksFrom left (pending ++ [t]) (n + 1) ps
  | n, .state s :: ps => ⟨left, pending, .state s⟩ :: linksFrom (.state s) [] (n + 1) ps
  | n, .wildcard w :: ps =>
    ⟨left, pending, .wildcard n w⟩ :: linksFrom (.wildcard n w) [] (n + 1) ps

/-- The neighbouring nodes of a row of parts that begins with a node. -/
def links : List Part → List Link
  | .state s :: ps => linksFrom (.state s) [] 1 ps
  | .wildcard w :: ps => linksFrom (.wildcard 0 w) [] 1 ps
  | _ => []

/-- Takes attempts in order, behind the edges in `done`. -/
def collect (done : List Edge) : List (Except CompileError Edge) → Except CompileError (List Edge)
  | [] => .ok done
  | .error e :: _ => .error e
  | .ok e :: rest =>
    if done.any e.repeats then
      .error (.of (.duplicate e.origin.text e.entry.label) [e.entry.pos])
    else collect (done ++ [e]) rest

namespace Part

def isNode : Part → Bool
  | state _ | wildcard _ => true
  | transition _ => false

def state? : Part → Option StatePart
  | state s => some s
  | _ => none

def label? : Part → Option String
  | transition t => some t.label
  | _ => none

end Part

namespace Statement

/-- Whether a statement starts and ends with a node. -/
def isFramed (s : Statement) : Bool :=
  s.parts.head?.any Part.isNode && s.parts.getLast?.any Part.isNode

def stateParts (s : Statement) : List StatePart := s.parts.filterMap Part.state?

/-- The edges of a statement and the names it mentions, if `token` numbers its wildcards by their seats.
Who puts a statement together may put one wildcard in several places, which then have one number. -/
def expandWith (token : Nat → Nat) (s : Statement) : Except CompileError Expansion :=
  if s.isFramed then
    (collect [] (((links s.parts).map (Link.renumber token)).flatMap Link.attempts)).map fun edges =>
      { edges
        states := (s.stateParts.map (·.name)).eraseDups
        labels := (s.parts.filterMap Part.label?).eraseDups
        initial := s.stateParts.filter (·.initial)
        accepting := ((s.stateParts.filter (·.accepting)).map (·.name)).eraseDups }
  else .error (.of .unframed [s.pos])

/-- The edges of a statement, each wildcard standing in one place only, and the names it mentions. -/
def expand (s : Statement) : Except CompileError Expansion := s.expandWith id

end Statement

namespace Expansion

/-- The edges that start at a state. -/
def stateEdges (x : Expansion) : List Edge := x.edges.filter (·.origin.isState)

/-- The edges that start at a wildcard. -/
def wildcardEdges (x : Expansion) : List Edge := x.edges.filter (!·.origin.isState)

end Expansion

end ArrowMachine
