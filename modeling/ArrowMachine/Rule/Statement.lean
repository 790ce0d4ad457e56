import ArrowMachine.Pattern
import ArrowMachine.Rule.Syntax
import ArrowMachine.Table.Action

/-!
Statements: what a rule says, as a row of parts.

States and wildcards alternate with the transitions between them. A statement that was read from a text
always has that form, but one may also be put together by hand.
-/
namespace ArrowMachine

open Text (quoted bracketed)

/-- A mention of a state. -/
structure StatePart where
  name : String
  initial : Bool := false
  accepting : Bool := false
  pos : Option Position := none

/-- A place that stands for every state whose name a pattern matches, or for all states. -/
structure Wildcard where
  pattern : Option Pattern
  pos : Option Position := none

/-- A transition in the direction it was written. -/
structure TransitionPart where
  label : String
  direction : Rule.Direction := .right
  ops : List ChannelOp := []
  pos : Option Position := none

inductive Part where
  | state (s : StatePart)
  | wildcard (w : Wildcard)
  | transition (t : TransitionPart)

structure Statement where
  parts : List Part
  pos : Option Position := none

namespace Rule.Direction

/-- The letters of a direction. -/
def text : Direction → String
  | right => "r"
  | left => "l"
  | both => "lr"

def ofText? (s : String) : Option Direction :=
  if s = "r" then some right else if s = "l" then some left else if s = "lr" then some both else none

end Rule.Direction

namespace Wildcard

def covers (w : Wildcard) (name : String) : Bool := w.pattern.all (·.found name)

/-- Whether the match in a name leaves a group that ends before it begins. -/
def crosses (w : Wildcard) (name : String) : Bool := w.pattern.any (·.crosses name)

def text (w : Wildcard) : String :=
  match w.pattern with
  | none => "*"
  | some p => "/" ++ p.text ++ "/"

end Wildcard

def TransitionPart.filter (t : TransitionPart) : Filter := ⟨t.label, t.ops.map (·.read)⟩

def Part.pos : Part → Option Position
  | state s => s.pos
  | wildcard w => w.pos
  | transition t => t.pos

/-! ## How statements are shown -/

def shownText : Option String → String
  | some s => quoted s
  | none => "None"

def ChannelOp.shown (c : ChannelOp) : String :=
  "StackOp(read=" ++ shownText c.read ++ ", write=" ++ shownText c.write ++ ")"

def Part.shown : Part → String
  | state s =>
    "<StateToken " ++ (if s.initial then "." else "") ++ s.name ++
      (if s.accepting then " accepting" else "") ++ ">"
  | wildcard w => "<WildcardToken " ++ w.text ++ ">"
  | transition t =>
    "<TransitionToken " ++ t.filter.text ++ " " ++ t.direction.text ++ " ops=" ++
      bracketed (t.ops.map ChannelOp.shown) ++ ">"

def Statement.shown (s : Statement) : String :=
  "<RuleStatement " ++ bracketed (s.parts.map Part.shown) ++ ">"

end ArrowMachine
