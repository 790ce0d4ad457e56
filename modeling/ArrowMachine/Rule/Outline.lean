import ArrowMachine.Rule.Syntax

/-!
Rules as an indented outline of their parts.

A part with a single piece of text has it on its own line behind a tab; otherwise what it holds stands
below it, two columns deeper.
-/
namespace ArrowMachine.Rule

inductive Outline where
  | text (s : String)
  | part (title : String) (inside : List Outline)

namespace Outline

mutual

def lines (depth : Nat) : Outline → List String
  | text s => [String.ofList (List.replicate (2 * depth) ' ') ++ s]
  | part title [text s] => [String.ofList (List.replicate (2 * depth) ' ') ++ title ++ "\t" ++ s]
  | part title inside =>
    (String.ofList (List.replicate (2 * depth) ' ') ++ title) :: linesOf (depth + 1) inside

def linesOf (depth : Nat) : List Outline → List String
  | [] => []
  | o :: os => o.lines depth ++ linesOf depth os

end

/-- A part that holds words. -/
def ofWords (title : String) (ws : List Word) : Outline := part title (ws.map fun w => text w.text)

end Outline

def StateSpelling.outline (s : StateSpelling) : Outline :=
  .part "state"
    ((if s.mark.isSome then [.text "."] else []) ++
      [.ofWords (if s.paren.isSome then "accepting_name" else "plain_name") [s.name]])

def SourceSpelling.outline : SourceSpelling → Outline
  | state s => s.outline
  | pattern l => .ofWords "regex_source" [l]
  | any _ => .part "any_source" []

def ChannelSpelling.outline : ChannelSpelling → Outline
  | read r => .ofWords "read_op" [r]
  | readWrite r w => .ofWords "read_write_op" [r, w]
  | write w => .ofWords "write_op" [w]

def BodySpelling.outline : BodySpelling → Outline
  | plain l => .ofWords "plain_body" [l]
  | bracket l channels pushes =>
    .part "stack_body" (.text l.text :: channels.map ChannelSpelling.outline ++
      (if pushes.isEmpty then [] else [.ofWords "push_list" pushes]))

def ArrowSpelling.outline (a : ArrowSpelling) : Outline :=
  let title := match a.direction with
    | .right => "right_transition"
    | .left => "left_transition"
    | .both => "both_transition"
  .part title [a.body.outline]

def Leg.outlines (l : Leg) : List Outline :=
  l.arrows.map ArrowSpelling.outline ++ [l.target.outline]

def Spelling.outline (s : Spelling) : Outline :=
  .part "rule_stmt" (s.source.outline :: s.legs.flatMap Leg.outlines)

/-- The outline of a whole text. -/
def outline (rules : List Spelling) : Outline := .part "start" (rules.map Spelling.outline)

/-- The outline of a whole text, line by line. -/
def outlineLines (rules : List Spelling) : List String := (outline rules).lines 0

end ArrowMachine.Rule
