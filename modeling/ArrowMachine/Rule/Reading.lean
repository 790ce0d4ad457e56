import ArrowMachine.Problem
import ArrowMachine.Rule.Parser
import ArrowMachine.Rule.Statement

/-!
From a rule as it is written to the statement it makes.

The channels of a bracket and the push list behind it combine channel by channel; `epsilon` writes
nothing, and no channel may be written by both.
-/
namespace ArrowMachine.Rule

/-- The symbol that a written word pushes, if any. -/
def writeValue (w : Word) : Option String := if w.text = epsilon then none else some w.text

def ChannelSpelling.op : ChannelSpelling → ChannelOp
  | read r => ⟨some r.text, none⟩
  | readWrite r w => ⟨some r.text, writeValue w⟩
  | write w => ⟨none, writeValue w⟩

/-- Channels with idle ones added, so that there are at least `count`. -/
def widen (count : Nat) (ops : List ChannelOp) : List ChannelOp :=
  ops ++ List.replicate (count - ops.length) ⟨none, none⟩

/-- Adds a push list to channels, the first word being for number `channel`. Fails at the first channel
that is written already. -/
def addPushes : (channel : Nat) → List Word → List ChannelOp →
    Except (Nat × Word) (List ChannelOp)
  | _, [], ops => .ok ops
  | i, w :: ws, ops =>
    match writeValue w with
    | none => addPushes (i + 1) ws ops
    | some value =>
      let ops := widen (i + 1) ops
      if (ops[i]?.bind (·.write)).isSome then .error (i, w)
      else addPushes (i + 1) ws (ops.modify i fun op => { op with write := some value })

def BodySpelling.ops : BodySpelling → Except (Nat × Word) (List ChannelOp)
  | plain _ => .ok []
  | bracket _ channels pushes => addPushes 0 pushes (channels.map ChannelSpelling.op)

def ArrowSpelling.part (a : ArrowSpelling) : Except CompileError TransitionPart :=
  match a.body.ops with
  | .ok ops => .ok ⟨a.body.label.text, a.direction, ops, some a.body.label.pos⟩
  | .error (channel, w) => .error (.of (.writtenTwice channel) [some w.pos])

def StateSpelling.part (s : StateSpelling) : StatePart :=
  ⟨s.name.text, s.mark.isSome, s.paren.isSome, some (s.mark.getD s.name.pos)⟩

/-- The pattern between the slashes of a literal. -/
def patternOf (cap : Capacity) (literal : Word) : Except CompileError Pattern :=
  let body := String.ofList (literal.text.toList.drop 1).dropLast
  match Pattern.ofText cap body with
  | .ok p => .ok p
  | .error (.invalid problem place) =>
    .error (.of (.badPattern literal.text (Pattern.Failure.message body.toList (.invalid problem place)))
      [some literal.pos])
  | .error failure => .error (.pattern failure)

def SourceSpelling.part (cap : Capacity) : SourceSpelling → Except CompileError Part
  | state s => .ok (.state s.part)
  | pattern l => (patternOf cap l).map fun p => .wildcard ⟨some p, some l.pos⟩
  | any pos => .ok (.wildcard ⟨none, some pos⟩)

def Leg.parts (l : Leg) : Except CompileError (List Part) := do
  let ts ← l.arrows.mapM ArrowSpelling.part
  return ts.map Part.transition ++ [.state l.target.part]

/-- The statement of a rule. -/
def Spelling.statement (cap : Capacity) (s : Spelling) : Except CompileError Statement := do
  let source ← s.source.part cap
  let legs ← s.legs.mapM Leg.parts
  return ⟨source :: legs.flatten, some s.start⟩

/-- The statements of rules, in order. -/
def statements (cap : Capacity) (rules : List Spelling) : Except CompileError (List Statement) :=
  rules.mapM (Spelling.statement cap)

end ArrowMachine.Rule
