import ArrowMachine.Diagnostic
import ArrowMachine.Pattern.Failure
import ArrowMachine.Rule.Token

/-!
What can be wrong with a program.

A `Problem` is a cause, `Problem.message` words it, and a `Refusal` adds the places that it is due to.
-/
namespace ArrowMachine

open Text (quoted)

inductive Problem where
  /-- The text is no list of rules. -/
  | syntaxFault (fault : Rule.SyntaxFault)
  /-- A wildcard is written with something that is no pattern. -/
  | badPattern (literal message : String)
  /-- A bracket and a push list both write a channel. -/
  | writtenTwice (channel : Nat)
  /-- A statement does not start and end with a state. -/
  | unframed
  /-- A transition leads to a wildcard. -/
  | wildcardTarget (wildcard : String)
  /-- Two states follow each other. -/
  | noTransition
  /-- A statement says the same transition twice. -/
  | duplicate (source label : String)
  /-- Two statements claim the same transition. -/
  | ambiguous (state label : String)
  | noInitial
  | severalInitial (names : List String)
  deriving DecidableEq, Repr

namespace Problem

def message : Problem → String
  | syntaxFault fault => "Syntax error: " ++ String.ofList (Text.firstLine fault.message.toList)
  | badPattern literal why => "Invalid state pattern " ++ literal ++ ": " ++ why
  | writtenTwice channel =>
    "Stack channel " ++ toString channel ++ " is written twice by one transition"
  | unframed => "Rule statements must start and end with a state"
  | wildcardTarget w => "Wildcard state " ++ w ++ " can only be the source of a transition"
  | noTransition => "Missing transition between two states"
  | duplicate source label =>
    "Duplicate transition '" ++ label ++ "' from state '" ++ source ++ "' in a single rule"
  | ambiguous state label =>
    "Multiple possible paths from state '" ++ state ++ "' via transition '" ++ label ++ "'"
  | noInitial =>
    "Initial state not found; mark the initial state with a leading '.', e.g. .s0 -f> s1"
  | severalInitial names =>
    "Multiple initial states: " ++ ", ".intercalate (names.map fun n => "'" ++ n ++ "'")

end Problem

/-- A problem and the places it is due to. -/
structure Refusal where
  problem : Problem
  places : List Position
  deriving DecidableEq, Repr

namespace Refusal

def diagnostic (r : Refusal) : Diagnostic := ⟨some r.problem.message, r.places.map (·.place), none⟩

/-- The message without a source. -/
def text (r : Refusal) : String := r.diagnostic.text

/-- The message with the lines of a source. -/
def textIn (r : Refusal) (source : String) : String := (r.diagnostic.attach source).text

end Refusal

/-- Why there is no machine: the program is refused, or it goes beyond what can be handled at all. -/
inductive CompileError where
  | refused (r : Refusal)
  /-- A pattern cannot be matched with. -/
  | pattern (failure : Pattern.Failure)
  /-- A row lacks more absent reads than can be added. -/
  | tooWide (missing : Nat)
  /-- A wildcard matches a state in a way that leaves one of its groups with no span. -/
  | crossedGroup (wildcard state : String)
  deriving DecidableEq, Repr

def CompileError.of (problem : Problem) (places : List (Option Position)) : CompileError :=
  .refused ⟨problem, places.filterMap id⟩

end ArrowMachine
