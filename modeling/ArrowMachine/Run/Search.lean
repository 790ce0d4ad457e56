import ArrowMachine.Run.Snapshot
import ArrowMachine.Table.Compiled

/-!
Searching an input for an accepting run: what a search is given, how it ends, and what it tells.
-/
namespace ArrowMachine

namespace Search

/-- What stays the same throughout a search. -/
structure Plan where
  table : Compiled
  prune : Bool
  /-- The most expansions allowed; zero allows any number. -/
  budget : Int
  /-- Whether the search tells what it does. -/
  verbose : Bool := false

/-- Whether the budget is used up after so many expansions. -/
def Plan.isSpent (plan : Plan) (rounds : Nat) : Bool := plan.budget ≠ 0 && plan.budget ≤ rounds

/-- One more line told, if the search tells what it does. -/
def Plan.note (plan : Plan) (line : Unit → String) (told : List String) : List String :=
  if plan.verbose then line () :: told else told

inductive Verdict where
  | accepted | ranDry | cutShort
  deriving DecidableEq, Repr

inductive Outcome where
  /-- The search ended and settled on a snapshot. -/
  | settled (verdict : Verdict) (shot : Snapshot)
  /-- An entry addressed a stack channel that does not exist. -/
  | noChannel (channel : Int)

/-- How a search ended, and what it told. -/
structure Ending where
  outcome : Outcome
  told : List String

def accepts (table : Compiled) (s : Snapshot) : Bool :=
  !s.halted && s.config.input.isEmpty && table.accepts s.config.state

/-! ## What is told -/

def atText (s : Snapshot) (found : List Entry) : String :=
  "at " ++ s.shown ++ " matches " ++ Text.bracketed (found.map Entry.shown)

def spentText (rounds pending : Nat) : String :=
  "giving up after " ++ toString rounds ++ " steps with " ++ toString pending ++ " pending"

def haltText (s : Snapshot) : String := "no accepting run, halting at " ++ s.shown

end Search

end ArrowMachine
