import ArrowMachine.Run.Search
import Std.Data.HashSet

/-!
A search on snapshots that do not change.

The snapshots still to be expanded lie on a work stack. One round takes the top one and applies every
entry that matches it; the search ends with the first accepting snapshot, or when the stack runs empty
or the budget of expansions is used up, and then settles on the snapshot with the least workload, the
earliest of those. With pruning, a configuration that was expanded before is dropped without a round.

A machine makes the same search in place, on snapshots that are overwritten. Here every snapshot is new and
has a number, by which it can be told where the one that the search settles on comes from.
-/
namespace ArrowMachine

namespace Search

/-- A snapshot with its number in the order in which snapshots were made. -/
structure Branch where
  serial : Nat
  shot : Snapshot

/-- A search between two rounds. -/
structure State where
  /-- The branches to expand, the next one first. -/
  pending : List Branch
  explored : Std.HashSet Footprint := ∅
  best : Branch
  /-- How many snapshots have been expanded. -/
  rounds : Nat := 0
  /-- The number of the next branch. -/
  fresh : Nat := 1
  /-- What the search has told, the latest line first. -/
  told : List String := []

/-- The branch with less workload, the current one if they have the same. -/
def better (candidate current : Branch) : Branch :=
  if candidate.shot.workload < current.shot.workload then candidate else current

namespace State

def seed (s : Snapshot) : State := { pending := [⟨0, s⟩], best := ⟨0, s⟩ }

def tell (st : State) (plan : Plan) (line : Unit → String) : State :=
  { st with told := plan.note line st.told }

def finish (st : State) (outcome : Outcome) : Ending := ⟨outcome, st.told.reverse⟩

/-- Puts a new branch on the work stack. -/
def add (st : State) (s : Snapshot) : State :=
  let b : Branch := ⟨st.fresh, s⟩
  { st with pending := b :: st.pending, best := better b st.best, fresh := st.fresh + 1 }

/-- Applies entries to a snapshot, one branch for each, up to the first that accepts. -/
def spread (plan : Plan) (s : Snapshot) : List Entry → State → Except Ending State
  | [], st => .ok st
  | e :: es, st =>
    match s.apply e with
    | .error fault => .error (st.finish (.noChannel fault.channel))
    | .ok t =>
      if accepts plan.table t then .error (st.finish (.settled .accepted t))
      else spread plan s es (st.add t)

/-- Marks a branch as stuck. -/
def halt (st : State) (b : Branch) : State :=
  let stuck : Branch := ⟨b.serial, { b.shot with halted := true }⟩
  { st with best := if b.serial = st.best.serial then stuck else better stuck st.best }

/-- The end of a search that found nothing. -/
def giveUp (st : State) (plan : Plan) (verdict : Verdict) : Ending :=
  (st.tell plan fun _ => haltText st.best.shot).finish (.settled verdict st.best.shot)

/-- Expands a branch that has been taken off the work stack. -/
def expand (plan : Plan) (b : Branch) (st : State) : Except Ending State :=
  let found := plan.table.possible b.shot.config.state b.shot.config.head? b.shot.config.tops
  let st := { st with rounds := st.rounds + 1 }.tell plan fun _ => atText b.shot found
  if found.isEmpty then .ok (st.halt b) else spread plan b.shot found st

/-- Whether the budget is used up. -/
def isSpent (plan : Plan) (st : State) : Bool := plan.isSpent st.rounds

/-- One round of the search, unless it is over. -/
def advance (plan : Plan) (st : State) : Except Ending State :=
  match st.pending with
  | [] => .error (st.giveUp plan .ranDry)
  | b :: rest =>
    if isSpent plan st then
      .error ((st.tell plan fun _ => spentText st.rounds st.pending.length).giveUp plan .cutShort)
    else
      let st := { st with pending := rest }
      if plan.prune then
        if st.explored.contains b.shot.footprint then .ok st
        else expand plan b { st with explored := st.explored.insert b.shot.footprint }
      else expand plan b st

/-- Rounds until the search is over, at most `fuel` of them. -/
def run (plan : Plan) : (fuel : Nat) → State → Option Ending
  | 0, _ => none
  | fuel + 1, st =>
    match st.advance plan with
    | .error ending => some ending
    | .ok st => run plan fuel st

end State

/-- Searches from a snapshot. There is no answer only if `fuel` rounds were not enough. -/
def start (plan : Plan) (fuel : Nat) (s : Snapshot) : Option Ending :=
  if accepts plan.table s then some ⟨.settled .accepted s, []⟩
  else (State.seed s).run plan fuel

end Search

end ArrowMachine
