import ArrowMachine.Run.Memory
import ArrowMachine.Run.Search
import Std.Data.HashSet

/-!
The search of a machine, on snapshots that are changed in place.

The snapshots still to be expanded lie on a work stack, as members of a memory. One round takes the top one
and applies every entry that matches it. When one entry alone matches, the member itself is stepped and goes
back on the stack; but if it is the best one so far, a copy of it is stepped instead, since the best one may
be what the search settles on. When several entries match, each is applied to a copy.

The search ends with the first snapshot that accepts, or when the stack runs empty or the budget of
expansions is used up, and then settles on the one with the least workload, the earliest of those. With
pruning, a configuration that was expanded before is dropped without a round.
-/
namespace ArrowMachine

namespace InPlace

open Search (Plan Verdict Outcome Ending)

/-- A search in place between two rounds. -/
structure State where
  memory : Memory
  /-- The members to expand, the next one first. -/
  pending : List Nat
  explored : Std.HashSet Footprint := ∅
  /-- The member that the search would settle on. -/
  best : Nat
  /-- How many members have been expanded. -/
  rounds : Nat := 0
  /-- What the search has told, the latest line first. -/
  told : List String := []

namespace State

def seed (s : Snapshot) : State := { memory := .ofFamily [s], pending := [0], best := 0 }

def tell (st : State) (plan : Plan) (line : Unit → String) : State :=
  { st with told := plan.note line st.told }

def finish (st : State) (outcome : Outcome) : Ending := ⟨outcome, st.told.reverse⟩

/-- Takes member `i` for the best if it has less workload than the present one. -/
def consider (st : State) (i : Nat) : State :=
  if (st.memory.shot i).workload < (st.memory.shot st.best).workload then { st with best := i } else st

/-- Steps member `i` and puts it on the work stack, unless it accepts. -/
def step (plan : Plan) (i : Nat) (e : Entry) (st : State) : Except Ending State :=
  match st.memory.apply i e with
  | (_, some channel) => .error (st.finish (.noChannel channel))
  | (memory, none) =>
    if Search.accepts plan.table (memory.shot i) then
      .error (st.finish (.settled .accepted (memory.shot i)))
    else .ok ({ st with memory, pending := i :: st.pending }.consider i)

/-- Steps a copy of member `i`. -/
def stepCopy (plan : Plan) (i : Nat) (e : Entry) (st : State) : Except Ending State :=
  step plan st.memory.places.size e { st with memory := st.memory.clone i }

/-- Steps one copy of member `i` for each entry, up to the first that accepts. -/
def fork (plan : Plan) (i : Nat) : List Entry → State → Except Ending State
  | [], st => .ok st
  | e :: es, st =>
    match st.stepCopy plan i e with
    | .ok st => fork plan i es st
    | .error ending => .error ending

/-- Marks member `i` as stuck. -/
def halt (st : State) (i : Nat) : State := { st with memory := st.memory.halt i }.consider i

/-- The end of a search that found nothing. -/
def giveUp (st : State) (plan : Plan) (verdict : Verdict) : Ending :=
  (st.tell plan fun _ => Search.haltText (st.memory.shot st.best)).finish
    (.settled verdict (st.memory.shot st.best))

/-- Expands a member that has been taken off the work stack. -/
def expand (plan : Plan) (i : Nat) (st : State) : Except Ending State :=
  let s := st.memory.shot i
  let found := plan.table.possible s.config.state s.config.head? s.config.tops
  let st := { st with rounds := st.rounds + 1 }.tell plan fun _ => Search.atText s found
  match found with
  | [] => .ok (st.halt i)
  | [e] => if i = st.best then st.stepCopy plan i e else st.step plan i e
  | found => st.fork plan i found

/-- One round of the search, unless it is over. -/
def advance (plan : Plan) (st : State) : Except Ending State :=
  match st.pending with
  | [] => .error (st.giveUp plan .ranDry)
  | i :: rest =>
    if plan.isSpent st.rounds then
      .error ((st.tell plan fun _ => Search.spentText st.rounds st.pending.length).giveUp plan
        .cutShort)
    else
      let footprint := (st.memory.shot i).footprint
      let st := { st with pending := rest }
      if plan.prune then
        if st.explored.contains footprint then .ok st
        else expand plan i { st with explored := st.explored.insert footprint }
      else expand plan i st

/-- Rounds until the search is over, at most `fuel` of them. -/
def run (plan : Plan) : (fuel : Nat) → State → Option Ending
  | 0, _ => none
  | fuel + 1, st =>
    match st.advance plan with
    | .error ending => some ending
    | .ok st => run plan fuel st

end State

/-- Searches from a snapshot. There is no answer only if `fuel` rounds were not enough. -/
def start (plan : Plan) (fuel : Nat) (s : Snapshot) : Option Ending :=
  if Search.accepts plan.table s then some ⟨.settled .accepted s, []⟩
  else (State.seed s).run plan fuel

end InPlace

end ArrowMachine
