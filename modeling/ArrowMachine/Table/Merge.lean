import ArrowMachine.Capacity
import ArrowMachine.Rule.Edge
import ArrowMachine.Settings
import ArrowMachine.Table.Compiled

/-!
Merging statements into one table.

An edge claims a place in the table: an edge from a state claims its state and filter key, an edge from
a wildcard claims, for every state that it covers and that has no explicit edge of the same label, that
state and label. `settle` goes through claims in order and stops at the first place that two different
statements claim. The rows of a state are its explicit claims and then its wildcard claims. A wildcard
whose match leaves a group with no span can be tried no further: what it and those after it would claim
is not looked at.
-/
namespace ArrowMachine

/-- A row that the statement with number `rule` wants for a state. -/
structure Claim where
  rule : Nat
  state : String
  entry : Entry
  deriving DecidableEq, Repr

/-- What explicit edges of different statements may not share. -/
def Claim.filterPlace (c : Claim) : String × Filter := (c.state, c.entry.filter.key)

/-- What wildcard edges of different statements may not share, and what shadows them. -/
def Claim.labelPlace (c : Claim) : String × String := (c.state, c.entry.label)

/-- What a wildcard comes to at a state that it covers. -/
inductive Offer where
  /-- The state has an explicit edge of that label. -/
  | shadowed (wildcard : String) (state label : String)
  | claim (wildcard : String) (c : Claim)
  deriving DecidableEq, Repr

def Offer.claim? : Offer → Option Claim
  | shadowed .. => none
  | claim _ c => some c

/-- A wildcard that is tried on a state, with the claim that it makes if it covers that state. -/
structure Trial where
  wildcard : Wildcard
  claim : Claim

namespace Trial

/-- Whether the trial goes wrong: the match leaves a group that ends before it begins. -/
def crosses (t : Trial) : Bool := t.wildcard.crosses t.claim.state

/-- What the wildcard comes to at the state, given the places of the explicit claims. -/
def offer? (explicit : List (String × String)) (t : Trial) : Option Offer :=
  if t.wildcard.covers t.claim.state then
    some <| if t.claim.labelPlace ∈ explicit then
      .shadowed t.wildcard.text t.claim.state t.claim.entry.label
    else .claim t.wildcard.text t.claim
  else none

end Trial

/-- Claims up to the first conflict, and the two claims of that conflict: the one that had the place
and the one that wanted it. -/
structure Settled (α : Type) where
  accepted : List α
  conflict : Option (Claim × Claim)

/-- Goes through claims in order. `owners` are the first claims to their places. -/
def settle {α κ : Type} [DecidableEq κ] (place : Claim → κ) (claim? : α → Option Claim) :
    (owners : List Claim) → List α → Settled α
  | _, [] => ⟨[], none⟩
  | owners, a :: as =>
    match claim? a with
    | none =>
      let s := settle place claim? owners as
      { s with accepted := a :: s.accepted }
    | some c =>
      match owners.find? (place · = place c) with
      | some o =>
        if o.rule = c.rule then
          let s := settle place claim? owners as
          { s with accepted := a :: s.accepted }
        else ⟨[], some (o, c)⟩
      | none =>
        let s := settle place claim? (owners ++ [c]) as
        { s with accepted := a :: s.accepted }

/-- The statements of a program, expanded. -/
structure Program where
  rules : List Expansion

namespace Program

def states (p : Program) : List String := (p.rules.flatMap (·.states)).eraseDups

def labels (p : Program) : List String := (p.rules.flatMap (·.labels)).eraseDups

def accepting (p : Program) : List String := nameSet (p.rules.flatMap (·.accepting))

def initial (p : Program) : List StatePart := p.rules.flatMap (·.initial)

/-- The claims of the explicit edges, in order. -/
def claims (p : Program) : List Claim :=
  p.rules.zipIdx.flatMap fun (x, i) =>
    x.edges.filterMap fun e =>
      match e.origin with
      | .state name => some ⟨i, name, e.entry⟩
      | .wildcard .. => none

/-- Every wildcard edge with every state, statement by statement, edge by edge and state by state. -/
def trials (p : Program) : List Trial :=
  p.rules.zipIdx.flatMap fun (x, i) =>
    x.edges.flatMap fun e =>
      match e.origin with
      | .state _ => []
      | .wildcard _ w => p.states.map fun state => ⟨w, ⟨i, state, e.entry⟩⟩

/-- What the wildcard edges come to, up to the first trial that goes wrong. -/
def offers (p : Program) : List Offer :=
  let explicit := p.claims.map Claim.labelPlace
  (p.trials.takeWhile fun t => !t.crosses).filterMap (Trial.offer? explicit)

/-- How many stack channels the edges address, and at least `least`. -/
def channelCount (p : Program) (least : Int) : Int :=
  (p.rules.flatMap (·.edges)).foldl
    (fun n e => max (max n e.entry.filter.reads.length) e.entry.action.channelsUsed) least

end Program

/-- Rows by state, in the order in which the states first have one. -/
def rowsByState (cs : List Claim) : List (String × List Entry) :=
  (cs.map (·.state)).eraseDups.map fun state =>
    (state, (cs.filter (·.state = state)).map (·.entry))

/-- A result, with what was traced on the way to it. -/
structure Report (ε α : Type) where
  lines : List String
  result : Except ε α

/-- How the trace words what a wildcard came to. -/
def Offer.line : Offer → String
  | shadowed w state label => "explicit '" ++ label ++ "' on '" ++ state ++ "' shadows " ++ w
  | claim w c => w ++ " adds " ++ c.entry.shown ++ " to '" ++ c.state ++ "'"

/-- How the trace words an explicit row. -/
def Claim.line (c : Claim) : String :=
  "adding " ++ c.entry.shown ++ " to '" ++ c.state ++ "' from rule " ++ toString c.rule

/-- The error of a conflict between two claims. -/
def conflictError (owner claim : Claim) : CompileError :=
  .of (.ambiguous claim.state claim.entry.label) [owner.entry.pos, claim.entry.pos]

namespace Program

/-- The one initial state. -/
def initialState (p : Program) : Except CompileError String :=
  match (p.initial.map (·.name)).eraseDups with
  | [] => .error (.of .noInitial [])
  | [name] => .ok name
  | names => .error (.of (.severalInitial names) (p.initial.map (·.pos)))

/-- The table of the rows that were accepted. -/
def table (p : Program) (settings : Settings) (initial : String) (rows : List Claim) : Compiled :=
  let count := p.channelCount settings.stackCount
  { initial
    transitions := (rowsByState rows).map fun (state, entries) =>
      (state, entries.map (·.padded count.toNat))
    accepting := p.accepting
    stackCount := count
    states := p.states
    labels := p.labels }

/-- The first row that lacks more reads than can be added lacks this many. -/
def excess? (p : Program) (cap : Capacity) (settings : Settings) (rows : List Claim) : Option Nat :=
  let count := (p.channelCount settings.stackCount).toNat
  (rows.map (·.entry.filter.missing count)).find? (cap.room < ·)

/-- How the trace words a finished table. -/
def summary (m : Compiled) : String :=
  "compiled " ++ toString m.states.length ++ " states, " ++
    toString (m.transitions.flatMap (·.2)).length ++ " entries, " ++ toString m.stackCount ++
    " stack channels"

/-- Merges a program into a table. -/
def merge (p : Program) (cap : Capacity) (settings : Settings) : Report CompileError Compiled :=
  let explicit := settle Claim.filterPlace some [] p.claims
  let lines := if settings.isOn .verboseMerge then explicit.accepted.map Claim.line else []
  match explicit.conflict with
  | some (o, c) => ⟨lines, .error (conflictError o c)⟩
  | none =>
    let offered := settle Claim.labelPlace Offer.claim? [] p.offers
    let lines := lines ++
      if settings.isOn .verboseWildcards then offered.accepted.map Offer.line else []
    match offered.conflict, p.trials.find? (·.crosses) with
    | some (o, c), _ => ⟨lines, .error (conflictError o c)⟩
    | none, some t => ⟨lines, .error (.crossedGroup t.wildcard.text t.claim.state)⟩
    | none, none =>
      match p.initialState with
      | .error e => ⟨lines, .error e⟩
      | .ok initial =>
        let rows := explicit.accepted ++ offered.accepted.filterMap Offer.claim?
        match p.excess? cap settings rows with
        | some missing => ⟨lines, .error (.tooWide missing)⟩
        | none =>
          let m := p.table settings initial rows
          ⟨lines ++ if settings.isOn .verboseMerge then [summary m] else [], .ok m⟩

end Program

/-- Compiles statements into a table. -/
def compileStatements (cap : Capacity) (settings : Settings) (ss : List Statement) :
    Report CompileError Compiled :=
  match ss.mapM Statement.expand with
  | .error e => ⟨[], .error e⟩
  | .ok rules => Program.merge ⟨rules⟩ cap settings

end ArrowMachine
