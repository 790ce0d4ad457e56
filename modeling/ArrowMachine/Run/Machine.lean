import ArrowMachine.Run.InPlace
import ArrowMachine.Settings

/-!
A running machine.

`dispatch` fires the first entry of the current state that has the given label and whose reads fit the
stacks; `consume` searches a whole input and adopts what the search settles on. Both tell the
subscribers each transition that is committed. A listener may leave after its first notice, and may
answer a label with a dispatch of its own, in the middle of being told.
-/
namespace ArrowMachine

/-- Someone who wants to be told of transitions. -/
structure Listener where
  id : String
  /-- Whether the listener leaves after a notice. -/
  once : Bool := false
  /-- A label, and the label to dispatch when that is heard. -/
  answer : Option (String × String) := none
  deriving DecidableEq, Repr

/-- A notice as a listener got it. -/
structure Event where
  listener : String
  step : Step
  deriving DecidableEq, Repr

inductive MachineError where
  /-- No transition of that label fires, and the machine is strict. -/
  | invalidAction (label state : String) (known : Bool)
  /-- An entry addressed a stack channel that does not exist. -/
  | noChannel (channel : Int)
  /-- Someone is to leave who never came. -/
  | neverSubscribed (id : String)
  /-- Listeners keep answering each other. -/
  | tooDeep
  /-- The search was not over within the rounds allowed to it. -/
  | endless
  deriving DecidableEq, Repr

/-- Whether a number is one that could be the index of something held in memory. -/
def isIndex (n : Int) : Bool := -0x8000000000000000 ≤ n && n < 0x8000000000000000

def MachineError.message : MachineError → String
  | invalidAction label state true => "Invalid action '" ++ label ++ "' from state '" ++ state ++ "'"
  | invalidAction label _ false => "Unknown action '" ++ label ++ "'"
  | noChannel channel =>
    if isIndex channel then "list index out of range"
    else "cannot fit 'int' into an index-sized integer"
  | neverSubscribed id => Text.quoted id
  | tooDeep => "maximum recursion depth exceeded"
  | endless => "the search does not end"

structure Machine where
  table : Compiled
  settings : Settings
  strict : Bool
  /-- The most expansions of one search; zero allows any number. -/
  maxSteps : Int
  config : Configuration
  halted : Bool
  /-- Everyone who ever subscribed. -/
  listeners : List Listener := []
  /-- Who is subscribed, in order; someone may be so several times. -/
  subscribed : List String := []
  /-- The notices given so far. -/
  heard : Array Event := #[]
  /-- The lines traced so far. -/
  told : Array String := #[]

/-- What a call makes of a machine: the machine behind it, and the error that ended it, if any. -/
structure Turn where
  machine : Machine
  error : Option MachineError := none

namespace Machine

/-- The configuration in which a machine starts. -/
def startConfig (table : Compiled) : Configuration :=
  ⟨table.initial, List.replicate table.stackCount.toNat [], []⟩

/-- A new machine; strictness and budget are those of the settings unless they are given. -/
def new (table : Compiled) (settings : Settings) (strict : Option Bool) (maxSteps : Option Int) :
    Machine where
  table := table
  settings := settings
  strict := strict.getD (settings.isOn .strictActions)
  maxSteps := maxSteps.getD settings.maxSearchSteps
  config := startConfig table
  halted := false

def reset (m : Machine) : Machine := { m with config := startConfig m.table, halted := false }

def inAcceptState (m : Machine) : Bool := m.config.input.isEmpty && m.table.accepts m.config.state

def possible (m : Machine) (state : String) (head : Option String)
    (tops : List (Option String)) : List Entry :=
  m.table.possible state head tops

def tell (m : Machine) (switch : Switch) (line : Unit → String) : Machine :=
  if m.settings.isOn switch then { m with told := m.told.push (line ()) } else m

/-! ## Subscriptions -/

/-- Subscribes a listener. One who has subscribed before comes as first introduced. -/
def subscribe (m : Machine) (l : Listener) : Machine :=
  { m with
    listeners := if m.listeners.any (·.id = l.id) then m.listeners else m.listeners ++ [l]
    subscribed := m.subscribed ++ [l.id] }

/-- Takes back the first subscription of a listener, if one is left. -/
def leave (m : Machine) (id : String) : Machine := { m with subscribed := m.subscribed.erase id }

def unsubscribe (m : Machine) (id : String) : Turn :=
  if m.listeners.any (·.id = id) then ⟨m.leave id, none⟩ else ⟨m, some (.neverSubscribed id)⟩

/-- Tells one listener of a step. `dispatch` is what its answer calls. -/
def inform (dispatch : String → Machine → Turn) (step : Step) (id : String) (m : Machine) : Turn :=
  let m := { m with heard := m.heard.push ⟨id, step⟩ }
  match m.listeners.find? (·.id = id) with
  | none => ⟨m, none⟩
  | some l =>
    let m := if l.once then m.leave id else m
    match l.answer with
    | some (label, other) => if step.label = label then dispatch other m else ⟨m, none⟩
    | none => ⟨m, none⟩

/-- Tells listeners of a step, one after the other. -/
def informAll (dispatch : String → Machine → Turn) (step : Step) : List String → Machine → Turn
  | [], m => ⟨m, none⟩
  | id :: ids, m =>
    match inform dispatch step id m with
    | ⟨m, none⟩ => informAll dispatch step ids m
    | turn => turn

/-- Tells everyone subscribed at the moment. -/
def notify (dispatch : String → Machine → Turn) (step : Step) (m : Machine) : Turn :=
  informAll dispatch step m.subscribed m

/-- Tells everyone of several steps. -/
def notifyAll (dispatch : String → Machine → Turn) : List Step → Machine → Turn
  | [], m => ⟨m, none⟩
  | step :: steps, m =>
    match notify dispatch step m with
    | ⟨m, none⟩ => notifyAll dispatch steps m
    | turn => turn

/-! ## Dispatch -/

/-- The entry that a label fires. -/
def firing? (m : Machine) (label : String) : Option Entry :=
  (m.table.entriesFor m.config.state).find? fun e =>
    e.filter.input = label && e.filter.accepts (some label) m.config.tops

/-- What happens to a label that fires nothing. -/
def refuse (m : Machine) (label : String) : Turn :=
  if m.strict then
    ⟨m, some (.invalidAction label m.config.state (m.table.labels.contains label))⟩
  else
    ⟨m.tell .verboseDispatch fun _ =>
      "ignoring invalid action '" ++ label ++ "' from state '" ++ m.config.state ++ "'", none⟩

/-- Fires a label. Answers of listeners may be nested at most `depth` deep. -/
def dispatch : (depth : Nat) → (label : String) → Machine → Turn
  | 0, _, m => ⟨m, some .tooDeep⟩
  | depth + 1, label, m =>
    match m.firing? label with
    | none => m.refuse label
    | some e =>
      let m := m.tell .verboseDispatch fun _ =>
        "dispatch '" ++ label ++ "': " ++ m.config.state ++ " -> " ++ e.action.target
      match e.action.apply false m.config with
      | .error fault => ⟨{ m with config := fault.reached }, some (.noChannel fault.channel)⟩
      | .ok c =>
        notify (dispatch depth) ⟨c.state, e.label, c.channels⟩ { m with config := c, halted := false }

/-! ## Consume -/

/-- The search that a machine makes. -/
def plan (m : Machine) : Search.Plan where
  table := m.table
  prune := m.settings.isOn .pruneRevisited
  budget := m.maxSteps
  verbose := m.settings.isOn .verboseSearch

/-- Takes over a snapshot and tells everyone how it came about. -/
def adopt (depth : Nat) (s : Snapshot) (m : Machine) : Turn :=
  notifyAll (dispatch depth) s.history { m with config := s.config, halted := s.halted }

/-- Searches an input for an accepting run, in at most `fuel` rounds. -/
def consume (fuel depth : Nat) (input : List String) (m : Machine) : Turn :=
  let seed : Snapshot :=
    { config := { m.config with input }, recording := !m.subscribed.isEmpty }
  match InPlace.start m.plan fuel seed with
  | none => ⟨m, some .endless⟩
  | some ending =>
    let m := { m with told := m.told ++ ending.told }
    match ending.outcome with
    | .settled _ s => m.adopt depth s
    | .noChannel channel => ⟨m, some (.noChannel channel)⟩

end Machine

end ArrowMachine
