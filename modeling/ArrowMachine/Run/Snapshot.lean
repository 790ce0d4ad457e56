import ArrowMachine.Table.Entry

/-!
A run in progress.

A snapshot is a configuration with the trail of what led to it. Applying an entry makes a new snapshot
and leaves the old one as it is. A `Family` is a growing row of snapshots that are cloned and stepped
one at a time.
-/
namespace ArrowMachine

/-- What a transition came to: the state behind it, its label and the stacks behind it. -/
structure Step where
  state : String
  label : String
  channels : List Stack
  deriving DecidableEq, Repr

structure Snapshot where
  config : Configuration
  halted : Bool := false
  /-- The steps recorded so far, the latest one first. -/
  trail : List Step := []
  recording : Bool := false
  deriving DecidableEq, Repr

/-- What tells one configuration from another within a search: the input is a suffix of one list, so its
length is enough. -/
structure Footprint where
  state : String
  channels : List Stack
  left : Nat
  deriving DecidableEq, Repr, Hashable

namespace Snapshot

/-- The steps from the oldest to the latest. -/
def history (s : Snapshot) : List Step := s.trail.reverse

def workload (s : Snapshot) : Nat := s.config.workload

def footprint (s : Snapshot) : Footprint := ⟨s.config.state, s.config.channels, s.config.input.length⟩

def record (s : Snapshot) (label : String) : Snapshot :=
  if s.recording then
    { s with trail := ⟨s.config.state, label, s.config.channels⟩ :: s.trail }
  else s

/-- The snapshot behind an entry. If an operation of the entry fails, the error holds the snapshot it
was to be applied to. -/
def apply (s : Snapshot) (e : Entry) : Except (NoChannel Snapshot) Snapshot :=
  match e.action.apply true s.config with
  | .ok c => .ok ({ s with config := c }.record e.label)
  | .error fault => .error ⟨fault.channel, { s with config := fault.reached }⟩

def shown (s : Snapshot) : String :=
  "<Snapshot state=" ++ s.config.state ++ " stacks=" ++ s.config.stacksText ++ " input=" ++
    Text.quotedList s.config.input ++ (if s.halted then " halted" else "") ++ ">"

end Snapshot

/-- A row of snapshots. -/
abbrev Family := List Snapshot

namespace Family

/-- Adds a copy of member `i`. -/
def clone (f : Family) (i : Nat) : Family := f ++ (f[i]?).toList

/-- Steps member `i`, and tells the channel that was missing if an operation failed on the way. -/
def apply (f : Family) (i : Nat) (e : Entry) : Family × Option Int :=
  match f[i]? with
  | none => (f, none)
  | some s =>
    match s.apply e with
    | .ok t => (f.set i t, none)
    | .error fault => (f.set i fault.reached, some fault.channel)

end Family

end ArrowMachine
