import ArrowMachine.Run.Snapshot

/-!
Snapshots that are changed in place.

A memory holds lists of symbols, each named by its number, and members: snapshots whose stacks and input
are lists of the memory. An operation changes the lists of the member that it is done on. A clone is given
lists of its own, with the same symbols; its trail is its parent's, since a recorded step never changes.
`Memory.family` shows the members as the snapshots that they are at the time.
-/
namespace ArrowMachine

/-- Lists of symbols, each named by its number. -/
abbrev Lists := Array (List String)

/-- The symbols in list `a`. -/
def Lists.read (ls : Lists) (a : Nat) : List String := ls[a]?.getD []

/-- A snapshot whose stacks and input are lists in a memory. -/
structure Member where
  state : String
  /-- The list of each channel. -/
  channels : List Nat
  /-- The list with the input. -/
  input : Nat
  halted : Bool
  trail : List Step
  recording : Bool
  deriving DecidableEq, Repr

/-- A snapshot as a member whose lists are those from `a` on. -/
def Member.ofSnapshot (a : Nat) (s : Snapshot) : Member where
  state := s.config.state
  channels := List.range' a s.config.channels.length
  input := a + s.config.channels.length
  halted := s.halted
  trail := s.trail
  recording := s.recording

/-- The list of a channel; a negative number counts from the last. -/
def Member.stack? (x : Member) (channel : Int) : Option Nat :=
  (channelIndex? x.channels.length channel).bind (x.channels[·]?)

/-- A member among the lists of its memory. -/
structure Held where
  lists : Lists
  member : Member

namespace Held

def config (h : Held) : Configuration :=
  ⟨h.member.state, h.member.channels.map h.lists.read, h.lists.read h.member.input⟩

/-- The member as the snapshot that it is. -/
def snapshot (h : Held) : Snapshot := ⟨h.config, h.member.halted, h.member.trail, h.member.recording⟩

/-- Changes list `a`. -/
def change (h : Held) (a : Nat) (f : List String → List String) : Held :=
  { h with lists := h.lists.modify a f }

def record (h : Held) (label : String) : Held :=
  if h.member.recording then
    let step : Step := ⟨h.member.state, label, h.member.channels.map h.lists.read⟩
    { h with member := { h.member with trail := step :: h.member.trail } }
  else h

end Held

namespace Op

/-- Does an operation in place, if its channel exists. -/
def work (op : Op) (h : Held) : Option Held :=
  match op with
  | consume => some (h.change h.member.input List.tail)
  | pop channel => (h.member.stack? channel).map fun a => h.change a List.tail
  | push channel value => (h.member.stack? channel).map fun a => h.change a (value :: ·)
  | set state => some { h with member := { h.member with state } }

/-- Does operations in turn, up to the first that fails. -/
def workAll : List Op → Held → Except (NoChannel Held) Held
  | [], h => .ok h
  | op :: ops, h =>
    match op.work h with
    | some k => workAll ops k
    | none => .error ⟨op.channel?.getD 0, h⟩

end Op

/-- Applies an entry in place. If an operation fails, what was done before it stays done. -/
def Held.apply (h : Held) (e : Entry) : Except (NoChannel Held) Held :=
  match Op.workAll e.action.ops h with
  | .ok k => .ok (k.record e.label)
  | .error fault => .error fault

structure Memory where
  lists : Lists := #[]
  /-- The members, each in its place. -/
  places : Array Member := #[]
  deriving DecidableEq, Repr

namespace Memory

def members (m : Memory) : List Member := m.places.toList

def held? (m : Memory) (i : Nat) : Option Held := m.places[i]?.map fun x => ⟨m.lists, x⟩

/-- Member `i` and the lists as they have become. -/
def put (m : Memory) (i : Nat) (h : Held) : Memory :=
  ⟨h.lists, m.places.setIfInBounds i h.member⟩

/-- Adds a snapshot as a member, with new lists for its stacks and its input. -/
def add (m : Memory) (s : Snapshot) : Memory where
  lists := m.lists ++ (s.config.channels ++ [s.config.input]).toArray
  places := m.places.push (.ofSnapshot m.lists.size s)

/-- A memory with the snapshots of a family as its members. -/
def ofFamily (f : Family) : Memory := f.foldl add {}

/-- Adds a copy of member `i`. -/
def clone (m : Memory) (i : Nat) : Memory :=
  match m.held? i with
  | some h => m.add h.snapshot
  | none => m

/-- Steps member `i`, and tells the channel that was missing if an operation failed on the way. -/
def apply (m : Memory) (i : Nat) (e : Entry) : Memory × Option Int :=
  match m.held? i with
  | none => (m, none)
  | some h =>
    match h.apply e with
    | .ok k => (m.put i k, none)
    | .error fault => (m.put i fault.reached, some fault.channel)

/-- Marks member `i` as stuck. -/
def halt (m : Memory) (i : Nat) : Memory :=
  match m.held? i with
  | some h => m.put i { h with member := { h.member with halted := true } }
  | none => m

/-- Member `i` as the snapshot that it is at the time. -/
def shot (m : Memory) (i : Nat) : Snapshot :=
  ((m.held? i).map Held.snapshot).getD { config := ⟨"", [], []⟩ }

/-- The members as snapshots. -/
def family (m : Memory) : Family := m.members.map fun x => Held.snapshot ⟨m.lists, x⟩

end Memory

end ArrowMachine
