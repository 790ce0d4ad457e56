import ArrowMachine.Table.Configuration
import ArrowMachine.Table.Filter

/-!
What a transition does, as a list of small operations.

`Action.build` lowers a transition in the order consume, pop, push, set. An operation on a channel that
does not exist fails; what was done before it stays done, so a failed run still has a configuration.
-/
namespace ArrowMachine

/-- What a transition does to one stack channel: a symbol to find on top and pop, and one to push. -/
structure ChannelOp where
  read : Option String := none
  write : Option String := none
  deriving DecidableEq, Repr

inductive Op where
  | consume
  | pop (channel : Int)
  | push (channel : Int) (value : String)
  | set (state : String)
  deriving DecidableEq, Repr

structure Action where
  target : String
  ops : List Op
  deriving DecidableEq, Repr

/-- An operation addressed a channel that does not exist. `reached` is what stood before it. -/
structure NoChannel (α : Type) where
  channel : Int
  reached : α
  deriving DecidableEq, Repr

/-- The channel meant by a number, of `count` channels; a negative one counts from the last. -/
def channelIndex? (count : Nat) (channel : Int) : Option Nat :=
  let i := if channel < 0 then channel + count else channel
  if 0 ≤ i ∧ i < count then some i.toNat else none

namespace Op

/-- The configuration behind an operation, if its channel exists. Consuming from an empty input and
popping an empty stack do nothing. -/
def apply (op : Op) (c : Configuration) : Option Configuration :=
  match op with
  | consume => some { c with input := c.input.tail }
  | pop channel =>
    (channelIndex? c.channels.length channel).map fun i =>
      { c with channels := c.channels.modify i List.tail }
  | push channel value =>
    (channelIndex? c.channels.length channel).map fun i =>
      { c with channels := c.channels.modify i (value :: ·) }
  | set state => some { c with state }

def channel? : Op → Option Int
  | pop channel | push channel _ => some channel
  | consume | set _ => none

/-- The operation as it is shown. -/
def shown : Op → String
  | consume => "ConsumeInput()"
  | pop channel => "PopStack(channel=" ++ toString channel ++ ")"
  | push channel value =>
    "PushStack(channel=" ++ toString channel ++ ", value=" ++ Text.quoted value ++ ")"
  | set state => "SetState(state=" ++ Text.quoted state ++ ")"

/-- Applies operations in turn, up to the first that fails. -/
def applyAll : List Op → Configuration → Except (NoChannel Configuration) Configuration
  | [], c => .ok c
  | op :: ops, c =>
    match op.apply c with
    | some d => applyAll ops d
    | none => .error ⟨op.channel?.getD 0, c⟩

end Op

/-- A symbol that an operation is needed for: one that is there and is not epsilon. -/
def concrete (s : Option String) : Option String := Filter.normalRead s

namespace Action

/-- The pops of a list of channels, the first of them being number `i`. -/
def pops : List ChannelOp → (i : Nat) → List Op
  | [], _ => []
  | c :: cs, i => (if (concrete c.read).isSome then [.pop i] else []) ++ pops cs (i + 1)

/-- The pushes of a list of channels, the first of them being number `i`. -/
def pushes : List ChannelOp → (i : Nat) → List Op
  | [], _ => []
  | c :: cs, i => ((concrete c.write).map (Op.push i)).toList ++ pushes cs (i + 1)

/-- Lowers a transition to `target` on `input`. -/
def build (target input : String) (channels : List ChannelOp) : Action where
  target := target
  ops :=
    (if input = epsilon then [] else [.consume]) ++ pops channels 0 ++ pushes channels 0 ++
      [.set target]

/-- Applies an action, with or without taking input. -/
def apply (a : Action) (consuming : Bool) (c : Configuration) :
    Except (NoChannel Configuration) Configuration :=
  Op.applyAll (if consuming then a.ops else a.ops.filter (· ≠ .consume)) c

/-- How many channels the action needs. -/
def channelsUsed (a : Action) : Int :=
  match a.ops.filterMap Op.channel? with
  | [] => 0
  | c :: cs => cs.foldl (fun m d => max m (d + 1)) (c + 1)

def shown (a : Action) : String :=
  "<TransitionAction to=" ++ a.target ++ " ops=" ++ Text.bracketed (a.ops.map Op.shown) ++ ">"

end Action

end ArrowMachine
