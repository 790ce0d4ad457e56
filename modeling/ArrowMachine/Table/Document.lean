import ArrowMachine.Table.Compiled

/-!
The document form of a compiled machine.

A document is plain nested data, fit to be stored. `Compiled.toDocument` writes all of a machine but the
source positions, and `Compiled.ofDocument` reads it back. Reading takes two steps: the parts are looked up,
which fails at the first one that is missing or does not hold together, and then each of them is read as
what it has to be.
-/
namespace ArrowMachine

inductive Document where
  | null
  | bool (b : Bool)
  | int (n : Int)
  | text (s : String)
  | list (items : List Document)
  | record (fields : List (String × Document))

namespace Document

/-- What a document is made of at its top. -/
inductive Kind where
  | null | bool | int | text | list | record
  deriving DecidableEq, Repr

/-- What can be looked up: a document that is neither a list nor a record. -/
inductive Key where
  | null
  | bool (b : Bool)
  | int (n : Int)
  | text (s : String)
  deriving DecidableEq, Repr

def Kind.name : Kind → String
  | null => "null"
  | bool => "truth value"
  | int => "number"
  | text => "text"
  | list => "list"
  | record => "record"

def Key.shown : Key → String
  | null => "null"
  | bool b => toString b
  | int n => toString n
  | text s => Text.quoted s

end Document

/-- Why a document is no machine. -/
inductive LoadError where
  | missingKey (key : String)
  | unknownOp (name : Document.Key)
  /-- Something that is no list stands where one belongs. -/
  | noList (found : Document.Kind)
  /-- Something that is no list stands where an operation belongs. -/
  | noOp (found : Document.Kind)
  /-- A list or a record stands where a name belongs. -/
  | noKey (found : Document.Kind)
  /-- There is nothing in an operation. -/
  | emptyOp (found : Document.Kind)
  /-- An operation has more or fewer operands than belong to it. -/
  | operands (op : String) (count : Nat)
  /-- A part is not of the kind that belongs there. -/
  | wrongKind
  deriving DecidableEq, Repr

def LoadError.message : LoadError → String
  | missingKey key => Text.quoted key
  | unknownOp name => name.shown
  | noList found => "a list is wanted, not a " ++ found.name
  | noOp found => "an operation is wanted, not a " ++ found.name
  | noKey found => "a name is wanted, not a " ++ found.name
  | emptyOp _ => "an operation has no name"
  | operands op count => "wrong number of operands for " ++ op ++ ": " ++ toString count
  | wrongKind => "unexpected kind of value"

namespace Document

/-- The record of the given fields. A key that is given again keeps its first place and takes the last
value. -/
def ofFields (fields : List (String × Document)) : Document :=
  .record <| (fields.map (·.1)).eraseDups.map fun key =>
    (key, (fields.reverse.lookup key).getD .null)

def kind : Document → Kind
  | null => .null
  | bool _ => .bool
  | int _ => .int
  | text _ => .text
  | list _ => .list
  | record _ => .record

def texts (ss : List String) : Document := .list (ss.map .text)

def textOrNull : Option String → Document
  | some s => .text s
  | none => .null

/-! ## Looking up parts -/

def fields : Document → Except LoadError (List (String × Document))
  | record fs => .ok fs
  | d => .error (.noList d.kind)

/-- The value under a key of a record. -/
def field (d : Document) (key : String) : Except LoadError Document := do
  match (← d.fields).lookup key with
  | some v => return v
  | none => throw (.missingKey key)

/-- The members of a list. A text stands for the list of its characters, and a record for that of its
keys. -/
def items : Document → Except LoadError (List Document)
  | list ds => .ok ds
  | text s => .ok (s.toList.map fun c => text c.toString)
  | record fs => .ok (fs.map fun f => text f.1)
  | d => .error (.noList d.kind)

def key : Document → Except LoadError Key
  | null => .ok .null
  | bool b => .ok (.bool b)
  | int n => .ok (.int n)
  | text s => .ok (.text s)
  | d => .error (.noKey d.kind)

/-- The members of a list of things that can be looked up. -/
def keys (d : Document) : Except LoadError (List Key) := do (← d.items).mapM key

/-! ## Reading them -/

def asText : Document → Except LoadError String
  | text s => .ok s
  | _ => .error .wrongKind

def asInt : Document → Except LoadError Int
  | int n => .ok n
  | _ => .error .wrongKind

def asTextOrNull : Document → Except LoadError (Option String)
  | text s => .ok (some s)
  | null => .ok none
  | _ => .error .wrongKind

def Key.asText : Key → Except LoadError String
  | text s => .ok s
  | _ => .error .wrongKind

end Document

/-! ## Operations -/

namespace Op

def toDocument : Op → Document
  | consume => .list [.text "consume"]
  | pop channel => .list [.text "pop", .int channel]
  | push channel value => .list [.text "push", .int channel, .text value]
  | set state => .list [.text "set", .text state]

/-- The names of the operations, with their numbers of operands. -/
def arities : List (String × Nat) := [("consume", 0), ("pop", 1), ("push", 2), ("set", 1)]

/-- The name of an operation and its operands, as many as belong to it. -/
structure Parts where
  name : String
  operands : List Document

/-- The parts of an operation that begins with `head`. -/
def Parts.ofList (head : Document) (operands : List Document) : Except LoadError Parts := do
  let name ← head.key
  match name with
  | .text op =>
    match arities.lookup op with
    | none => throw (.unknownOp name)
    | some arity =>
      if operands.length = arity then return ⟨op, operands⟩
      else throw (.operands op operands.length)
  | _ => throw (.unknownOp name)

def Parts.ofDocument (d : Document) : Except LoadError Parts := do
  match d with
  | .list _ | .text _ =>
    match ← d.items with
    | [] => throw (.emptyOp d.kind)
    | head :: operands => Parts.ofList head operands
  | _ => throw (.noOp d.kind)

def Parts.read (p : Parts) : Except LoadError Op :=
  match p.name, p.operands with
  | "consume", [] => .ok .consume
  | "pop", [.int channel] => .ok (.pop channel)
  | "push", [.int channel, .text value] => .ok (.push channel value)
  | "set", [.text state] => .ok (.set state)
  | _, _ => .error .wrongKind

/-- Reads a list of operations. -/
def listOfDocument (d : Document) : Except LoadError (List Op) := do
  (← (← d.items).mapM Parts.ofDocument).mapM Parts.read

end Op

/-! ## Entries -/

namespace Entry

def toDocument (e : Entry) : Document := .record [
  ("label", .text e.label),
  ("input", .text e.filter.input),
  ("reads", .list (e.filter.reads.map Document.textOrNull)),
  ("target", .text e.action.target),
  ("ops", .list (e.action.ops.map Op.toDocument))]

structure Parts where
  label : Document
  input : Document
  reads : List Document
  target : Document
  ops : List Op.Parts

def Parts.ofDocument (d : Document) : Except LoadError Parts := do
  let label ← d.field "label"
  let input ← d.field "input"
  let reads ← (← d.field "reads").items
  let target ← d.field "target"
  let ops ← (← (← d.field "ops").items).mapM Op.Parts.ofDocument
  return ⟨label, input, reads, target, ops⟩

def Parts.read (p : Parts) : Except LoadError Entry := do
  let filter : Filter := ⟨← p.input.asText, ← p.reads.mapM Document.asTextOrNull⟩
  return ⟨← p.label.asText, filter, ⟨← p.target.asText, ← p.ops.mapM Op.Parts.read⟩, none⟩

end Entry

/-! ## Machines -/

namespace Compiled

def toDocument (m : Compiled) : Document := .record [
  ("initial", .text m.initial),
  ("accept_states", .texts m.accepting),
  ("stack_count", .int m.stackCount),
  ("states", .texts m.states),
  ("labels", .texts m.labels),
  ("transitions", .record (m.transitions.map fun (state, entries) =>
    (state, .list (entries.map Entry.toDocument))))]

structure Parts where
  initial : Document
  transitions : List (String × List Entry.Parts)
  accepting : List Document.Key
  stackCount : Document
  states : List Document
  labels : List Document

def Parts.ofDocument (d : Document) : Except LoadError Parts := do
  let transitions ← (← (← d.field "transitions").fields).mapM fun (state, v) => do
    return (state, ← (← v.items).mapM Entry.Parts.ofDocument)
  let initial ← d.field "initial"
  let accepting ← d.field "accept_states"
  let stackCount ← d.field "stack_count"
  let states ← d.field "states"
  let labels ← d.field "labels"
  return ⟨initial, transitions, ← accepting.keys, stackCount, ← states.items, ← labels.items⟩

def Parts.read (p : Parts) : Except LoadError Compiled := do
  let transitions ← p.transitions.mapM fun (state, entries) => do
    return (state, ← entries.mapM Entry.Parts.read)
  return {
    initial := ← p.initial.asText
    transitions
    accepting := nameSet (← p.accepting.mapM Document.Key.asText)
    stackCount := ← p.stackCount.asInt
    states := ← p.states.mapM Document.asText
    labels := ← p.labels.mapM Document.asText }

def ofDocument (d : Document) : Except LoadError Compiled := do (← Parts.ofDocument d).read

end Compiled

end ArrowMachine
