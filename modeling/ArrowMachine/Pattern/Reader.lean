import ArrowMachine.Pattern.Failure
import ArrowMachine.Pattern.Syntax

/-!
Reading a pattern piece by piece.

A piece is one character, or a backslash with the character behind it. The reader always holds the
next piece, so a backslash that ends the pattern is noticed as soon as the piece before it is taken.
`Progress` adds what has been learnt about the groups so far.
-/
namespace ArrowMachine.Pattern

/-- One character, or a backslash with the character behind it. -/
abbrev Piece := List Char

structure Reader where
  /-- The place of the next piece. -/
  place : Nat
  next : Option Piece
  rest : List Char
  deriving Repr

/-- What has been read: the reader, the global switches and the groups. -/
structure Progress where
  reader : Reader
  flags : Flags := []
  /-- The groups opened so far, with their widths once they are closed. -/
  groups : List (Option Width) := []
  names : List (String × Nat) := []
  /-- Within a look-behind, how many groups had been opened before it. -/
  behind : Option Nat := none
  /-- The groups that conditions ask for, each with the place of the first such question. -/
  asked : List (Nat × Nat) := []

abbrev Parse := StateT Progress (Except Failure)

namespace Reader

/-- The reader on the piece that begins at `place`. -/
def onto (place : Nat) : List Char → Except Failure Reader
  | [] => .ok ⟨place, none, []⟩
  | ['\\'] => .error (.invalid .trailingBackslash (some place))
  | '\\' :: c :: cs => .ok ⟨place, some ['\\', c], cs⟩
  | c :: cs => .ok ⟨place, some [c], cs⟩

def advance (r : Reader) : Except Failure Reader :=
  match r.next with
  | none => .ok r
  | some p => onto (r.place + p.length) r.rest

end Reader

namespace Parse

def reader : Parse Reader := return (← get).reader

def setReader (r : Reader) : Parse Unit := modify fun s => { s with reader := r }

def peek : Parse (Option Piece) := return (← reader).next

def place : Parse Nat := return (← reader).place

/-- Takes the next piece. -/
def take : Parse (Option Piece) := do
  let r ← reader
  setReader (← r.advance)
  return r.next

/-- Takes the next piece if it is the character `c`. -/
def accept (c : Char) : Parse Bool := do
  if (← peek) = some [c] then
    let _ ← take
    return true
  else return false

/-- Fails `back` characters before the next piece. -/
def fail {α : Type} (problem : Problem) (back : Nat) : Parse α := do
  throw (.invalid problem (some ((← place) - back)))

/-- Fails at a known place. -/
def failAt {α : Type} (problem : Problem) (place : Nat) : Parse α :=
  throw (.invalid problem (some place))

/-- Takes at most `n` pieces that are single characters of a class. -/
def takeWhile (ok : Char → Bool) : Nat → Parse (List Char)
  | 0 => return []
  | n + 1 => do
    match ← peek with
    | some [c] =>
      if ok c then
        let _ ← take
        return c :: (← takeWhile ok n)
      else return []
    | _ => return []

/-- Takes everything up to a terminator and the terminator itself. -/
def takeUntil (terminator : Char) (what : String) : Nat → List Char → Parse (List Char)
  | 0, _ => throw .outOfCalls
  | n + 1, taken => do
    match ← take with
    | none =>
      if taken.isEmpty then fail (.missing what) 0
      else fail (.unterminatedName terminator) taken.length
    | some p =>
      if p = [terminator] then
        if taken.isEmpty then fail (.missing what) 1 else return taken
      else takeUntil terminator what n (taken ++ p)

/-- What is left to read, as a bound on the number of pieces to come. -/
def left : Parse Nat := return (← reader).rest.length + 2

def name (terminator : Char) (what : String) : Parse (List Char) := do
  takeUntil terminator what (← left) []

def groupCount : Parse Nat := return (← get).groups.length + 1

/-- Opens the next group, which may be named. -/
def openGroup (name? : Option (List Char)) : Parse Nat := do
  let s ← get
  let number := s.groups.length + 1
  match name? with
  | none => set { s with groups := s.groups ++ [none] }
  | some cs =>
    let n := String.ofList cs
    match s.names.lookup n with
    | some old => fail (.repeatedGroupName n number old) (cs.length + 1)
    | none => set { s with groups := s.groups ++ [none], names := s.names ++ [(n, number)] }
  return number

def closeGroup (number : Nat) (body : Node) : Parse Unit :=
  modify fun s => { s with groups := s.groups.set (number - 1) (some (body.width s.groups)) }

def isClosed (number : Nat) : Parse Bool := return ((← get).groups[number - 1]?).join.isSome

/-- A look-behind may refer to groups that were closed before it began. -/
def checkBehind (number : Nat) : Parse Unit := do
  match (← get).behind with
  | none => return
  | some opened =>
    if !(← isClosed number) then fail .openGroup 0
    else if opened ≤ number then fail .groupOfSameLookBehind 0
    else return

end Parse

end ArrowMachine.Pattern
