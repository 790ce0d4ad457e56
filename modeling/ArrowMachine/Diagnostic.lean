import ArrowMachine.Rule.Position
import ArrowMachine.Text.Line

/-!
Messages that point into a source text.

A diagnostic has a message, the places it is due to and, once it is attached, the source, cut into
lines. Each place is then shown with its line and a caret under its column; a tab in front of the column
is kept, so that the caret stands right whatever the width of tabs.
-/
namespace ArrowMachine

/-- A place as a message may be given it: either part may be absent, zero or negative. -/
structure Place where
  line : Option Int
  column : Option Int
  deriving DecidableEq, Repr

def Position.place (p : Position) : Place := ⟨some p.line, some p.column⟩

structure Diagnostic where
  message : Option String
  places : List Place
  source : Option (List (List Char)) := none

namespace Diagnostic

/-- The diagnostic with the source text that its places are about. -/
def attach (d : Diagnostic) (text : String) : Diagnostic :=
  { d with source := some (Text.lines text.toList) }

/-- A line of the source, counted from one. -/
def sourceLine? (d : Diagnostic) (line : Option Int) : Option (List Char) :=
  match d.source, line with
  | some lines, some n => if 0 < n then lines[(n - 1).toNat]? else none
  | _, _ => none

/-- The caret under a column: tabs of the line stay, all else in front is blank. -/
def marker (line : List Char) (column : Nat) : List Char :=
  let before := (line.take (column - 1)).map fun c => if c = '\t' then '\t' else ' '
  before ++ List.replicate (column - 1 - before.length) ' ' ++ ['^']

def numberText : Option Int → String
  | some n => toString n
  | none => "None"

/-- One place as it is shown, if it names a line at all. -/
def placeText? (d : Diagnostic) (p : Place) : Option String :=
  match p.line with
  | none => none
  | some n =>
    if n < 1 then none
    else match d.sourceLine? p.line with
      | none => some ("- at line " ++ toString n ++ ", column " ++ numberText p.column)
      | some line =>
        let head := "- line " ++ toString n ++ ":\n" ++ String.ofList line
        match p.column with
        | some c => some (if 0 < c then head ++ "\n" ++ String.ofList (marker line c.toNat) else head)
        | none => some head

/-- The places below a header; nothing, if none of them can be shown. -/
def placesText (d : Diagnostic) (header : String) : String :=
  match d.places.filterMap d.placeText? with
  | [] => ""
  | texts => header ++ "\n".intercalate texts

/-- The message with the places it is due to. -/
def text (d : Diagnostic) : String :=
  let places := d.placesText "Due to:\n"
  match d.message with
  | none => places
  | some m => if m.isEmpty then places else if places.isEmpty then m else m ++ "\n" ++ places

end Diagnostic

end ArrowMachine
