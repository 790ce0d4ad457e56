import ArrowMachine.Text.Blank
import ArrowMachine.Text.Line

/-!
Indented text, written piece by piece.

A page is a list of pieces: a row of words, a ready text, or a block of further pieces four columns
deeper. A row is indented even when it is empty; in a ready text each line is indented that holds
anything but white space. The indent may be negative, which leaves no margin until blocks have made up
for it.
-/
namespace ArrowMachine.Text

namespace Page

inductive Piece where
  | row (words : List String)
  | text (s : String)
  | block (pieces : List Piece)

/-- How much deeper a block stands. -/
def blockWidth : Nat := 4

def margin (indent : Int) : List Char := List.replicate indent.toNat ' '

/-- A text with its lines moved right, blank lines apart. -/
def indented (indent : Int) (cs : List Char) : List Char :=
  (keptLines cs).flatMap fun l => if l.all isBlank then l else margin indent ++ l

def row (indent : Int) (words : List String) : List Char :=
  margin indent ++ (" ".intercalate words).toList ++ ['\n']

mutual

def Piece.write (indent : Int) : Piece → List Char
  | .row words => Page.row indent words
  | .text s => indented indent s.toList
  | .block pieces => writeAll (indent + blockWidth) pieces

def writeAll (indent : Int) : List Piece → List Char
  | [] => []
  | s :: ss => s.write indent ++ writeAll indent ss

end

/-- What the pieces write, from the given indent on. -/
def render (pieces : List Piece) (indent : Int) : String := String.ofList (writeAll indent pieces)

end Page

end ArrowMachine.Text
