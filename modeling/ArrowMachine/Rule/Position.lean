/-!
Places in a source text.

A `Position` counts lines by line feeds and columns in characters, both from one.
-/
namespace ArrowMachine

structure Position where
  line : Nat
  column : Nat
  deriving DecidableEq, Repr

namespace Position

/-- Where a text begins. -/
def start : Position := ⟨1, 1⟩

/-- The place behind a character. -/
def next (p : Position) (c : Char) : Position :=
  if c = '\n' then ⟨p.line + 1, 1⟩ else ⟨p.line, p.column + 1⟩

/-- The place behind a text. -/
def advance (p : Position) (cs : List Char) : Position := cs.foldl next p

theorem advance_nil (p : Position) : p.advance [] = p := rfl

theorem advance_append (p : Position) (as bs : List Char) :
    p.advance (as ++ bs) = (p.advance as).advance bs := by
  simp [advance, List.foldl_append]

end Position

end ArrowMachine
