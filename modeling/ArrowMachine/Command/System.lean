import ArrowMachine.Capacity
import ArrowMachine.Command.Graph
import ArrowMachine.Rule.Outline

/-!
What a run needs of the system around it: files to read and to write, and what draws pictures, where that is
installed.

The effects are those of a monad `m`, so that a run can be played as well as carried out.
-/
namespace ArrowMachine.Command

/-- Why a file is not read or not written. -/
inductive FileFault where
  /-- The system refuses, with these words. -/
  | refused (words : String)
  /-- Anything else: a path that is none, or a file that holds no text. -/
  | unfit (words : String)

def FileFault.words : FileFault → String
  | refused words | unfit words => words

/-- What draws pictures. A picture that cannot be drawn is an error, with its words. -/
structure Plotter (m : Type → Type) where
  /-- A text as it is written for a label. -/
  escape : String → String
  /-- Draws the parts of a program into the file at a path. -/
  drawOutline : Rule.Outline → String → m (Except String Unit)
  /-- Draws a graph into files that are named by a path and a format. -/
  drawGraph : Graph → String → String → m (Except String Unit)

structure System (m : Type → Type) where
  capacity : Capacity
  /-- The text of the file at a path. -/
  read : String → m (Except FileFault String)
  /-- Makes a text the whole text of the file at a path. -/
  write : String → String → m (Except FileFault Unit)
  plotter? : Option (Plotter m)

end ArrowMachine.Command
