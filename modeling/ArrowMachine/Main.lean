import ArrowMachine.Command.Run

/-!
The command: reads the input file, prints, and writes the script.
-/
namespace ArrowMachine.Command

def FileFault.ofSystem (e : IO.Error) : FileFault := .refused e.toString

/-- The files of the computer, without anything to draw with. -/
def System.native : System IO where
  capacity := .ample
  read path := do
    if path.contains '\x00' then return .error (.unfit "embedded null byte")
    match ← (IO.FS.readBinFile path).toBaseIO with
    | .error e => return .error (.ofSystem e)
    | .ok bytes =>
      match String.fromUTF8? bytes with
      | some text => return .ok text
      | none => return .error (.unfit "the file holds no text")
  write path text := do
    if path.contains '\x00' then return .error (.unfit "embedded null byte")
    return (← (IO.FS.writeFile path text).toBaseIO).mapError .ofSystem
  plotter? := none

/-- Prints what a run comes to, and gives its exit code. -/
def Outcome.conclude (outcome : Outcome) : IO UInt32 := do
  for line in outcome.printed do IO.println line
  for line in outcome.reported do IO.eprintln line
  match outcome.ending with
  | .returned => return 0
  | .exited code => return code.toUInt32
  | .escaped e =>
    IO.eprintln e.message
    return 1

end ArrowMachine.Command

open ArrowMachine.Command in
def main (arguments : List String) : IO UInt32 := do
  (← runIn System.native arguments).conclude
