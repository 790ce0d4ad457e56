import ArrowMachine.Command.Arguments
import ArrowMachine.Text.Blank
import ArrowMachine.Text.Quoted

/-!
What the command line says about itself.

The rows of a section are aligned: the descriptions begin two columns behind the longest usage.
-/
namespace ArrowMachine.Command

/-- The spelling of a setting on the command line. -/
def spelling (name : String) : String :=
  String.ofList (name.toList.map fun c => if c = '_' then '-' else c.toLower)

/-- Whether a setting is shown only on demand. -/
def isHidden (name : String) : Bool :=
  "VERBOSE".toList.isPrefixOf name.toList || "DEBUG".toList.isPrefixOf name.toList

structure Row where
  usage : String
  description : String

def generalRows : List Row := [
  ⟨"-o<arg>, --output <arg>", "Output name without extension"⟩,
  ⟨"-f<flag>, -fno-<flag>, --flag <flag>=<arg>", "Enable or disable a flag"⟩,
  ⟨"-d<arg>,<arg>, --dump <arg>,<arg>",
    "Dump tables or the parse tree, one of: " ++ ", ".intercalate (Dump.all.map Dump.name)⟩,
  ⟨"--dump-prefix <arg>", "Prefix for dumped files (default is program name)"⟩,
  ⟨"-t, --dry-run", "Only compile the rules, don't generate code"⟩,
  ⟨"-h, --help, --help-all", "Show this help screen; --help-all includes debug options"⟩,
  ⟨"--version", "Show the version of nfsm"⟩]

def valueText : Value → String
  | .int n => toString n
  | .text s => Text.quoted s

def optionRows (showAll : Bool) : List Row :=
  (Setting.all.filter fun s => showAll || !isHidden s.name).map fun s =>
    ⟨"--" ++ spelling s.name ++ " <arg>",
      s.help ++ " (default: " ++ valueText (({} : Settings).value s) ++ ")"⟩

def flagRows (showAll : Bool) : List Row :=
  (Switch.all.filter fun s => showAll || !isHidden s.name).map fun s =>
    ⟨spelling s.name,
      if s.help.isEmpty then ""
      else s.help ++ " (default: " ++ (if s.default then "True" else "False") ++ ")"⟩

/-- A row with its description from the given column on. -/
def Row.line (width : Nat) (r : Row) : String :=
  let usage := r.usage.toList ++ List.replicate (width - r.usage.length) ' '
  let cs := "  ".toList ++ usage ++ r.description.toList
  String.ofList (cs.reverse.dropWhile Text.isBlank).reverse

def sectionLines (title : String) (rows : List Row) : List String :=
  let width := (rows.map (·.usage.length)).foldl max 0 + 2
  ["", title ++ ":"] ++ rows.map (Row.line width)

def helpLines (showAll : Bool) : List String :=
  "Usage: nfsm [options] input" ::
    (sectionLines "Global Options" generalRows ++
      sectionLines "Engine and Generation Options" (optionRows showAll) ++
      sectionLines "Flags" (flagRows showAll))

def versionLines : List String := [
  "nfsm 0.1.0",
  "Copyright (C) 2023 the nfsm authors",
  "This is free software; see the source for copying conditions.  There is NO",
  "warranty; not even for MERCHANTABILITY or FITNESS FOR A PARTICULAR PURPOSE."]

end ArrowMachine.Command
