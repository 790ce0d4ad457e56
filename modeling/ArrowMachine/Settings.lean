/-!
Settings: switches that are on or off, and options with a value.

A setting has one name. On the command line it is written in small letters with hyphens; there case and
the choice between hyphen and underscore do not matter.
-/
namespace ArrowMachine

inductive Switch where
  | verboseMerge | verboseWildcards | verboseSearch | verboseDispatch
  | strictActions | pruneRevisited | useStrictDirective | debugTableShowOps
  deriving DecidableEq, Repr

namespace Switch

/-- All switches, in the order in which they are listed. -/
def all : List Switch :=
  [verboseMerge, verboseWildcards, verboseSearch, verboseDispatch,
    strictActions, pruneRevisited, useStrictDirective, debugTableShowOps]

def name : Switch → String
  | verboseMerge => "VERBOSE_MERGE"
  | verboseWildcards => "VERBOSE_WILDCARDS"
  | verboseSearch => "VERBOSE_SEARCH"
  | verboseDispatch => "VERBOSE_DISPATCH"
  | strictActions => "STRICT_ACTIONS"
  | pruneRevisited => "PRUNE_REVISITED"
  | useStrictDirective => "USE_STRICT_DIRECTIVE"
  | debugTableShowOps => "DEBUG_TABLE_SHOW_OPS"

def ofName? (name : String) : Option Switch := all.find? (·.name = name)

def default : Switch → Bool
  | pruneRevisited | useStrictDirective | debugTableShowOps => true
  | _ => false

/-- What the switch is for; the switches for tracing explain themselves. -/
def help : Switch → String
  | strictActions => "Raise an error when dispatching an action that has no transition"
  | pruneRevisited => "Skip configurations that were already explored during one consume"
  | useStrictDirective => "Start generated code with a 'use strict' directive"
  | debugTableShowOps => "Show stack operations on edges of dumped tables"
  | _ => ""

end Switch

/-- The names of the options. -/
inductive Setting where
  | maxSearchSteps | stackCount | target | globalName | debugGraphDumpFormat
  deriving DecidableEq, Repr

namespace Setting

def all : List Setting := [maxSearchSteps, stackCount, target, globalName, debugGraphDumpFormat]

def name : Setting → String
  | maxSearchSteps => "MAX_SEARCH_STEPS"
  | stackCount => "STACK_COUNT"
  | target => "TARGET"
  | globalName => "GLOBAL_NAME"
  | debugGraphDumpFormat => "DEBUG_GRAPH_DUMP_FORMAT"

def ofName? (name : String) : Option Setting := all.find? (·.name = name)

def help : Setting → String
  | maxSearchSteps => "Maximum number of snapshots expanded per consume, 0 for no limit"
  | stackCount => "Minimum number of stack channels to allocate"
  | target => "Host for generated code: node, esm or browser"
  | globalName => "Name to bind the machine under when targeting the browser"
  | debugGraphDumpFormat => "Output format for graphviz dumpers, use 'dot' to get raw dot file"

end Setting

structure Settings where
  isOn : Switch → Bool := Switch.default
  maxSearchSteps : Int := 5000
  stackCount : Int := 0
  target : String := "node"
  globalName : String := ""
  graphFormat : String := "pdf"

/-- The value of an option. -/
inductive Value where
  | int (n : Int)
  | text (s : String)
  deriving DecidableEq, Repr

namespace Settings

def turn (s : Settings) (switch : Switch) (on : Bool) : Settings :=
  { s with isOn := fun x => if x = switch then on else s.isOn x }

def value (s : Settings) : Setting → Value
  | .maxSearchSteps => .int s.maxSearchSteps
  | .stackCount => .int s.stackCount
  | .target => .text s.target
  | .globalName => .text s.globalName
  | .debugGraphDumpFormat => .text s.graphFormat

/-- The settings with an option set, if the value is of its kind. -/
def set? (s : Settings) : Setting → Value → Option Settings
  | .maxSearchSteps, .int n => some { s with maxSearchSteps := n }
  | .stackCount, .int n => some { s with stackCount := n }
  | .target, .text t => some { s with target := t }
  | .globalName, .text t => some { s with globalName := t }
  | .debugGraphDumpFormat, .text t => some { s with graphFormat := t }
  | _, _ => none

end Settings

end ArrowMachine
