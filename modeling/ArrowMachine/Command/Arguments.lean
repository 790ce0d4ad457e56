import ArrowMachine.Command.FileName
import ArrowMachine.Script.Name
import ArrowMachine.Settings
import ArrowMachine.Text.Case
import ArrowMachine.Text.Integer

/-!
Reading the arguments of the command line.

An argument without a hyphen is the input file. `-x` has its value right behind the letter, `--word`
takes the next argument as its value, whatever that looks like, and a few words take none. Settings
count as they are at their last mention.
-/
namespace ArrowMachine.Command

/-- What may be dumped on the way. -/
inductive Dump where
  | parse | table | traceback
  deriving DecidableEq, Repr

namespace Dump

def all : List Dump := [parse, table, traceback]

def name : Dump → String
  | parse => "parse"
  | table => "table"
  | traceback => "traceback"

def ofName? (name : String) : Option Dump := all.find? (·.name = name)

end Dump

/-- Why the arguments make no sense. -/
inductive ArgumentError where
  | inputTwice
  | invalidArgument (argument : String)
  | missingValue (argument : String)
  | dottedOutput
  | unknownFlag (name : String)
  | unknownDump (name : String)
  | unknownOption (name : String)
  | invalidValue (option : String)
  | noInput
  /-- A flag is assigned more than one value at once. -/
  | manyValues
  deriving DecidableEq, Repr

def ArgumentError.message : ArgumentError → String
  | inputTwice => "Program filename specified multiple times"
  | invalidArgument a => "Invalid argument " ++ a
  | missingValue a => "Missing value for argument " ++ a
  | dottedOutput => "Program output should not contain an extension"
  | unknownFlag n => "Unknown flag " ++ n
  | unknownDump n => "Unknown dump type " ++ n
  | unknownOption n => "Unknown option " ++ n
  | invalidValue o => "Invalid value for option " ++ o
  | noInput => "No input file provided!"
  | manyValues => "too many values to unpack (expected 2)"

/-- An argument with the value that belongs to it. -/
inductive Group where
  | input (path : String)
  | option (name : String) (value : String)
  deriving DecidableEq, Repr

/-- The words that take no value. -/
def bareWords : List String := ["help", "dry-run", "version", "help-all"]

/-- The group of an argument `a` that is two hyphens and a word, and the arguments behind it. -/
def wordGroup (a word : String) (rest : List String) :
    Except ArgumentError (Group × List String) :=
  if word ∈ bareWords then .ok (.option word "", rest)
  else match rest with
    | [] => .error (.missingValue a)
    | value :: rest => .ok (.option word value, rest)

/-- The first group of the arguments, and the arguments behind it. Empty arguments are dropped. -/
def nextGroup? : List String → Except ArgumentError (Option (Group × List String))
  | [] => .ok none
  | a :: rest =>
    match a.toList with
    | [] => nextGroup? rest
    | ['-'] => .error (.invalidArgument a)
    | '-' :: '-' :: word => (wordGroup a (String.ofList word) rest).map some
    | '-' :: letter :: value => .ok (some (.option letter.toString (String.ofList value), rest))
    | _ => .ok (some (.input a, rest))

theorem length_of_wordGroup {a word : String} {as : List String} {g : Group × List String}
    (h : wordGroup a word as = .ok g) : g.2.length ≤ as.length := by
  unfold wordGroup at h
  split at h
  · cases h; exact Nat.le_refl _
  · split at h
    · cases h
    · cases h; exact Nat.le_succ _

theorem length_of_nextGroup? {as rest : List String} {g : Group}
    (h : nextGroup? as = .ok (some (g, rest))) : rest.length < as.length := by
  induction as with
  | nil => cases h
  | cons a as ih =>
    rw [nextGroup?] at h
    split at h
    · exact Nat.lt_succ_of_lt (ih h)
    · cases h
    · cases hw : wordGroup a (String.ofList _) as with
      | error e => rw [hw] at h; cases h
      | ok g' => rw [hw] at h; cases h; exact Nat.lt_succ_of_le (length_of_wordGroup hw)
    · cases h; exact Nat.lt_succ_self _
    · cases h; exact Nat.lt_succ_self _

/-- The arguments in force so far. -/
structure Reading where
  input : Option String := none
  output : Option String := none
  /-- The flags mentioned, in order. -/
  flags : List (Switch × Bool) := []
  settings : Settings := {}
  dumps : List Dump := []
  dumpPrefix : Option String := none
  dryRun : Bool := false

/-- What a group comes to. -/
inductive Effect where
  | go (r : Reading)
  | help (all : Bool)
  | version

/-- The name of a setting, whatever its case and hyphens. -/
def settingName (cs : List Char) : String :=
  String.ofList ((cs.flatMap Text.capitals).map fun c => if c = '-' then '_' else c)

/-- Cuts a text at every occurrence of a character. -/
def cutAt (c : Char) : List Char → List (List Char)
  | [] => [[]]
  | d :: ds =>
    if d = c then [] :: cutAt c ds
    else match cutAt c ds with
      | [] => [[d]]
      | l :: ls => (d :: l) :: ls

/-- The flag that a value names, as it is spelled there, and whether it is turned on. -/
def flagMention (short : Bool) (value : List Char) : Except ArgumentError (List Char × Bool) :=
  if short then
    match value with
    | 'n' :: 'o' :: '-' :: name => .ok (name, false)
    | name => .ok (name, true)
  else
    match cutAt '=' value with
    | [name, setting] => .ok (name, setting = "yes".toList || setting = "on".toList)
    | [name] => .ok (name, true)
    | _ => .error .manyValues

namespace Reading

/-- The name that an input file gives to the program. -/
def outputOf (path : String) : String :=
  Script.sanitize (String.ofList (stem (baseName path.toList)))

def setFlag (r : Reading) (short : Bool) (value : List Char) : Except ArgumentError Reading := do
  let (name, on) ← flagMention short value
  match Switch.ofName? (settingName name) with
  | some switch => return { r with flags := r.flags ++ [(switch, on)] }
  | none => throw (.unknownFlag (String.ofList name))

def addDumps (r : Reading) : List (List Char) → Except ArgumentError Reading
  | [] => .ok r
  | name :: names =>
    match Dump.ofName? (String.ofList name) with
    | some d => addDumps { r with dumps := r.dumps ++ [d] } names
    | none => .error (.unknownDump (String.ofList name))

def setOption (r : Reading) (name value : String) : Except ArgumentError Reading :=
  match Setting.ofName? (settingName name.toList) with
  | none => .error (.unknownOption name)
  | some setting =>
    let converted := match r.settings.value setting with
      | .int _ => (Text.integer? value).map Value.int
      | .text _ => some (.text value)
    match converted.bind (r.settings.set? setting) with
    | some settings => .ok { r with settings }
    | none => .error (.invalidValue name)

/-- Takes one group into account. -/
def take (r : Reading) : Group → Except ArgumentError Effect
  | .input path =>
    if r.input.isSome then .error .inputTwice
    else .ok (.go { r with input := some path, output := some (outputOf path) })
  | .option name value =>
    if name ∈ ["o", "output"] then
      if value.toList.contains '.' then .error .dottedOutput
      else .ok (.go { r with output := some value })
    else if name ∈ ["f", "flag"] then (r.setFlag (name = "f") value.toList).map .go
    else if name ∈ ["h", "help"] then .ok (.help false)
    else if name = "help-all" then .ok (.help true)
    else if name = "version" then .ok .version
    else if name ∈ ["d", "dump"] then (r.addDumps (cutAt ',' value.toList)).map .go
    else if name = "dump-prefix" then .ok (.go { r with dumpPrefix := some value })
    else if name ∈ ["t", "dry-run"] then .ok (.go { r with dryRun := true })
    else (r.setOption name value).map .go

end Reading

/-- What a run is asked for. -/
structure Request where
  input : String
  output : String
  settings : Settings
  dumps : List Dump
  dumpPrefix : String
  dryRun : Bool

/-- What the arguments ask for. -/
inductive Demand where
  | compile (r : Request)
  | help (all : Bool)
  | version

/-- The request of arguments that have been read to their end. -/
def Reading.request (r : Reading) : Except ArgumentError Request :=
  match r.input with
  | none => .error .noInput
  | some input =>
    let output := r.output.getD ""
    .ok {
      input
      output
      settings := r.flags.foldl (fun s f => s.turn f.1 f.2) r.settings
      dumps := r.dumps
      dumpPrefix := r.dumpPrefix.getD output
      dryRun := r.dryRun }

/-- Reads arguments behind those in `r`. -/
def readFrom (r : Reading) (as : List String) : Except ArgumentError Demand :=
  match _h : nextGroup? as with
  | .error e => .error e
  | .ok none => r.request.map .compile
  | .ok (some (g, rest)) =>
    match r.take g with
    | .error e => .error e
    | .ok (.help all) => .ok (.help all)
    | .ok .version => .ok .version
    | .ok (.go r) => readFrom r rest
termination_by as.length
decreasing_by exact length_of_nextGroup? _h

/-- Reads the arguments of the command line. -/
def demand (arguments : List String) : Except ArgumentError Demand := readFrom {} arguments

/-- What is in force since arguments were read last. -/
structure Loaded where
  settings : Settings := {}
  dumps : List Dump := []
  dumpPrefix : Option String := none
  dryRun : Bool := false

/-- Everything as it is where nothing has been read. -/
def Loaded.reset (l : Loaded) : Loaded :=
  { l with settings := {}, dumps := [], dumpPrefix := none, dryRun := false }

/-- Reads arguments where others may have been read before, all of whose settings are set back first. -/
def load (before : Loaded) (arguments : List String) : Except ArgumentError Demand :=
  let l := before.reset
  readFrom
    { settings := l.settings, dumps := l.dumps, dumpPrefix := l.dumpPrefix, dryRun := l.dryRun }
    arguments

end ArrowMachine.Command
