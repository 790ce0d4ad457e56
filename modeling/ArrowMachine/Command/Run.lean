import ArrowMachine.Command.Arguments
import ArrowMachine.Command.Help
import ArrowMachine.Command.System
import ArrowMachine.Compile
import ArrowMachine.Script.Generator

/-!
The command line: from the arguments to what is printed, what is written and how it ends.

A run reads one file. It writes at most one, at its very end; what it shows on the way is printed, or drawn
where the system can draw.
-/
namespace ArrowMachine.Command

/-- An error that ends a run without a report of its own. -/
inductive Escape where
  | arguments (e : ArgumentError)
  /-- The input file is not read. -/
  | unread (fault : FileFault)
  /-- A picture is not drawn. -/
  | undrawn (words : String)
  /-- The program in `source` has an error. -/
  | compile (e : CompileError) (source : String)
  | script (e : Script.ScriptError)
  /-- The script is not written. -/
  | unwritten (fault : FileFault)

/-- How a run ends. -/
inductive Ending where
  | returned
  | exited (code : Nat)
  | escaped (e : Escape)

/-- What a run comes to. -/
structure Outcome where
  /-- The lines on standard output. -/
  printed : List String := []
  /-- The lines on standard error. -/
  reported : List String := []
  ending : Ending
  /-- The file that was written, with its text. -/
  output : Option (String × String) := none

/-- The text with every line end turned into a line feed. -/
def normalizeNewlines : List Char → List Char
  | [] => []
  | '\r' :: '\n' :: cs => '\n' :: normalizeNewlines cs
  | '\r' :: cs => '\n' :: normalizeNewlines cs
  | c :: cs => c :: normalizeNewlines cs

/-- The text of a file as a program. -/
def sourceOf (text : String) : String := String.ofList (normalizeNewlines text.toList)

namespace Request

/-- Where the parts of the program are drawn. -/
def outlinePath (r : Request) : String := r.dumpPrefix ++ ".parse.png"

/-- What the pictures of the table are named by. -/
def graphPath (r : Request) : String := r.dumpPrefix ++ ".table"

/-- The path that a script is written to. -/
def path (r : Request) : String := r.output ++ ".js"

end Request

/-- What is done about an error in a program. -/
def compileOutcome (r : Request) (source : String) (printed : List String) (e : CompileError) :
    Outcome :=
  match e with
  | .refused why =>
    if r.dumps.contains .traceback then { printed, ending := .escaped (.compile e source) }
    else { printed, reported := ["Compile error: " ++ why.textIn source], ending := .exited 4 }
  | .pattern _ | .tooWide _ | .crossedGroup .. => { printed, ending := .escaped (.compile e source) }

/-- What the arguments come to: the end of the run, or a request for which a file has to be read. -/
def begin (arguments : List String) : Outcome ⊕ Request :=
  match demand arguments with
  | .ok (.compile r) => .inr r
  | .ok (.help all) => .inl { printed := helpLines all, ending := .exited 0 }
  | .ok .version => .inl { printed := versionLines, ending := .exited 0 }
  | .error .manyValues => .inl { ending := .escaped (.arguments .manyValues) }
  | .error e =>
    .inl { reported := [e.message, "Try nfsm --help for more information"], ending := .exited 1 }

section Running

variable {m : Type → Type} [Monad m] (sys : System m)

/-- Shows the parts of a program, if asked to: draws them, or gives the lines to print. -/
def showOutline (r : Request) (rules : List Rule.Spelling) : m (Except String (List String)) :=
  if r.dumps.contains .parse then
    match sys.plotter? with
    | some plotter =>
      return (← plotter.drawOutline (Rule.outline rules) r.outlinePath).map fun _ => []
    | none => return .ok (Rule.outlineLines rules ++ [""])
  else return .ok []

/-- Draws a table, if asked to and if there is something to draw with. -/
def drawTable (r : Request) (t : Compiled) : m (Except String Unit) :=
  if r.dumps.contains .table then
    match sys.plotter? with
    | some plotter =>
      plotter.drawGraph (graphOf plotter.escape r.settings t) r.graphPath r.settings.graphFormat
    | none => return .ok ()
  else return .ok ()

/-- Writes the script of a table, unless only asked to compile. -/
def writeScript (r : Request) (printed : List String) (t : Compiled) : m Outcome :=
  if r.dryRun then
    return { printed := printed ++ ["... dry run, skipping code generation"], ending := .exited 0 }
  else
    match Script.generate t r.settings r.output none none with
    | .ok script => do
      match ← sys.write r.path script with
      | .ok _ => return { printed, ending := .returned, output := some (r.path, script) }
      | .error fault => return { printed, ending := .escaped (.unwritten fault) }
    | .error e =>
      if r.dumps.contains .traceback then return { printed, ending := .escaped (.script e) }
      else return { printed, reported := ["Codegen error: " ++ e.message], ending := .exited 5 }

/-- What becomes of a table. -/
def runTable (r : Request) (printed : List String) (t : Compiled) : m Outcome := do
  let printed := printed ++ if r.dumps.contains .table then t.listing else []
  match ← drawTable sys r t with
  | .ok _ => writeScript sys r printed t
  | .error words => return { printed, ending := .escaped (.undrawn words) }

/-- What becomes of the rules of a program. -/
def runRules (r : Request) (source : String) (rules : List Rule.Spelling) : m Outcome := do
  match ← showOutline sys r rules with
  | .error words => return { ending := .escaped (.undrawn words) }
  | .ok printed =>
    match Rule.statements sys.capacity rules with
    | .error e => return compileOutcome r source printed e
    | .ok ss =>
      let report := compileStatements sys.capacity r.settings ss
      match report.result with
      | .error e => return compileOutcome r source (printed ++ report.lines) e
      | .ok t => runTable sys r (printed ++ report.lines) t

/-- What becomes of a program. -/
def runSource (r : Request) (source : String) : m Outcome :=
  match Rule.spellings source with
  | .error fault => return { reported := ["Syntax error: " ++ fault.message], ending := .exited 3 }
  | .ok rules => runRules sys r source rules

/-- A run of the command line. -/
def runIn (arguments : List String) : m Outcome :=
  match begin arguments with
  | .inl outcome => return outcome
  | .inr r => do
    match ← sys.read r.input with
    | .ok text => runSource sys r (sourceOf text)
    | .error (.refused words) =>
      return { reported := ["Unable to read input file: " ++ words], ending := .exited 2 }
    | .error fault => return { ending := .escaped (.unread fault) }

end Running

/-- What an escaped error says. -/
def Escape.message : Escape → String
  | arguments e => e.message
  | unread fault => fault.words
  | undrawn words => words
  | compile (.refused why) source => why.textIn source
  | compile (.pattern failure) _ => failure.message []
  | compile (.tooWide _) _ => "there are too many stack channels"
  | compile (.crossedGroup wildcard state) _ =>
    "a group of " ++ wildcard ++ " ends before it begins in '" ++ state ++ "'"
  | script e => e.message
  | unwritten fault => fault.words

end ArrowMachine.Command
