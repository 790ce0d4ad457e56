import ArrowMachine.Script.Engine
import ArrowMachine.Script.Name
import ArrowMachine.Settings
import ArrowMachine.Table.Compiled
import ArrowMachine.Text.Literal
import ArrowMachine.Text.Page

/-!
Scripts: a machine as a program of its own.

The script declares one object, which holds the settings, the table with every action as a function,
and the engine, and hands it to the host. Every text of the machine is written as a literal.
-/
namespace ArrowMachine.Script

open Text (literal literalOrNull)
open Text.Page (Piece render)

/-- Where a script is to run. -/
inductive Host where
  | node | esm | browser
  deriving DecidableEq, Repr

namespace Host

def all : List Host := [node, esm, browser]

def name : Host → String
  | node => "node"
  | esm => "esm"
  | browser => "browser"

def ofName? (name : String) : Option Host := all.find? (·.name = name)

end Host

/-- Why there is no script. -/
inductive ScriptError where
  | unknownHost (target : String)
  | noGlobalName
  deriving DecidableEq, Repr

def ScriptError.message : ScriptError → String
  | unknownHost t =>
    "Unknown target '" ++ t ++ "', expected one of " ++ ", ".intercalate (Host.all.map Host.name)
  | noGlobalName => "The browser target needs a global name to bind the machine under"

def line (s : String) : Piece := .row [s]

def bool (b : Bool) : String := if b then "true" else "false"

def list (items : List String) : String := "[" ++ ", ".intercalate items ++ "]"

/-- An operation as a statement. -/
def statement : Op → String
  | .consume => "if (consumeInput) this.input.shift();"
  | .pop channel => "this.stacks[" ++ toString channel ++ "].pop();"
  | .push channel value =>
    "this.stacks[" ++ toString channel ++ "].push(" ++ literal value ++ ");"
  | .set state => "this.state = " ++ literal state ++ ";"

def entry (e : Entry) : List Piece := [
  line "\x7b",
  .block [
    line ("label: " ++ literal e.label ++ ","),
    line ("input: " ++ literal e.filter.input ++ ","),
    line ("reads: " ++ list (e.filter.reads.map literalOrNull) ++ ","),
    line "fn: function (consumeInput) \x7b",
    .block (e.action.ops.map fun op => line (statement op)),
    line "\x7d"],
  line "\x7d,"]

def table (m : Compiled) : List Piece :=
  m.transitions.flatMap fun (state, entries) => [
    line (literal state ++ ": ["),
    .block (entries.flatMap entry),
    line "],"]

def settings (m : Compiled) (s : Settings) : List Piece := [
  line ("initial: " ++ literal m.initial ++ ","),
  line ("acceptStates: " ++ list (m.accepting.map literal) ++ ","),
  line ("stackCount: " ++ toString m.stackCount ++ ","),
  line ("strict: " ++ bool (s.isOn .strictActions) ++ ","),
  line ("prune: " ++ bool (s.isOn .pruneRevisited) ++ ","),
  line ("maxSteps: " ++ toString s.maxSearchSteps ++ ","),
  line ("state: " ++ literal m.initial ++ ","),
  line "stacks: [],",
  line "input: [],",
  line "halted: false,"]

/-- How a host gets at the machine. -/
def exportLine (host : Host) (name globalName : String) : Piece :=
  match host with
  | .node => line ("module.exports = " ++ name ++ ";")
  | .esm => line ("export default " ++ name ++ ";")
  | .browser => line ("window[" ++ literal globalName ++ "] = " ++ name ++ ";")

/-- The pieces of a script. Its settings, its table, the engine and the last row are written beforehand and
moved in as texts. -/
def pieces (m : Compiled) (s : Settings) (host : Host) (name globalName : String) : List Piece :=
  let rule := "// ============================" ++ String.ofList (List.replicate name.length '=')
  [line rule, line ("// source file for nfsm machine " ++ name), line rule] ++
    (if s.isOn .useStrictDirective then [line "\"use strict\";"] else []) ++
    [.row [],
      line ("var " ++ name ++ " = \x7b"),
      .block [.text (render (settings m s) 0), line "transitions: \x7b",
        .block [.text (render (table m) 0)], line "\x7d,", .text (render (engine.map line) 0)],
      line "\x7d;",
      line (name ++ ".reset();"),
      .row [],
      .text (render [exportLine host name globalName] 0)]

/-- The script of a machine. Target and global name are those of the settings unless they are given. -/
def generate (m : Compiled) (s : Settings) (name : String) (target globalName : Option String) :
    Except ScriptError String :=
  let target := target.getD s.target
  let globalName := globalName.getD s.globalName
  match Host.ofName? target with
  | none => .error (.unknownHost target)
  | some host =>
    if host = .browser && globalName.isEmpty then .error .noGlobalName
    else .ok (render (pieces m s host (sanitize name) globalName) 0)

end ArrowMachine.Script
