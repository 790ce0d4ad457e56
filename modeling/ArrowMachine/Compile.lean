import ArrowMachine.Rule.Reading
import ArrowMachine.Table.Merge

/-!
From the text of a program to its table.
-/
namespace ArrowMachine

/-- The error of a text that is no list of rules. -/
def Rule.SyntaxFault.error (fault : Rule.SyntaxFault) : CompileError :=
  .of (.syntaxFault fault) [some fault.pos]

/-- The statements of a text. -/
def statementsOf (cap : Capacity) (source : String) : Except CompileError (List Statement) :=
  match Rule.spellings source with
  | .error fault => .error fault.error
  | .ok rules => Rule.statements cap rules

/-- Compiles the text of a program. -/
def compile (cap : Capacity) (settings : Settings) (source : String) : Report CompileError Compiled :=
  match statementsOf cap source with
  | .error e => ⟨[], .error e⟩
  | .ok ss => compileStatements cap settings ss

end ArrowMachine
