import ArrowMachine.Proofs.Command.Naming
import ArrowMachine.Proofs.Script.Recovery
import ArrowMachine.Proofs.Command.Files

/-!
The name that a script declares.

A script declares its machine as a variable, resets it and hands it to its host, each time under the name
of the program as `sanitize` leaves it (`Script.written_of_generate`). That name has the characters of an
identifier, and `sanitize` does not change it again (`Script.sanitize_sanitize`). It makes no name of an
empty text and none of a reserved word, though, so what it leaves can be declared exactly if it is neither
(`Script.isDeclarable_sanitize_iff`). `declared_name` says so of whatever a command line comes to, and where
the name comes from; `class_declared` is a script that declares a reserved word.
-/
namespace ArrowMachine.Script

open Text.Page (Piece render writeAll)

/-! ## Names that can be declared -/

/-- The words that no variable can have as its name, in strict code and in modules. -/
def reservedWords : List String := [
  "await", "break", "case", "catch", "class", "const", "continue", "debugger", "default", "delete", "do",
  "else", "enum", "export", "extends", "false", "finally", "for", "function", "if", "implements", "import",
  "in", "instanceof", "interface", "let", "new", "null", "package", "private", "protected", "public",
  "return", "static", "super", "switch", "this", "throw", "true", "try", "typeof", "var", "void", "while",
  "with", "yield"]

/-- A letter or underscore with letters, digits and underscores behind it. -/
def IsIdentifier (x : String) : Prop :=
  ∃ c cs, x.toList = c :: cs ∧ (c.isAlpha = true ∨ c = '_') ∧
    ∀ d ∈ cs, d.isAlpha = true ∨ d.isDigit = true ∨ d = '_'

/-- A name that a variable can have. -/
structure IsDeclarable (x : String) : Prop where
  identifier : IsIdentifier x
  free : x ∉ reservedWords

/-- What `sanitize` puts in the place of a character may stand there. -/
theorem isNameChar_kept (start : Bool) (c : Char) :
    isNameChar start (if isNameChar start c then c else '_') = true := by
  split
  · assumption
  · cases start <;> rfl

theorem sanitizeChars_sanitizeChars (start : Bool) (cs : List Char) :
    sanitizeChars start (sanitizeChars start cs) = sanitizeChars start cs := by
  induction cs generalizing start with
  | nil => rfl
  | cons c cs ih => rw [sanitizeChars, sanitizeChars, if_pos (isNameChar_kept start c), ih]

/-- **Sanitizing a name again does not change it.** -/
theorem sanitize_sanitize (name : String) : sanitize (sanitize name) = sanitize name := by
  rw [sanitize, sanitize, String.toList_ofList, sanitizeChars_sanitizeChars]

theorem isNameChar_of_mem {cs : List Char} {d : Char} (h : d ∈ sanitizeChars false cs) :
    isNameChar false d = true := by
  induction cs with
  | nil => cases h
  | cons c cs ih =>
    rcases List.mem_cons.1 h with rfl | h
    · exact isNameChar_kept false c
    · exact ih h

/-- What is left of a name is an identifier unless there was nothing. -/
theorem isIdentifier_sanitize_iff (name : String) : IsIdentifier (sanitize name) ↔ name ≠ "" := by
  have hname : name ≠ "" ↔ name.toList ≠ [] := String.toList_eq_nil_iff.not.symm
  rw [hname, IsIdentifier, sanitize, String.toList_ofList]
  cases name.toList with
  | nil => simp [sanitizeChars]
  | cons c cs =>
    refine iff_of_true ⟨_, _, rfl, ?_, fun d hd => ?_⟩ (List.cons_ne_nil c cs)
    · have hkept := isNameChar_kept true c
      generalize (if isNameChar true c then c else '_') = d at hkept ⊢
      simpa [isNameChar] using hkept
    · have hkept := isNameChar_of_mem hd
      simp only [isNameChar, Bool.or_eq_true, Bool.not_false, Bool.true_and, decide_eq_true_eq] at hkept
      tauto

theorem isDeclarable_sanitize_iff (name : String) :
    IsDeclarable (sanitize name) ↔ name ≠ "" ∧ sanitize name ∉ reservedWords := by
  rw [← isIdentifier_sanitize_iff]
  exact ⟨fun h => ⟨h.identifier, h.free⟩, fun h => ⟨h.1, h.2⟩⟩

/-! ## Where the name stands -/

/-- The rows in front of the declaration: a comment, and the directive if there is to be one. -/
def heading (s : Settings) (name : String) : List Piece :=
  let rule := "// ============================" ++ String.ofList (List.replicate name.length '=')
  [line rule, line ("// source file for nfsm machine " ++ name), line rule] ++
    (if s.isOn .useStrictDirective then [line "\"use strict\";"] else []) ++ [.row []]

/-- The rows of the object that is declared. -/
def members (m : Compiled) (s : Settings) : List Piece :=
  settings m s ++ [line "transitions: \x7b", .block (table m), line "\x7d,"] ++ engine.map line

/-- How a machine is handed to a host. -/
def handing (host : Host) (name globalName : String) : String :=
  match host with
  | .node => "module.exports = " ++ name ++ ";"
  | .esm => "export default " ++ name ++ ";"
  | .browser => "window[" ++ Text.literal globalName ++ "] = " ++ name ++ ";"

/-- A script that declares the machine `m` as `name`, resets it and hands it over. -/
def written (m : Compiled) (s : Settings) (host : Host) (name globalName : String) : String :=
  render (heading s name) 0 ++ ("var " ++ name ++ " = \x7b\n") ++ render [.block (members m s)] 0 ++
    ("\x7d;\n" ++ name ++ ".reset();\n\n") ++ (handing host name globalName ++ "\n")

theorem render_append (ps qs : List Piece) (i : Int) : render (ps ++ qs) i = render ps i ++ render qs i := by
  rw [render, writeAll_append, String.ofList_append]
  rfl

theorem render_line (s : String) : render [line s] 0 = s ++ "\n" := by
  apply String.toList_injective
  simp [render, writeAll, write_line, Text.Page.margin]

theorem exportLine_eq (host : Host) (name globalName : String) :
    exportLine host name globalName = line (handing host name globalName) := by
  cases host <;> rfl

theorem render_flat (m : Compiled) (s : Settings) (host : Host) (name globalName : String) :
    render (flat m s host name globalName) 0 = written m s host name globalName := by
  have hpieces : flat m s host name globalName =
      heading s name ++ ([line ("var " ++ name ++ " = \x7b")] ++ ([.block (members m s)] ++
        ([line "\x7d;"] ++ ([line (name ++ ".reset();")] ++ ([.row []] ++
          [line (handing host name globalName)]))))) := by
    rw [← exportLine_eq]
    simp [flat, heading, members]
  have hempty : render [.row []] 0 = "\n" := by decide
  rw [hpieces]
  simp only [render_append, render_line, hempty, written]
  simp only [String.append_assoc]
  rfl

theorem written_of_generate {m : Compiled} {s : Settings} {name text : String}
    {target globalName : Option String} (h : generate m s name target globalName = .ok text) :
    ∃ host, Host.ofName? (target.getD s.target) = some host ∧
      text = written m s host (sanitize name) (globalName.getD s.globalName) := by
  obtain ⟨host, hhost, rfl⟩ := generate_eq_ok h
  exact ⟨host, hhost, render_flat m s host _ _⟩

end ArrowMachine.Script

namespace ArrowMachine.Command

variable {W : Type} {sys : System (StateM W)} {w : W} {arguments : List String} {q : Request}
  {path text : String}

/-! ## Scripts of a command line -/

/-- Only a table ends in an output: the script of it, beside the name of the program. -/
theorem generate_of_writeScript {printed : List String} {t : Compiled}
    (h : (writeScript sys q printed t w).1.output = some (path, text)) :
    path = q.path ∧ Script.generate t q.settings q.output none none = .ok text := by
  unfold writeScript at h
  split at h
  · cases h
  · cases hscript : Script.generate t q.settings q.output none none with
    | error e =>
      rw [hscript] at h
      simp only at h
      split at h <;> cases h
    | ok script =>
      rw [hscript] at h
      simp only at h
      rw [bind_run] at h
      cases hwrite : (sys.write q.path script w).1 with
      | error fault =>
        rw [hwrite] at h
        cases h
      | ok =>
        rw [hwrite] at h
        obtain ⟨rfl, rfl⟩ := Prod.mk.inj (Option.some.inj h)
        exact ⟨rfl, rfl⟩

theorem generate_of_runTable {printed : List String} {t : Compiled}
    (h : (runTable sys q printed t w).1.output = some (path, text)) :
    path = q.path ∧ Script.generate t q.settings q.output none none = .ok text := by
  rw [runTable, bind_run] at h
  cases hdraw : (drawTable sys q t w).1 with
  | ok =>
    rw [hdraw] at h
    exact generate_of_writeScript h
  | error words =>
    rw [hdraw] at h
    cases h

theorem output_compileOutcome (source : String) (printed : List String) (e : CompileError) :
    (compileOutcome q source printed e).output = none := by
  unfold compileOutcome
  split
  · split <;> rfl
  all_goals rfl

theorem exists_generate_of_runRules {source : String} {rules : List Rule.Spelling}
    (h : (runRules sys q source rules w).1.output = some (path, text)) :
    path = q.path ∧ ∃ t, Script.generate t q.settings q.output none none = .ok text := by
  rw [runRules, bind_run] at h
  cases hshow : (showOutline sys q rules w).1 with
  | error words =>
    rw [hshow] at h
    cases h
  | ok printed =>
    rw [hshow] at h
    cases hss : Rule.statements sys.capacity rules with
    | error e =>
      simp only [hss] at h
      change (compileOutcome q source _ e).output = _ at h
      rw [output_compileOutcome] at h
      cases h
    | ok ss =>
      simp only [hss] at h
      cases hresult : (compileStatements sys.capacity q.settings ss).result with
      | error e =>
        simp only [hresult] at h
        change (compileOutcome q source _ e).output = _ at h
        rw [output_compileOutcome] at h
        cases h
      | ok t =>
        simp only [hresult] at h
        exact (generate_of_runTable h).imp_right fun hscript => ⟨t, hscript⟩

theorem exists_generate_of_runIn (hdemand : demand arguments = .ok (.compile q))
    (h : (runIn sys arguments w).1.output = some (path, text)) :
    path = q.path ∧ ∃ t, Script.generate t q.settings q.output none none = .ok text := by
  rw [runIn, begin, hdemand] at h
  simp only at h
  rw [bind_run] at h
  cases hread : (sys.read q.input w).1 with
  | error fault =>
    rw [hread] at h
    cases fault <;> cases h
  | ok text =>
    simp only [hread] at h
    unfold runSource at h
    cases hrules : Rule.spellings (sourceOf text) with
    | error fault =>
      rw [hrules] at h
      cases h
    | ok rules =>
      rw [hrules] at h
      exact exists_generate_of_runRules h

/-- The program is called by the last output behind its input file, or else by that file. -/
theorem exists_output_named (h : demand arguments = .ok (.compile q)) :
    ∃ front back, Mentions arguments (front ++ .input q.input :: back) ∧
      q.output = (outputs back).getLast?.getD (Reading.outputOf q.input) := by
  obtain ⟨ms, hms⟩ := exists_mentions h
  have hmakes := makes_of_mentions h hms
  have hinputs := ((makes_iff hms.converted).1 hmakes).1
  obtain ⟨front, m, back, rfl, _, hm, _⟩ := List.filterMap_eq_cons_iff.1 hinputs
  obtain rfl := input?_eq_some_iff.1 hm
  exact ⟨front, back, hms, ((makes_iff_of_input hms.converted).1 hmakes).2.1⟩

/-- **What a script declares is an identifier unless it is empty, and a name unless it is reserved.** Whatever
the arguments ask for and the file holds, a script that comes of it declares, resets and hands over one
name, which sanitizing does not change again. That is the name of the program, sanitized: the output named
last behind the input file, or else the stem of that file. It can be declared exactly if the program has a
name at all and what is left of it is not a reserved word. -/
theorem declared_name (h : demand arguments = .ok (.compile q))
    (hscript : (runIn sys arguments w).1.output = some (path, text)) :
    ∃ m host x, text = Script.written m q.settings host x q.settings.globalName ∧
      x = Script.sanitize q.output ∧ Script.sanitize x = x ∧
      (∃ front back, Mentions arguments (front ++ .input q.input :: back) ∧
        q.output = (outputs back).getLast?.getD (Reading.outputOf q.input)) ∧
      (Script.IsDeclarable x ↔ q.output ≠ "" ∧ x ∉ Script.reservedWords) := by
  obtain ⟨_, m, hgenerate⟩ := exists_generate_of_runIn h hscript
  obtain ⟨host, _, htext⟩ := Script.written_of_generate hgenerate
  exact ⟨m, host, Script.sanitize q.output, htext, rfl, Script.sanitize_sanitize _,
    exists_output_named h, Script.isDeclarable_sanitize_iff _⟩

/-- A run over a program of one arrow, which is the only file. -/
def runArrow (arguments : List String) (q : Request) : Outcome :=
  (runIn Shelf.system arguments [(q.input, ".a -x> b;")]).1

/-- Whether the arguments name the program `output` and the arrow comes out as a script. -/
def comesOutAs (arguments : List String) (output : String) : Bool :=
  match demand arguments with
  | .ok (.compile q) => decide (q.output = output) && (runArrow arguments q).output.isSome
  | _ => false

theorem exists_script {output : String} (h : comesOutAs arguments output = true) :
    ∃ q path text, demand arguments = .ok (.compile q) ∧ q.output = output ∧
      (runArrow arguments q).output = some (path, text) := by
  unfold comesOutAs at h
  split at h
  · next q hdemand =>
    obtain ⟨hname, hsome⟩ := Bool.and_eq_true_iff.1 h
    obtain ⟨⟨path, text⟩, hscript⟩ := Option.isSome_iff_exists.1 hsome
    exact ⟨q, path, text, hdemand, of_decide_eq_true hname, hscript⟩
  · cases h

/-- The arguments make a script of the arrow that declares, resets and hands over `x`. -/
def Declares (arguments : List String) (x : String) : Prop :=
  ∃ q path text m host, demand arguments = .ok (.compile q) ∧
    (runArrow arguments q).output = some (path, text) ∧
    text = Script.written m q.settings host x q.settings.globalName

theorem declares_of_comesOutAs {output : String} (h : comesOutAs arguments output = true) :
    Declares arguments (Script.sanitize output) := by
  obtain ⟨q, path, text, hdemand, rfl, hscript⟩ := exists_script h
  obtain ⟨_, m, hgenerate⟩ := exists_generate_of_runIn hdemand hscript
  obtain ⟨host, _, htext⟩ := Script.written_of_generate hgenerate
  exact ⟨q, path, text, m, host, hdemand, hscript, htext⟩

/-- A file called by a dot and a word makes a script that declares an underscore and the word. -/
theorem lift_declared : Declares [".lift"] "_lift" ∧ Script.IsDeclarable "_lift" := by
  have hcomesOut : comesOutAs [".lift"] "_lift" = true := by decide +kernel
  obtain ⟨q, path, text, hdemand, hname, hscript⟩ := exists_script hcomesOut
  obtain ⟨m, host, x, htext, rfl, _, _, hiff⟩ := declared_name hdemand hscript
  have hclean : Script.sanitize q.output = "_lift" := by rw [hname]; decide
  rw [hclean] at htext hiff
  exact ⟨⟨q, path, text, m, host, hdemand, hscript, htext⟩, hiff.2 ⟨by rw [hname]; decide, by decide⟩⟩

/-- A file that is called by a reserved word, and an output without a name, make scripts that declare just
these. -/
theorem class_declared : (Declares ["class.nfsm"] "class" ∧ ¬ Script.IsDeclarable "class") ∧
    Declares ["lift.nfsm", "-o"] "" ∧ ¬ Script.IsDeclarable "" := by
  have hclass : Declares ["class.nfsm"] (Script.sanitize "class") :=
    declares_of_comesOutAs (by decide +kernel)
  have hempty : Declares ["lift.nfsm", "-o"] (Script.sanitize "") :=
    declares_of_comesOutAs (by decide +kernel)
  have hkept : Script.sanitize "class" = "class" ∧ Script.sanitize "" = "" := by decide
  rw [hkept.1] at hclass
  rw [hkept.2] at hempty
  have hreserved : "class" ∈ Script.reservedWords := by decide
  have hnameless : ¬ Script.IsIdentifier "" := fun ⟨_, _, hchars, _⟩ => nomatch hchars
  exact ⟨⟨hclass, fun h => h.free hreserved⟩, hempty, fun h => hnameless h.identifier⟩

end ArrowMachine.Command
