import ArrowMachine.Proofs.Command.Answering
import ArrowMachine.Proofs.Command.Files
import ArrowMachine.Proofs.Rule.Meaning

/-!
The command line agrees with the compiler and the generator.

A run shows the program, which changes only what is drawn (`Request.Drew`), and then it is one of a few cases
(`Request.Course`), which say what is reported, how it ends and what it writes. `runIn_agrees` puts together what
a run comes to.
-/
namespace ArrowMachine.Command

variable {W : Type} {sys : System (StateM W)} {files : Files W}

namespace Request

variable {r : Request} {source : String} {printed : List String} {w w' : W}

/-- The paths that are drawn to. -/
def drawn (r : Request) (sys : System (StateM W)) : List String :=
  if sys.plotter?.isSome then
    (if r.dumps.contains .parse then [r.outlinePath] else []) ++
      if r.dumps.contains .table then [r.graphPath, r.graphPath ++ "." ++ r.settings.graphFormat] else []
  else []

/-- One world has come from another by drawing what is asked for; without anything to draw they are the same. -/
structure Drew (r : Request) (sys : System (StateM W)) (files : Files W) (w w' : W) : Prop where
  others : files.SameBut (r.drawn sys) w w'
  nothing : r.drawn sys = [] → w' = w

theorem Drew.refl (w : W) : r.Drew sys files w w := ⟨.refl _ w, fun _ => rfl⟩

theorem Drew.trans {w'' : W} (h : r.Drew sys files w w') (h' : r.Drew sys files w' w'') :
    r.Drew sys files w w'' where
  others := h.others.trans h'.others
  nothing hnone := (h'.nothing hnone).trans (h.nothing hnone)

/-- Nothing is to be drawn, or everything can be. -/
def Drawable (r : Request) (sys : System (StateM W)) : Prop := r.drawn sys = [] ∨ sys.Draws

/-- Showing the parts of a program changes what is drawn, and fails only where pictures do. -/
theorem drew_showOutline (hkeeps : sys.Keeps files) (rules : List Rule.Spelling) (w : W) :
    r.Drew sys files w (showOutline sys r rules w).2 ∧
      ∀ words, (showOutline sys r rules w).1 = .error words → ¬ r.Drawable sys := by
  unfold showOutline
  split
  · next hparse =>
    cases hplotter : sys.plotter? with
    | none => exact ⟨.refl w, nofun⟩
    | some plotter =>
      have hdrawn : r.outlinePath ∈ r.drawn sys := by
        rw [drawn, hplotter, if_pos Option.isSome_some, if_pos hparse]
        exact List.mem_cons_self
      have hsome : r.drawn sys ≠ [] := List.ne_nil_of_mem hdrawn
      have hothers := hkeeps.outline_others plotter hplotter (Rule.outline rules) r.outlinePath w
      refine ⟨⟨hothers.mono (by simpa using hdrawn), fun hnone => absurd hnone hsome⟩,
        fun words hwords hdrawable => ?_⟩
      have hok := (hdrawable.resolve_left hsome plotter hplotter).1 (Rule.outline rules) r.outlinePath w
      simp only [bind_run, hok] at hwords
      cases hwords
  · exact ⟨.refl w, nofun⟩

/-- Drawing a table changes what is drawn, and fails only where pictures do. -/
theorem drew_drawTable (hkeeps : sys.Keeps files) (t : Compiled) (w : W) :
    r.Drew sys files w (drawTable sys r t w).2 ∧
      ∀ words, (drawTable sys r t w).1 = .error words → ¬ r.Drawable sys := by
  unfold drawTable
  split
  · next htable =>
    cases hplotter : sys.plotter? with
    | none => exact ⟨.refl w, nofun⟩
    | some plotter =>
      have hdrawn : [r.graphPath, r.graphPath ++ "." ++ r.settings.graphFormat] ⊆ r.drawn sys := by
        rw [drawn, hplotter, if_pos Option.isSome_some, if_pos htable]
        exact List.subset_append_right _ _
      have hsome : r.drawn sys ≠ [] := List.ne_nil_of_mem (hdrawn List.mem_cons_self)
      have hothers := hkeeps.graph_others plotter hplotter (graphOf plotter.escape r.settings t)
        r.graphPath r.settings.graphFormat w
      refine ⟨⟨hothers.mono hdrawn, fun hnone => absurd hnone hsome⟩, fun words hwords hdrawable => ?_⟩
      rw [(hdrawable.resolve_left hsome plotter hplotter).2] at hwords
      cases hwords
  · exact ⟨.refl w, nofun⟩

/-! ## A run over a program -/

/-- What a run comes to, by what becomes of the program, once all has been drawn. -/
inductive Course (r : Request) (sys : System (StateM W)) (source : String) (w : W) :
    Except CompileError Compiled → Outcome × W → Prop
  | faulty (fault : Rule.SyntaxFault) :
    Course r sys source w (.error fault.error)
      ({ reported := ["Syntax error: " ++ fault.message], ending := .exited 3 }, w)
  | refused (why : Refusal) (printed : List String) (hnone : (CompileError.refused why).fault? = none)
      (htraceback : Dump.traceback ∉ r.dumps) :
    Course r sys source w (.error (.refused why))
      ({ printed, reported := ["Compile error: " ++ why.textIn source], ending := .exited 4 }, w)
  | escaped (e : CompileError) (printed : List String) (hnone : e.fault? = none)
      (he : (∀ why, e ≠ .refused why) ∨ Dump.traceback ∈ r.dumps) :
    Course r sys source w (.error e) ({ printed, ending := .escaped (.compile e source) }, w)
  | dry (t : Compiled) (printed : List String) (hdry : r.dryRun = true) :
    Course r sys source w (.ok t) ({ printed, ending := .exited 0 }, w)
  | ungenerated (t : Compiled) (printed : List String) (e : Script.ScriptError) (hdry : r.dryRun = false)
      (he : Script.generate t r.settings r.output none none = .error e)
      (htraceback : Dump.traceback ∉ r.dumps) :
    Course r sys source w (.ok t)
      ({ printed, reported := ["Codegen error: " ++ e.message], ending := .exited 5 }, w)
  | traced (t : Compiled) (printed : List String) (e : Script.ScriptError)
      (htraceback : Dump.traceback ∈ r.dumps) :
    Course r sys source w (.ok t) ({ printed, ending := .escaped (.script e) }, w)
  | written (t : Compiled) (printed : List String) (script : String) (hdry : r.dryRun = false)
      (hscript : Script.generate t r.settings r.output none none = .ok script)
      (hwrite : (sys.write r.path script w).1 = .ok ()) :
    Course r sys source w (.ok t)
      ({ printed, ending := .returned, output := some (r.path, script) }, (sys.write r.path script w).2)
  | unwritten (t : Compiled) (printed : List String) (script : String) (fault : FileFault)
      (hdry : r.dryRun = false)
      (hscript : Script.generate t r.settings r.output none none = .ok script)
      (hwrite : (sys.write r.path script w).1 = .error fault) :
    Course r sys source w (.ok t)
      ({ printed, ending := .escaped (.unwritten fault) }, (sys.write r.path script w).2)

theorem course_compileOutcome {e : CompileError} (hnone : e.fault? = none) :
    r.Course sys source w (.error e) (compileOutcome r source printed e, w) := by
  cases e with
  | refused why =>
    rw [compileOutcome]
    by_cases htraceback : Dump.traceback ∈ r.dumps
    · rw [if_pos (by simpa using htraceback)]
      exact .escaped _ printed hnone (Or.inr htraceback)
    · rw [if_neg (by simpa using htraceback)]
      exact .refused why printed hnone htraceback
  | pattern | tooWide | crossedGroup => exact .escaped _ printed hnone (Or.inl nofun)

theorem course_writeScript (printed : List String) (t : Compiled) :
    r.Course sys source w (.ok t) (writeScript sys r printed t w) := by
  unfold writeScript
  cases hdry : r.dryRun with
  | true => exact .dry t _ hdry
  | false =>
    simp only [Bool.false_eq_true, if_false]
    cases hscript : Script.generate t r.settings r.output none none with
    | error e =>
      simp only
      by_cases htraceback : Dump.traceback ∈ r.dumps
      · rw [if_pos (by simpa using htraceback)]
        exact .traced t printed e htraceback
      · rw [if_neg (by simpa using htraceback)]
        exact .ungenerated t printed e hdry hscript htraceback
    | ok script =>
      simp only
      rw [bind_run]
      cases hwrite : (sys.write r.path script w).1 with
      | ok => exact .written t printed script hdry hscript hwrite
      | error fault => exact .unwritten t printed script fault hdry hscript hwrite

/-- What a run comes to: a picture is not drawn, or all is drawn and one of the cases follows. -/
inductive Ends (r : Request) (sys : System (StateM W)) (files : Files W) (source : String) (w : W)
    (result : Except CompileError Compiled) (run : Outcome × W) : Prop
  | undrawn (words : String) (hending : run.1.ending = .escaped (.undrawn words))
      (hdrew : r.Drew sys files w run.2) (hdrawable : ¬ r.Drawable sys)
  | course (w' : W) (hdrew : r.Drew sys files w w') (hcourse : r.Course sys source w' result run)

theorem Ends.after {result : Except CompileError Compiled} {run : Outcome × W}
    (h : r.Ends sys files source w' result run) (hdrew : r.Drew sys files w w') :
    r.Ends sys files source w result run := by
  cases h with
  | undrawn words hending hdrew' hnot => exact .undrawn words hending (hdrew.trans hdrew') hnot
  | course w'' hdrew' hcourse => exact .course w'' (hdrew.trans hdrew') hcourse

theorem ends_runTable (hkeeps : sys.Keeps files) (printed : List String) (t : Compiled) (w : W) :
    r.Ends sys files source w (.ok t) (runTable sys r printed t w) := by
  obtain ⟨hdrew, hfails⟩ := drew_drawTable (r := r) hkeeps t w
  rw [runTable, bind_run]
  cases hdraw : (drawTable sys r t w).1 with
  | ok => exact .course _ hdrew (course_writeScript _ t)
  | error words => exact .undrawn words rfl hdrew (hfails words hdraw)

theorem ends_runRules (hkeeps : sys.Keeps files) {rules : List Rule.Spelling}
    (hrules : Rule.spellings source = .ok rules) (w : W) :
    r.Ends sys files source w (compile sys.capacity r.settings source).result
      (runRules sys r source rules w) := by
  obtain ⟨hdrew, hfails⟩ := drew_showOutline (r := r) hkeeps rules w
  have hstatements : statementsOf sys.capacity source = Rule.statements sys.capacity rules := by
    rw [statementsOf, hrules]
  rw [runRules, bind_run]
  cases hshow : (showOutline sys r rules w).1 with
  | error words => exact .undrawn words rfl hdrew (hfails words hshow)
  | ok printed =>
    cases hss : Rule.statements sys.capacity rules with
    | error e =>
      have hresult : (compile sys.capacity r.settings source).result = .error e := by
        rw [compile, hstatements, hss]
      rw [hresult]
      exact .course _ hdrew (course_compileOutcome (Rule.fault?_of_compile hrules hresult))
    | ok ss =>
      rw [compile, hstatements, hss]
      cases hresult : (compileStatements sys.capacity r.settings ss).result with
      | error e =>
        simp only [hresult]
        exact .course _ hdrew (course_compileOutcome (fault?_of_compileStatements hresult))
      | ok t =>
        simp only [hresult]
        exact (ends_runTable hkeeps _ t _).after hdrew

/-- The command line takes the same steps as the compiler does. -/
theorem ends_runSource (hkeeps : sys.Keeps files) (source : String) (w : W) :
    r.Ends sys files source w (compile sys.capacity r.settings source).result
      (runSource sys r source w) := by
  unfold runSource
  cases hrules : Rule.spellings source with
  | error fault =>
    rw [compile, statementsOf, hrules]
    exact .course w (.refl w) (.faulty fault)
  | ok rules => exact ends_runRules hkeeps hrules w

namespace Course

variable {result : Except CompileError Compiled} {run : Outcome × W} {t : Compiled}

theorem exited_three_iff (h : r.Course sys source w result run) :
    run.1.ending = .exited 3 ↔ ∃ e fault, result = .error e ∧ e.fault? = some fault := by
  cases h with
  | faulty fault => exact ⟨fun _ => ⟨_, fault, rfl, rfl⟩, fun _ => rfl⟩
  | refused why printed hnone => simp [hnone]
  | escaped e printed hnone => simp [hnone]
  | dry | ungenerated | traced | written | unwritten => simp

theorem eq_three {code : Nat} (h : r.Course sys source w result run) (hcode : code ≤ 3) (hne : code ≠ 0)
    (hending : run.1.ending = .exited code) : code = 3 := by
  cases h with
  | faulty | refused | dry | ungenerated =>
    cases hending
    omega
  | escaped | traced | written | unwritten => cases hending

theorem exited_four_iff (h : r.Course sys source w result run) (htraceback : Dump.traceback ∉ r.dumps) :
    run.1.ending = .exited 4 ↔
      ∃ why, result = .error (.refused why) ∧ (CompileError.refused why).fault? = none := by
  cases h with
  | faulty fault =>
    refine ⟨nofun, ?_⟩
    rintro ⟨why, hwhy, hnone⟩
    rw [← Except.error.inj hwhy] at hnone
    cases hnone
  | refused why printed hnone => simp [hnone]
  | escaped e printed _ he => simp [he.resolve_right htraceback]
  | dry | ungenerated | traced | written | unwritten => simp

theorem told_of_exited_four (h : r.Course sys source w result run) (hending : run.1.ending = .exited 4) :
    ∃ why, result = .error (.refused why) ∧
      run.1.reported = ["Compile error: " ++ why.textIn source] := by
  cases h with
  | refused why => exact ⟨why, rfl, rfl⟩
  | faulty | escaped | dry | ungenerated | traced | written | unwritten => cases hending

theorem exited_zero_iff (h : r.Course sys source w result run) (htraceback : Dump.traceback ∉ r.dumps) :
    run.1.ending = .exited 0 ↔ ∃ t, result = .ok t ∧ r.dryRun = true := by
  cases h with
  | dry t _ hdry => exact ⟨fun _ => ⟨t, rfl, hdry⟩, fun _ => rfl⟩
  | faulty | refused | escaped => simp
  | traced _ _ _ h => exact absurd h htraceback
  | ungenerated _ _ _ hdry | written _ _ _ hdry | unwritten _ _ _ _ hdry => simp [hdry]

theorem exited_five_iff (h : r.Course sys source w result run) (htraceback : Dump.traceback ∉ r.dumps) :
    run.1.ending = .exited 5 ↔ ∃ t e, result = .ok t ∧ r.dryRun = false ∧
      Script.generate t r.settings r.output none none = .error e := by
  cases h with
  | ungenerated t _ e hdry he => exact ⟨fun _ => ⟨t, e, rfl, hdry, he⟩, fun _ => rfl⟩
  | faulty | refused | escaped => simp
  | traced _ _ _ h => exact absurd h htraceback
  | dry _ _ hdry => simp [hdry]
  | written _ _ _ _ hscript | unwritten _ _ _ _ _ hscript => simp [hscript]

theorem returned_iff (h : r.Course sys source w result run) (htraceback : Dump.traceback ∉ r.dumps) :
    run.1.ending = .returned ↔ ∃ t script, result = .ok t ∧ r.dryRun = false ∧
      Script.generate t r.settings r.output none none = .ok script ∧
      (sys.write r.path script w).1 = .ok () := by
  cases h with
  | written t _ script hdry hscript hwrite =>
    exact ⟨fun _ => ⟨t, script, rfl, hdry, hscript, hwrite⟩, fun _ => rfl⟩
  | faulty | refused | escaped => simp
  | dry _ _ hdry => simp [hdry]
  | ungenerated _ _ _ _ he => simp [he]
  | traced _ _ _ h => exact absurd h htraceback
  | unwritten _ _ _ _ _ hscript hwrite => simp [hscript, hwrite]

theorem eq_of_returned (h : r.Course sys source w result run) (hending : run.1.ending = .returned) :
    ∃ t script, result = .ok t ∧ Script.generate t r.settings r.output none none = .ok script ∧
      run.1.output = some (r.path, script) ∧ (sys.write r.path script w).1 = .ok () ∧
      run.2 = (sys.write r.path script w).2 := by
  cases h with
  | written t _ script _ hscript hwrite => exact ⟨t, script, rfl, hscript, rfl, hwrite, rfl⟩
  | faulty | refused | escaped | dry | ungenerated | traced | unwritten => cases hending

/-- Only a script that is written, or not quite, changes anything. -/
theorem world_eq (h : r.Course sys source w result run) (hreturned : run.1.ending ≠ .returned)
    (hunwritten : ∀ fault, run.1.ending ≠ .escaped (.unwritten fault)) : run.2 = w := by
  cases h with
  | written => exact absurd rfl hreturned
  | unwritten _ _ _ fault => exact absurd rfl (hunwritten fault)
  | faulty | refused | escaped | dry | ungenerated | traced => rfl

theorem others (h : r.Course sys source w result run) (hkeeps : sys.Keeps files) :
    files.SameBut [r.path] w run.2 := by
  cases h with
  | written _ _ script => exact hkeeps.write_others r.path script w
  | unwritten _ _ script => exact hkeeps.write_others r.path script w
  | faulty | refused | escaped | dry | ungenerated | traced => exact .refl _ w

end Course

/-! ## What a run comes to -/

/-- What a run agrees with, once all has been drawn and the world is `w`: what the compiler and the generator make
of the program. -/
structure Agrees (r : Request) (sys : System (StateM W)) (files : Files W) (source : String) (w : W)
    (run : Outcome × W) : Prop where
  faulty : run.1.ending = .exited 3 ↔
    ∃ e fault, (compile sys.capacity r.settings source).result = .error e ∧ e.fault? = some fault
  refused : run.1.ending = .exited 4 ↔ ∃ why, (compile sys.capacity r.settings source).result =
    .error (.refused why) ∧ (CompileError.refused why).fault? = none
  told : run.1.ending = .exited 4 → ∃ why, (compile sys.capacity r.settings source).result =
    .error (.refused why) ∧ run.1.reported = ["Compile error: " ++ why.textIn source]
  dry : run.1.ending = .exited 0 ↔
    ∃ t, (compile sys.capacity r.settings source).result = .ok t ∧ r.dryRun = true
  ungenerated : run.1.ending = .exited 5 ↔
    ∃ t e, (compile sys.capacity r.settings source).result = .ok t ∧ r.dryRun = false ∧
      Script.generate t r.settings r.output none none = .error e
  returned : run.1.ending = .returned ↔
    ∃ t script, (compile sys.capacity r.settings source).result = .ok t ∧ r.dryRun = false ∧
      Script.generate t r.settings r.output none none = .ok script ∧
      (sys.write r.path script w).1 = .ok ()
  /-- The script is the whole text of its file. -/
  written : run.1.ending = .returned → ∃ t script,
    (compile sys.capacity r.settings source).result = .ok t ∧
    Script.generate t r.settings r.output none none = .ok script ∧
    run.1.output = some (r.path, script) ∧ files.textAt? run.2 r.path = some script
  others : files.SameBut [r.path] w run.2
  exited : ∀ code, run.1.ending = .exited code → run.2 = w

theorem Course.agrees {run : Outcome × W} (hkeeps : sys.Keeps files)
    (htraceback : Dump.traceback ∉ r.dumps)
    (h : r.Course sys source w (compile sys.capacity r.settings source).result run) :
    r.Agrees sys files source w run where
  faulty := h.exited_three_iff
  refused := h.exited_four_iff htraceback
  told := h.told_of_exited_four
  dry := h.exited_zero_iff htraceback
  ungenerated := h.exited_five_iff htraceback
  returned := h.returned_iff htraceback
  written hending := by
    obtain ⟨t, script, hresult, hscript, houtput, hwrite, hworld⟩ := h.eq_of_returned hending
    refine ⟨t, script, hresult, hscript, houtput, ?_⟩
    rw [hworld]
    exact hkeeps.write r.path script w hwrite
  others := h.others hkeeps
  exited code hcode := h.world_eq (by simp [hcode]) (by simp [hcode])

/-- A text that is faulty ends a run before anything is drawn. -/
theorem world_eq_of_exited {code : Nat} (hkeeps : sys.Keeps files) (hcode : code ≤ 3) (hne : code ≠ 0)
    (hending : (runSource sys r source w).1.ending = .exited code) : (runSource sys r source w).2 = w := by
  unfold runSource at hending ⊢
  cases hrules : Rule.spellings source with
  | error fault => rfl
  | ok rules =>
    simp only [hrules] at hending
    rcases ends_runRules hkeeps hrules w with ⟨words, hwords⟩ | ⟨w', _, hcourse⟩
    · rw [hwords] at hending
      cases hending
    · obtain rfl := hcourse.eq_three hcode hne hending
      obtain ⟨e, fault, hresult, hfault⟩ := hcourse.exited_three_iff.1 hending
      rw [Rule.fault?_of_compile hrules hresult] at hfault
      cases hfault

end Request

theorem demand_of_begin {arguments : List String} {r : Request} (h : begin arguments = .inr r) :
    demand arguments = .ok (.compile r) := by
  unfold begin at h
  split at h
  · next hdemand =>
    cases h
    exact hdemand
  all_goals cases h

theorem runIn_eq_runSource (hkeeps : sys.Keeps files) {w : W} {arguments : List String} {r : Request}
    {text : String} (hbegin : begin arguments = .inr r) (hread : (sys.read r.input w).1 = .ok text) :
    runIn sys arguments w = runSource sys r (sourceOf text) w := by
  rw [runIn, hbegin]
  simp only
  rw [bind_run, hread, hkeeps.read]

/-- Before a program is run, nothing changes. -/
theorem world_eq_or_runs (hkeeps : sys.Keeps files) (w : W) (arguments : List String) :
    (runIn sys arguments w).2 = w ∨ ∃ r text, demand arguments = .ok (.compile r) ∧
      runIn sys arguments w = runSource sys r (sourceOf text) w := by
  cases hbegin : begin arguments with
  | inl outcome =>
    rw [runIn, hbegin]
    exact Or.inl rfl
  | inr r =>
    cases hread : (sys.read r.input w).1 with
    | ok text => exact Or.inr ⟨r, text, demand_of_begin hbegin, runIn_eq_runSource hkeeps hbegin hread⟩
    | error fault =>
      refine Or.inl ?_
      rw [runIn, hbegin]
      simp only
      rw [bind_run, hread]
      cases fault <;> exact hkeeps.read r.input w

/-- **A run agrees with the compiler and the generator, and it changes nothing unless it comes to its
end.** When the arguments ask for a program that can be read, without tracebacks, the run ends with 3
exactly for a faulty text, with 4 exactly for any other refusal, which it reports, with 0 for a table that
is only to be compiled, with 5 when there is no script, and otherwise, where the file can be written, by writing
the script and nothing else. However else a run ends, whatever its arguments are, no file changes. Pictures are
apart: where the system has something to draw with, and they are asked for, they change the files that they are
drawn to, and no others. -/
theorem runIn_agrees (hkeeps : sys.Keeps files) (w : W) (arguments : List String) :
    (∀ r text, demand arguments = .ok (.compile r) → (sys.read r.input w).1 = .ok text →
      Dump.traceback ∉ r.dumps → r.Drawable sys →
      ∃ w', r.Drew sys files w w' ∧
        r.Agrees sys files (sourceOf text) w' (runIn sys arguments w)) ∧
    ((runIn sys arguments w).1.ending ≠ .returned →
      (∀ fault, (runIn sys arguments w).1.ending ≠ .escaped (.unwritten fault)) →
      (runIn sys arguments w).2 = w ∨ ∃ r, demand arguments = .ok (.compile r) ∧
        r.drawn sys ≠ [] ∧ files.SameBut (r.drawn sys) w (runIn sys arguments w).2) ∧
    ∀ code, (runIn sys arguments w).1.ending = .exited code → code = 1 ∨ code = 2 ∨ code = 3 →
      (runIn sys arguments w).2 = w := by
  refine ⟨fun r text hdemand hread htraceback hdrawable => ?_, fun hreturned hunwritten => ?_,
    fun code hending hcode => ?_⟩
  · rw [runIn_eq_runSource hkeeps (by rw [begin, hdemand]) hread]
    cases Request.ends_runSource hkeeps (sourceOf text) w with
    | undrawn _ _ _ hnot => exact absurd hdrawable hnot
    | course w' hdrew hcourse => exact ⟨w', hdrew, hcourse.agrees hkeeps htraceback⟩
  · rcases world_eq_or_runs hkeeps w arguments with heq | ⟨r, text, hdemand, hrun⟩
    · exact Or.inl heq
    · rw [hrun] at hreturned hunwritten ⊢
      have hdrew : r.Drew sys files w (runSource sys r (sourceOf text) w).2 := by
        cases Request.ends_runSource hkeeps (sourceOf text) w with
        | undrawn _ _ hdrew _ => exact hdrew
        | course w' hdrew hcourse => rwa [hcourse.world_eq hreturned hunwritten]
      by_cases hnone : r.drawn sys = []
      · exact Or.inl (hdrew.nothing hnone)
      · exact Or.inr ⟨r, hdemand, hnone, hdrew.others⟩
  · rcases world_eq_or_runs hkeeps w arguments with heq | ⟨r, text, _, hrun⟩
    · exact heq
    · rw [hrun] at hending ⊢
      exact Request.world_eq_of_exited hkeeps (by omega) (by omega) hending

/-- One program, and what is asked for by its name and for a picture of its table. -/
def lone : Shelf := [("p", ".a -x> (b);")]

def loneRequest : Request := ⟨"p", "p", {}, [.table], "p", false⟩

/-- The program is compiled into a file beside it, and stays; from an empty shelf nothing comes. -/
theorem lone_written :
    demand ["-dtable", "p"] = .ok (.compile loneRequest) ∧
    (Shelf.system.read "p" lone).1 = .ok ".a -x> (b);" ∧ Dump.traceback ∉ loneRequest.dumps ∧
    (∃ script, (runIn Shelf.system ["-dtable", "p"] lone).1.ending = .returned ∧
      Shelf.files.textAt? (runIn Shelf.system ["-dtable", "p"] lone).2 "p.js" = some script ∧
      Shelf.files.at? (runIn Shelf.system ["-dtable", "p"] lone).2 "p" = some ".a -x> (b);") ∧
    (runIn Shelf.system ["-dtable", "p"] []).2 = [] := by
  have hdemand : demand ["-dtable", "p"] = .ok (.compile loneRequest) := by
    rw [demand, readFrom_eq]
    change readFrom { dumps := [.table] } ["p"] = _
    rw [readFrom_eq]
    change readFrom { dumps := [.table], input := some "p", output := some "p" } [] = _
    rw [readFrom_nil]
    rfl
  have hread : (Shelf.system.read "p" lone).1 = .ok ".a -x> (b);" := by cbv
  have htraceback : Dump.traceback ∉ loneRequest.dumps := by decide
  have hsource : sourceOf ".a -x> (b);" = ".a -x> (b);" := by cbv
  have hpath : loneRequest.path = "p.js" := by cbv
  have hunread : (runIn Shelf.system ["-dtable", "p"] []).1.ending = .exited 2 := by
    rw [runIn, begin, hdemand]
    rfl
  have hnothing := (runIn_agrees Shelf.keeps [] ["-dtable", "p"]).2.2 2 hunread (by simp)
  obtain ⟨w, hdrew, hagrees⟩ := (runIn_agrees Shelf.keeps lone ["-dtable", "p"]).1 loneRequest
    ".a -x> (b);" hdemand hread htraceback (Or.inr Shelf.draws)
  have hcompiles : (compile .ample {} ".a -x> (b);").result.isOk = true := by decide +kernel
  rw [hsource] at hagrees
  cases hresult : (compile .ample {} ".a -x> (b);").result with
  | error e =>
    rw [hresult] at hcompiles
    cases hcompiles
  | ok t =>
    obtain ⟨script, hscript⟩ : ∃ script, Script.generate t {} "p" none none = .ok script := ⟨_, rfl⟩
    have hending := hagrees.returned.2 ⟨t, script, hresult, rfl, hscript, rfl⟩
    obtain ⟨_, script', _, _, _, hwritten⟩ := hagrees.written hending
    have hdrawn : loneRequest.drawn Shelf.system = ["p.table", "p.table.pdf"] := by cbv
    have hkept := (hagrees.others "p" (by simp [hpath, Shelf.files])).trans
      (hdrew.others "p" (by simp [hdrawn, Shelf.files]))
    rw [hpath] at hwritten
    exact ⟨hdemand, hread, htraceback, ⟨script', hending, hwritten, hkept⟩, hnothing⟩

end ArrowMachine.Command
