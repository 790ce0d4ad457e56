import ArrowMachine.Proofs.Command.Heeding

/-!
The name of the program.

The input file names the program too, whatever the output was said to be before it. An output is therefore
overruled where it is named before the input file and no other is named behind it (`Overruled`); there
moving the input file changes the name of the program, and with it the prefix of the dumps unless that is
given. `output_named_last` says what the name is, and that nothing else depends on where the input file
stands; `output_overruled` is a run in which the output that is asked for is not the one that is made.
-/
namespace ArrowMachine.Command

/-- The outputs that are named. -/
def outputs (ms : List Mention) : List String := ms.filterMap Mention.output?

/-- Outputs are named before the input file, but none behind it. -/
def Overruled (front back : List Mention) : Prop := outputs front ≠ [] ∧ outputs back = []

variable {arguments : List String} {ms front back front' back' : List Mention} {path : String}
  {q : Request}

/-! ## Mentions around the input file -/

theorem outputs_append : outputs (front ++ back) = outputs front ++ outputs back :=
  List.filterMap_append

theorem input?_eq_some_iff {m : Mention} : m.input? = some path ↔ m = .input path := by
  cases m <;> simp [Mention.input?]

theorem inputs_eq_nil_iff : ms.filterMap Mention.input? = [] ↔ ∀ path, .input path ∉ ms := by
  rw [List.filterMap_eq_nil_iff]
  constructor
  · intro h path hpath
    cases h _ hpath
  · intro h m hm
    cases m with
    | input path => exact absurd hm (h path)
    | _ => rfl

/-- Just one input file is named exactly if there is no other around its mention. -/
theorem inputs_eq_singleton_iff {other : String} :
    (front ++ .input path :: back).filterMap Mention.input? = [other] ↔
      other = path ∧ ∀ path, .input path ∉ front ++ back := by
  have hpath : (Mention.input path).input? = some path := rfl
  rw [← inputs_eq_nil_iff, List.filterMap_append, List.filterMap_append, List.filterMap_cons_some hpath,
    List.append_eq_nil_iff, List.append_eq_singleton_iff]
  simp only [reduceCtorEq, and_false, or_false, List.cons.injEq]
  rw [and_left_comm, eq_comm (a := path)]

/-- Without an input file, only outputs name the program. -/
theorem names_eq_outputs (h : ∀ path, .input path ∉ ms) : ms.filterMap Mention.names? = outputs ms := by
  refine List.filterMap_congr fun m hm => ?_
  have hnone := List.filterMap_eq_nil_iff.1 (inputs_eq_nil_iff.2 h) m hm
  rw [Mention.names?, hnone, Option.map_none, Option.or_none]

/-- The program has the name of the last output behind the input file, or else that of the input file. -/
theorem getLast?_names (hback : ∀ other, .input other ∉ back) (front : List Mention) :
    ((front ++ .input path :: back).filterMap Mention.names?).getLast?.getD "" =
      (outputs back).getLast?.getD (Reading.outputOf path) := by
  have hpath : (Mention.input path).names? = some (Reading.outputOf path) := rfl
  rw [List.filterMap_append, List.filterMap_cons, hpath, names_eq_outputs hback,
    List.getLast?_append, List.getLast?_cons]
  rfl

theorem about_move_input {subject : Subject} (h : subject ≠ .program)
    (hmove : front' ++ back' = front ++ back) :
    about subject (front' ++ .input path :: back') = about subject (front ++ .input path :: back) := by
  have hneg : ¬ (Mention.input path).subject = subject := h.symm
  have hdrop (front back : List Mention) :
      about subject (front ++ .input path :: back) = about subject (front ++ back) := by
    unfold about
    rw [List.filter_append, List.filter_append, List.filter_cons, if_neg (by simpa using hneg)]
  rw [hdrop, hdrop, hmove]

theorem getLast?_outputs_of_not_overruled (h : ¬ Overruled front back) :
    (outputs (front ++ back)).getLast? = (outputs back).getLast? := by
  rw [outputs_append, List.getLast?_append]
  by_cases hback : outputs back = []
  · have hfront : outputs front = [] := by
      by_contra hfront
      exact h ⟨hfront, hback⟩
    rw [hfront, hback]
    rfl
  · rw [List.getLast?_eq_some_getLast hback]
    rfl

/-! ## Moving the input file -/

/-- What is asked for where an input file is named. -/
theorem makes_iff_of_input (hms : ∀ m ∈ front ++ .input path :: back, m.Converted) :
    Makes (front ++ .input path :: back) q ↔
      (q.input = path ∧ ∀ other, .input other ∉ front ++ back) ∧
        q.output = (outputs back).getLast?.getD (Reading.outputOf path) ∧
        Heeds (front ++ .input path :: back) q := by
  rw [makes_iff hms, inputs_eq_singleton_iff]
  refine and_congr_right fun hothers => ?_
  rw [getLast?_names fun other hother => hothers.2 other (List.mem_append_right _ hother)]

/-- Arguments that differ in where the input file stands ask for the same, but for what follows from the
name of the program. -/
theorem demand_of_moved_input {arguments' : List String} (h : demand arguments = .ok (.compile q))
    (hms : Mentions arguments (front ++ .input q.input :: back))
    (hms' : Mentions arguments' (front' ++ .input q.input :: back'))
    (hmove : front' ++ back' = front ++ back) :
    ∃ q', demand arguments' = .ok (.compile q') ∧
      q'.output = (outputs back').getLast?.getD (Reading.outputOf q.input) ∧
      q'.input = q.input ∧ q'.settings = q.settings ∧ q'.dumps = q.dumps ∧ q'.dryRun = q.dryRun ∧
      ((∃ text, .dumpPrefix text ∈ front ++ back) → q'.dumpPrefix = q.dumpPrefix) ∧
      (q'.output = q.output → q' = q) := by
  obtain ⟨⟨_, hothers⟩, houtput, hheeds⟩ :=
    (makes_iff_of_input hms.converted).1 (makes_of_mentions h hms)
  have hheeds' := hheeds.congr fun subject hsubject => about_move_input hsubject hmove
  have hothers' : ∀ other, .input other ∉ front' ++ back' := hmove ▸ hothers
  -- Only the name of the program is another one, with the prefix that goes by it.
  let output' := (outputs back').getLast?.getD (Reading.outputOf q.input)
  let prefixes := (front' ++ .input q.input :: back').filterMap Mention.dumpPrefix?
  let q' : Request := { q with output := output', dumpPrefix := prefixes.getLast?.getD output' }
  have hq' : Heeds (front' ++ .input q.input :: back') q' :=
    ⟨hheeds'.flag, hheeds'.option, hheeds'.dumps, rfl, hheeds'.dryRun⟩
  have hmakes : Makes (front' ++ .input q.input :: back') q' :=
    (makes_iff_of_input hms'.converted).2 ⟨⟨rfl, hothers'⟩, rfl, hq'⟩
  refine ⟨q', demand_of_makes hms' hmakes, rfl, rfl, rfl, rfl, rfl, ?_, ?_⟩
  · intro hprefixed
    obtain ⟨text, htext⟩ := hprefixed
    have hmem : text ∈ prefixes := by
      refine List.mem_filterMap.2 ⟨.dumpPrefix text, ?_, rfl⟩
      rw [← hmove] at htext
      rcases List.mem_append.1 htext with hfront | hback
      · exact List.mem_append_left _ hfront
      · exact List.mem_append_right _ (List.mem_cons_of_mem _ hback)
    have hlast := List.getLast?_eq_some_getLast (List.ne_nil_of_mem hmem)
    rw [hheeds'.dumpPrefix, show q'.dumpPrefix = prefixes.getLast?.getD output' from rfl, hlast]
    rfl
  · intro hsame
    have hprefixed : q'.dumpPrefix = q.dumpPrefix := by
      rw [hq'.dumpPrefix, hheeds'.dumpPrefix, hsame]
    calc q' = { q with output := q'.output, dumpPrefix := q'.dumpPrefix } := rfl
      _ = q := by rw [hsame, hprefixed]

/-- **The program has the name that is named last behind its input file**, or else that of the input file.
So an output that is named wins unless it is overruled, and nothing but the name of the program, with the
prefix that goes by it, depends on where the input file stands. -/
theorem output_named_last (h : demand arguments = .ok (.compile q)) :
    (∃ front back, Mentions arguments (front ++ .input q.input :: back)) ∧
    ∀ front back, Mentions arguments (front ++ .input q.input :: back) →
      (∀ path, .input path ∉ front ++ back) ∧
      q.output = (outputs back).getLast?.getD (Reading.outputOf q.input) ∧
      (¬ Overruled front back →
        q.output = (outputs (front ++ back)).getLast?.getD (Reading.outputOf q.input)) ∧
      ∀ arguments' front' back', front' ++ back' = front ++ back →
        Mentions arguments' (front' ++ .input q.input :: back') →
        ∃ q', demand arguments' = .ok (.compile q') ∧ q'.input = q.input ∧
          q'.settings = q.settings ∧ q'.dumps = q.dumps ∧ q'.dryRun = q.dryRun ∧
          ((∃ text, .dumpPrefix text ∈ front ++ back) → q'.dumpPrefix = q.dumpPrefix) ∧
          (¬ Overruled front back → ¬ Overruled front' back' → q' = q) := by
  constructor
  · obtain ⟨ms, hms⟩ := exists_mentions h
    have hinputs := ((makes_iff hms.converted).1 (makes_of_mentions h hms)).1
    obtain ⟨front, m, back, rfl, _, hm, _⟩ := List.filterMap_eq_cons_iff.1 hinputs
    rw [input?_eq_some_iff.1 hm] at hms
    exact ⟨front, back, hms⟩
  · intro front back hms
    obtain ⟨⟨_, hothers⟩, houtput, _⟩ :=
      (makes_iff_of_input hms.converted).1 (makes_of_mentions h hms)
    refine ⟨hothers, houtput, ?_, ?_⟩
    · intro hstands
      rw [getLast?_outputs_of_not_overruled hstands, houtput]
    · intro arguments' front' back' hmove hms'
      obtain ⟨q', hq', houtput', hinput, hsettings, hdumps, hdry, hprefixed, heq⟩ :=
        demand_of_moved_input h hms hms' hmove
      refine ⟨q', hq', hinput, hsettings, hdumps, hdry, hprefixed, fun hstands hstands' => heq ?_⟩
      rw [houtput', houtput, ← getLast?_outputs_of_not_overruled hstands,
        ← getLast?_outputs_of_not_overruled hstands', hmove]

theorem output_named_behind_input : ∃ q, demand ["-obot", "in.nfsm", "-t", "-oout"] = .ok (.compile q) ∧
    q.output = "out" ∧ ∃ front back,
      Mentions ["-obot", "in.nfsm", "-t", "-oout"] (front ++ .input q.input :: back) ∧
        q.output = (outputs back).getLast?.getD (Reading.outputOf q.input) := by
  have hrun : (match demand ["-obot", "in.nfsm", "-t", "-oout"] with
      | .ok (.compile q) => decide (q.output = "out")
      | _ => false) = true := by decide +kernel
  split at hrun
  · next q h =>
    obtain ⟨⟨front, back, hms⟩, hall⟩ := output_named_last h
    exact ⟨q, h, of_decide_eq_true hrun, front, back, hms, (hall front back hms).2.1⟩
  · cases hrun

/-- An output that is asked for in front of the input file is not made. -/
theorem output_overruled : ∃ q q', demand ["-oout", "in.nfsm"] = .ok (.compile q) ∧
    Mentions ["-oout", "in.nfsm"] [.output "out", .input "in.nfsm"] ∧ q.output = "in" ∧
    demand ["in.nfsm", "-oout"] = .ok (.compile q') ∧
    Mentions ["in.nfsm", "-oout"] [.input "in.nfsm", .output "out"] ∧ q'.output = "out" := by
  have hwritten : (Group.option 'o'.toString (String.ofList "out".toList)).WrittenAs ["-oout"] :=
    .letter (by decide) (by decide)
  have houtput : Mentions ["-oout"] [.output "out"] :=
    (Group.Says.output (by decide) (by decide)).mentions hwritten
  have hinput : Mentions ["in.nfsm"] [.input "in.nfsm"] :=
    (Group.Says.input "in.nfsm").mentions (.input (by decide) (by decide))
  have hrun : (match demand ["-oout", "in.nfsm"], demand ["in.nfsm", "-oout"] with
      | .ok (.compile q), .ok (.compile q') => decide (q.output = "in" ∧ q'.output = "out")
      | _, _ => false) = true := by decide +kernel
  split at hrun
  · next q q' hq hq' =>
    obtain ⟨hin, hout⟩ := of_decide_eq_true hrun
    exact ⟨q, q', hq, houtput.append hinput, hin, hq', hinput.append houtput, hout⟩
  · cases hrun

end ArrowMachine.Command
