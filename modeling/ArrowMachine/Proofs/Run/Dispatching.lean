import ArrowMachine.Proofs.Run.Driving
import ArrowMachine.Proofs.Run.Effect

/-!
Dispatching a label.

A label meets the rows of the current state that take it and whose reads fit the stacks. A dispatch fires
the first row that its label meets (`Machine.firing?_eq_some_iff`), which does what its transition does by
the book when the label stands before the input (`Machine.exists_firesTo`), and everyone is told of that
one step. Where the label meets no row, a dispatch leaves all as it was, and a strict machine refuses it as
unknown if no arrow of the text is written with it (`Machine.dispatch_is_one_step`).
-/
namespace ArrowMachine

/-! ## Labels of a text -/

/-- An arrow of the rules is written with the label. -/
def Rule.Written (rules : List Rule.Spelling) (label : String) : Prop :=
  ∃ s ∈ rules, ∃ a ∈ s.arrows, a.body.label.text = label

/-- The labels of a table are those of the transitions of its statements. -/
theorem mem_labels_of_compiled {cap : Capacity} {settings : Settings} {ss : List Statement} {t : Compiled}
    (h : (compileStatements cap settings ss).result = .ok t) {label : String} :
    label ∈ t.labels ↔ ∃ s ∈ ss, ∃ u, Part.transition u ∈ s.parts ∧ u.label = label := by
  obtain ⟨rules, initial, hrules, _, rfl⟩ := compiled_iff.1 h
  have hexpansion : ∀ {s : Statement} {x : Expansion}, s.expand = .ok x →
      (label ∈ x.labels ↔ ∃ u, Part.transition u ∈ s.parts ∧ u.label = label) := by
    intro s x hx
    rw [(Statement.expand_eq_ok_iff.1 hx).labels, List.mem_eraseDups, List.mem_filterMap]
    constructor
    · rintro ⟨part, hpart, hlabel⟩
      cases part with
      | transition u => exact ⟨u, hpart, Option.some.inj hlabel⟩
      | state q => cases hlabel
      | wildcard w => cases hlabel
    · rintro ⟨u, hu, rfl⟩
      exact ⟨_, hu, rfl⟩
  change label ∈ (rules.flatMap (·.labels)).eraseDups ↔ _
  rw [List.mem_eraseDups, List.mem_flatMap]
  constructor
  · rintro ⟨x, hx, hlabel⟩
    obtain ⟨s, hs, hexpand⟩ := exists_of_mem_expanded hrules hx
    exact ⟨s, hs, (hexpansion hexpand).1 hlabel⟩
  · rintro ⟨s, hs, hlabel⟩
    obtain ⟨x, hx, hexpand⟩ := exists_expanded_of_mem hrules hs
    exact ⟨x, hx, (hexpansion hexpand).2 hlabel⟩

/-- **The labels of a table are those that the arrows of its text are written with.** -/
theorem exists_written_of_compile {cap : Capacity} {settings : Settings} {source : String} {t : Compiled}
    (h : (compile cap settings source).result = .ok t) :
    ∃ rules, Rule.spellings source = .ok rules ∧ ∀ label, label ∈ t.labels ↔ Rule.Written rules label := by
  obtain ⟨ss, hss, hstatements⟩ := exists_statements_of_compile h
  obtain ⟨rules, hread, hall⟩ := Rule.exists_spellings_of_statementsOf hss
  refine ⟨rules, hread, fun label => (mem_labels_of_compiled hstatements).trans ?_⟩
  constructor
  · rintro ⟨st, hst, u, hu, rfl⟩
    obtain ⟨s, hs, hmeant⟩ := exists_of_mem_right hall hst
    obtain ⟨a, ha, rfl⟩ := hmeant.mem_transitions.1 hu
    exact ⟨s, hs, a, ha, rfl⟩
  · rintro ⟨s, hs, a, ha, rfl⟩
    obtain ⟨st, hst, hmeant⟩ := exists_of_mem_left hall hs
    exact ⟨st, hst, a.said, hmeant.mem_transitions.2 ⟨a, ha, rfl⟩, rfl⟩

/-! ## The row that a label fires -/

namespace Machine

/-- The row takes the label, and its reads fit the stacks. -/
def Meets (m : Machine) (label : String) (row : Entry) : Prop :=
  row.filter.input = label ∧ row.filter.accepts (some label) m.config.tops = true

/-- Of the rows of the current state, in the order of the table, this is the first that the label meets. -/
def MeetsFirst (m : Machine) (label : String) (row : Entry) : Prop :=
  m.Meets label row ∧ ∃ before after,
    m.table.entriesFor m.config.state = before ++ row :: after ∧ ∀ r ∈ before, ¬ m.Meets label r

/-- Firing the row leads to `c`, which is what its operations make of the configuration when none of them
takes input. If the label stood before the input, the transition would lead there by the book. -/
structure FiresTo (m : Machine) (label : String) (row : Entry) (c : Configuration) : Prop where
  apply : row.action.apply false m.config = .ok c
  effect : ∃ ops, row.Lowered m.table.stackCount.toNat row.action.target ops ∧
    (m.fed (taken label ++ m.config.input)).Exchanged label row.action.target ops c
  input : c.input = m.config.input

/-- What is told of a step on the label to `c`. -/
def stepTo (label : String) (c : Configuration) : Step := ⟨c.state, label, c.channels⟩

/-- A dispatch goes to `c`, is no longer halted and tells everyone of this one step. If nobody answers by
a dispatch, it is over then: whoever was subscribed has heard of the step, each subscription once. -/
structure StepsTo (m : Machine) (depth : Nat) (label : String) (c : Configuration) : Prop where
  told : ∃ told, dispatch (depth + 1) label m =
    notify (dispatch depth) (stepTo label c) { m with config := c, halted := false, told }
  quiet : m.Quiet → ∃ told, dispatch (depth + 1) label m =
    ⟨{ m with
        config := c, halted := false, told
        heard := m.heard ++ (notices m.subscribed (stepTo label c)).toArray
        subscribed := m.subscribed.filter m.stays }, none⟩

/-- A dispatch leaves all but the trace as it was, and fails if the machine is strict: with a message that
calls the label unknown, if no arrow of the rules is written with it. -/
structure Declines (m : Machine) (depth : Nat) (label : String) (rules : List Rule.Spelling) : Prop where
  machine : ∃ told, (dispatch (depth + 1) label m).machine = { m with told }
  lenient : m.strict = false → (dispatch (depth + 1) label m).error = none
  strict : m.strict = true → ∃ known,
    (dispatch (depth + 1) label m).error = some (.invalidAction label m.config.state known) ∧
    ((MachineError.invalidAction label m.config.state known).message =
      "Unknown action '" ++ label ++ "'" ↔ ¬ Rule.Written rules label)

variable {m : Machine} {label : String} {row : Entry}

theorem firing?_eq_some_iff : m.firing? label = some row ↔ m.MeetsFirst label row := by
  unfold firing? MeetsFirst Meets
  rw [List.find?_eq_some_iff_append]
  simp only [Bool.and_eq_true, decide_eq_true_eq, Bool.not_eq_true', Bool.and_eq_false_imp,
    Bool.not_eq_true, not_and]

theorem firing?_eq_none_iff :
    m.firing? label = none ↔ ∀ row ∈ m.table.entriesFor m.config.state, ¬ m.Meets label row := by
  unfold firing? Meets
  simp only [List.find?_eq_none, Bool.and_eq_true, decide_eq_true_eq]

/-- **A row that a label meets can be fired**, and does what its transition does by the book. -/
theorem exists_firesTo (ht : m.table.IsLowered) (hm : m.config.Over m.table)
    (hrow : row ∈ m.table.entriesFor m.config.state) (hmeets : m.Meets label row) :
    ∃ c, m.FiresTo label row c ∧ c.state = row.action.target := by
  obtain ⟨target, _, ops, hlowered⟩ := ht.entry _ row hrow
  obtain rfl : row.action.target = target := by rw [hlowered.action]; rfl
  obtain ⟨hinput, haccepts⟩ := hmeets
  obtain rfl : row.label = label := by rw [← hinput, hlowered.filter]; rfl
  obtain ⟨_, hreads⟩ := hlowered.meets haccepts
  let fed : Configuration := m.fed (taken row.label ++ m.config.input)
  have hnarrow : ops.length ≤ fed.channels.length := hlowered.narrow.trans hm.channels.ge
  have hexchanged : fed.Exchanged row.label row.action.target ops
      (Action.outcome row.action.target row.label ops fed) := by
    refine Action.exchanged_outcome _ hreads fun hne => ?_
    change (taken row.label ++ m.config.input).head? = some row.label
    rw [taken, if_neg hne]
    rfl
  have hrest : (Action.outcome row.action.target row.label ops fed).input = m.config.input :=
    (List.append_cancel_left hexchanged.input).symm
  have happly : row.action.apply true fed =
      .ok (Action.outcome row.action.target row.label ops fed) := by
    have hbuild := Action.apply_build row.action.target row.label hnarrow
    rwa [← hlowered.action] at hbuild
  have hwithout : row.action.apply false m.config =
      .ok { Action.outcome row.action.target row.label ops fed with input := m.config.input } :=
    Op.applyAll_without_consume happly m.config.input
  rw [← hrest] at hwithout
  exact ⟨_, ⟨hwithout, ⟨ops, hlowered, hexchanged⟩, hrest⟩, hexchanged.state⟩

theorem stepsTo_of_firing? (hfiring : m.firing? label = some row) (hlabel : row.label = label)
    {c : Configuration} (happly : row.action.apply false m.config = .ok c) (depth : Nat) :
    m.StepsTo depth label c := by
  subst hlabel
  have htold : ∃ told, dispatch (depth + 1) row.label m = notify (dispatch depth) (stepTo row.label c)
      { m with config := c, halted := false, told } := by
    obtain ⟨told, htell⟩ := tell_eq m .verboseDispatch fun _ =>
      "dispatch '" ++ row.label ++ "': " ++ m.config.state ++ " -> " ++ row.action.target
    refine ⟨told, ?_⟩
    rw [dispatch, hfiring]
    simp only [htell, happly]
    rfl
  refine ⟨htold, fun hquiet => ?_⟩
  obtain ⟨told, htold⟩ := htold
  have hstill : Quiet { m with config := c, halted := false, told } := hquiet
  exact ⟨told, htold.trans (notify_of_quiet hstill _ _)⟩

/-- The two ways to refuse a label are told apart by how they begin. -/
theorem unknown_message_iff (label state : String) (known : Bool) :
    (MachineError.invalidAction label state known).message = "Unknown action '" ++ label ++ "'" ↔
      known = false := by
  cases known with
  | false => exact ⟨fun _ => rfl, fun _ => rfl⟩
  | true =>
    refine ⟨fun h => ?_, fun h => nomatch h⟩
    change "Invalid action '" ++ label ++ "' from state '" ++ state ++ "'" = _ at h
    have hfirst := congrArg (fun s : String => s.toList.head?) h
    simp only [String.append_assoc, String.toList_append, List.head?_append] at hfirst
    change some 'I' = some 'U' at hfirst
    exact absurd hfirst (by decide)

theorem declines_of_not_firing? {rules : List Rule.Spelling} (hfiring : m.firing? label = none)
    (hlabels : label ∈ m.table.labels ↔ Rule.Written rules label) (depth : Nat) :
    m.Declines depth label rules := by
  have hdispatch : dispatch (depth + 1) label m = m.refuse label := by rw [dispatch, hfiring]
  obtain ⟨told, htell⟩ := tell_eq m .verboseDispatch fun _ =>
    "ignoring invalid action '" ++ label ++ "' from state '" ++ m.config.state ++ "'"
  cases hstrict : m.strict with
  | true =>
    rw [refuse, if_pos hstrict] at hdispatch
    refine ⟨⟨m.told, by rw [hdispatch]⟩, fun h => (by simp [hstrict] at h), fun _ =>
      ⟨m.table.labels.contains label, by rw [hdispatch], ?_⟩⟩
    rw [unknown_message_iff, ← hlabels]
    simp
  | false =>
    rw [refuse, if_neg (by simp [hstrict]), htell] at hdispatch
    exact ⟨⟨told, by rw [hdispatch]⟩, fun _ => by rw [hdispatch], fun h => (by simp [hstrict] at h)⟩

/-- A new or reset machine over a compiled table is sound. -/
theorem sound_of_start {cap : Capacity} {settings : Settings} {ss : List Statement} {source : String} {t : Compiled}
    (hss : statementsOf cap source = .ok ss) (h : (compileStatements cap settings ss).result = .ok t)
    (htable : m.table = t) (hconfig : m.config = startConfig t) (hhalted : m.halted = false) :
    m.Sound t [] := by
  obtain ⟨_, _, hform⟩ := wellFormed_of_statementsOf hss h
  refine sound_of_over htable hform.nonneg ?_ (by rw [hconfig]; exact List.suffix_rfl)
    fun hstuck => absurd hstuck (by simp [hhalted])
  rw [hconfig]
  exact over_startConfig (isLowered_of_compiled h)

/-- **A dispatch is one step or none.** Whatever calls were made of a machine before, strict or not: if its
label meets a row of the current state, then the first such row, in the order of the table, is fired. The
state is the target, each stack has lost what is read off it and gained what is written to it, the input
stays, the machine is not halted, and everyone is told of this one step. If the label meets no row, all is
left as it was, nobody is told anything, and a strict machine refuses the label, which it calls unknown
exactly if no arrow of the text is written with it. -/
theorem dispatch_is_one_step {cap : Capacity} {settings : Settings} {source : String} {t : Compiled}
    (hcompiled : (compile cap settings source).result = .ok t) (m : Machine) (htable : m.table = t)
    (hconfig : m.config = startConfig t) (hhalted : m.halted = false) (fuel depth : Nat)
    (calls : List Call)
    (hreturns : ∀ turn ∈ m.turns fuel depth calls, turn.error ≠ some .endless) (strict : Bool)
    (label : String) :
    let n : Machine := { m.after fuel depth calls with strict }
    ((∃ row ∈ n.table.entriesFor n.config.state, n.Meets label row) →
      ∃ row c, n.MeetsFirst label row ∧ n.FiresTo label row c ∧ n.StepsTo depth label c) ∧
    ((∀ row ∈ n.table.entriesFor n.config.state, ¬ n.Meets label row) →
      ∃ rules, Rule.spellings source = .ok rules ∧ n.Declines depth label rules) := by
  intro n
  obtain ⟨ss, hss, hstatements⟩ := exists_statements_of_compile hcompiled
  have ht := isLowered_of_compiled hstatements
  have hsound : (m.after fuel depth calls).Sound t (calls.foldl Call.given []) :=
    (sound_of_start hss hstatements htable hconfig hhalted).after ht hreturns
  have htable' : n.table = t := hsound.table
  constructor
  · rintro ⟨row, hrow, hmeets⟩
    cases hfiring : n.firing? label with
    | none => exact absurd hmeets (firing?_eq_none_iff.1 hfiring row hrow)
    | some first =>
      have hfirst := firing?_eq_some_iff.1 hfiring
      have hmem := firing?_mem hfiring
      obtain ⟨c, hfires, hstate⟩ := exists_firesTo (htable' ▸ ht) (htable' ▸ hsound.over) hmem hfirst.1
      have hlabel : first.label = label := by
        obtain ⟨_, _, ops, hlowered⟩ := ht.entry _ first (htable' ▸ hmem)
        rw [← hfirst.1.1, hlowered.filter]
        rfl
      exact ⟨first, c, hfirst, hfires, stepsTo_of_firing? hfiring hlabel hfires.apply depth⟩
  · intro hnone
    obtain ⟨rules, hread, hlabels⟩ := exists_written_of_compile hcompiled
    exact ⟨rules, hread, declines_of_not_firing? (firing?_eq_none_iff.2 hnone)
      (htable' ▸ hlabels label) depth⟩

/-- Behind an `a`, a machine over `anbn` steps to `q1` on epsilon, of which its listener is told, and does
not take a `b`. -/
theorem anbn_dispatches :
    let m := (Machine.new anbn {} none none).subscribe { id := "ear" }
    let n : Machine := { m.after 20 0 [.dispatch "a" false] with strict := true }
    (∃ row c, n.MeetsFirst "_" row ∧ n.FiresTo "_" row c ∧ n.StepsTo 0 "_" c) ∧
    (∃ rules, n.Declines 0 "b" rules) ∧
    (dispatch 1 "_" n).machine.heard =
      #[⟨"ear", ⟨"q0", "a", [["a"]]⟩⟩, ⟨"ear", ⟨"q1", "_", [["a"]]⟩⟩] := by
  intro m n
  have hcompiled : (compile .ample {} ".q0 -[a]a> q0 -_> (q1) -[b,a]> q1;").result = .ok anbn := by
    decide +kernel
  have hreturns : ∀ turn ∈ m.turns 20 0 [.dispatch "a" false], turn.error ≠ some .endless := by
    have herrors : (m.turns 20 0 [.dispatch "a" false]).map (·.error) = [none] := by cbv
    intro turn hturn hendless
    have herror := List.mem_map_of_mem (f := (·.error)) hturn
    simp [herrors, hendless] at herror
  have hconfig : n.config = ⟨"q0", [["a"]], []⟩ := by cbv
  have htable : n.table = anbn := by cbv
  have hsteps := fun label =>
    dispatch_is_one_step hcompiled m rfl rfl rfl 20 0 [.dispatch "a" false] hreturns true label
  refine ⟨(hsteps "_").1 ?_, ?_, by cbv⟩
  · change ∃ row ∈ n.table.entriesFor n.config.state, n.Meets "_" row
    unfold Meets
    rw [htable, hconfig]
    decide
  · have hnone : ∀ row ∈ n.table.entriesFor n.config.state, ¬ n.Meets "b" row := by
      unfold Meets
      rw [htable, hconfig]
      decide
    obtain ⟨rules, _, hdeclines⟩ := (hsteps "b").2 hnone
    exact ⟨rules, hdeclines⟩

end Machine

end ArrowMachine
