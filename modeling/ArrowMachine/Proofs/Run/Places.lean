import ArrowMachine.Proofs.Run.Calls
import ArrowMachine.Proofs.Table.Storage

/-!
What a machine does depends on the rows of its table only: neither on the order in which the table lists
the states nor on where the entries stand in the source.

Over tables that are alike, every function of a search comes to the same (`Search.start_alike`), since no
snapshot holds an entry, and every call leaves machines that differ in their tables only
(`Machine.Exchanged`), which answering listeners do not notice (`Machine.blind_exchanged`). Since tables
with the same document are alike, calls come to the same over both (`Compiled.document_loses_nothing`).
-/
namespace ArrowMachine

open Search (Plan State Ending accepts)

variable {t u : Compiled}

theorem Compiled.Alike.possible (h : t.Alike u) (state : String) (head : Option String)
    (tops : List (Option String)) :
    (t.possible state head tops).map Entry.unplaced =
      (u.possible state head tops).map Entry.unplaced := by
  have hrows := congrArg (List.filter (·.filter.accepts head tops)) (h.rows state)
  rw [List.filter_map, List.filter_map] at hrows
  exact hrows

/-! ## Searches -/

namespace Search

/-- The search in another table. -/
def Plan.over (plan : Plan) (u : Compiled) : Plan := { plan with table := u }

@[simp]
theorem Plan.table_over (plan : Plan) (u : Compiled) : (plan.over u).table = u := rfl

variable {plan : Plan}

theorem accepts_alike (h : t.Alike u) (s : Snapshot) : accepts u s = accepts t s := by
  unfold accepts Compiled.accepts
  rw [h.accepting]

theorem State.spread_alike (h : plan.table.Alike u) (s : Snapshot) {es es' : List Entry}
    (hes : es.map Entry.unplaced = es'.map Entry.unplaced) (st : State) :
    spread (plan.over u) s es' st = spread plan s es st := by
  induction es generalizing es' st with
  | nil =>
    rw [List.map_eq_nil_iff.1 hes.symm]
    rfl
  | cons e es ih =>
    obtain ⟨e', rest, rfl, he, hrest⟩ := List.map_eq_cons_iff.1 hes.symm
    have happly : s.apply e' = s.apply e :=
      show s.apply e'.unplaced = s.apply e.unplaced by rw [he]
    rw [spread, spread, happly]
    cases s.apply e with
    | error fault => rfl
    | ok r => simp only [ih hrest.symm, Plan.table_over, accepts_alike h]

theorem State.expand_alike (h : plan.table.Alike u) (b : Branch) (st : State) :
    expand (plan.over u) b st = expand plan b st := by
  have hfound := h.possible b.shot.config.state b.shot.config.head? b.shot.config.tops
  have hshown : (u.possible b.shot.config.state b.shot.config.head? b.shot.config.tops).map
      Entry.shown = (plan.table.possible b.shot.config.state b.shot.config.head?
        b.shot.config.tops).map Entry.shown := by
    have hlines := congrArg (List.map Entry.shown) hfound.symm
    rw [List.map_map, List.map_map] at hlines
    exact hlines
  have hempty : (u.possible b.shot.config.state b.shot.config.head? b.shot.config.tops).isEmpty =
      (plan.table.possible b.shot.config.state b.shot.config.head? b.shot.config.tops).isEmpty := by
    simpa using congrArg List.isEmpty hfound.symm
  unfold expand atText
  simp only [Plan.table_over, hshown, hempty, spread_alike h b.shot hfound]
  rfl

theorem State.advance_alike (h : plan.table.Alike u) (st : State) :
    st.advance (plan.over u) = st.advance plan := by
  unfold advance
  simp only [expand_alike h]
  rfl

theorem State.run_alike (h : plan.table.Alike u) (fuel : Nat) (st : State) :
    st.run (plan.over u) fuel = st.run plan fuel := by
  induction fuel generalizing st with
  | zero => rfl
  | succ fuel ih =>
    rw [run, run, advance_alike h]
    cases st.advance plan with
    | error ending => rfl
    | ok st' => exact ih st'

/-- **Searching comes to the same over tables that are alike.** -/
theorem start_alike (h : plan.table.Alike u) (fuel : Nat) (s : Snapshot) :
    start (plan.over u) fuel s = start plan fuel s := by
  unfold start
  rw [State.run_alike h, Plan.table_over, accepts_alike h]

end Search

/-! ## Machines -/

namespace Machine

/-- The machine `n` is `m`, which has the table `t`, with the table `u` instead. -/
def Exchanged (t u : Compiled) (m n : Machine) : Prop := m.table = t ∧ n = { m with table := u }

variable {m n : Machine}

theorem listening_exchanged (t u : Compiled) : Listening (Exchanged t u) where
  listeners := by
    rintro m _ ⟨_, rfl⟩
    rfl
  subscribed := by
    rintro m _ ⟨_, rfl⟩
    rfl
  hears := by
    rintro m _ event ⟨htable, rfl⟩
    exact ⟨htable, rfl⟩
  leaves := by
    rintro m _ id ⟨htable, rfl⟩
    exact ⟨htable, rfl⟩

theorem tell_exchanged (m : Machine) (u : Compiled) (switch : Switch) (line : Unit → String) :
    { m with table := u }.tell switch line = { m.tell switch line with table := u } := by
  unfold tell
  simp only
  split <;> rfl

theorem firing?_exchanged (htables : t.Alike u) (htable : m.table = t) (label : String) :
    ({ m with table := u }.firing? label).map Entry.unplaced =
      (m.firing? label).map Entry.unplaced := by
  subst htable
  have hrows := congrArg
    (List.find? fun e => e.filter.input = label && e.filter.accepts (some label) m.config.tops)
    (htables.rows m.config.state)
  rw [List.find?_map, List.find?_map] at hrows
  exact hrows.symm

theorem refuse_exchanged (htables : t.Alike u) (h : Exchanged t u m n) (label : String) :
    SameTurn (Exchanged t u) (m.refuse label) (n.refuse label) := by
  obtain ⟨rfl, rfl⟩ := h
  unfold refuse
  simp only [← htables.labels, tell_exchanged]
  split
  · exact ⟨⟨rfl, rfl⟩, rfl⟩
  · obtain ⟨told, htold⟩ := tell_eq m .verboseDispatch fun _ =>
      "ignoring invalid action '" ++ label ++ "' from state '" ++ m.config.state ++ "'"
    rw [htold]
    exact ⟨⟨rfl, rfl⟩, rfl⟩

theorem firesAlike_exchanged (htables : t.Alike u) : FiresAlike Eq (Exchanged t u) := by
  intro label m n h
  have hrefuse := refuse_exchanged htables h label
  obtain ⟨htable, rfl⟩ := h
  have hfiring := firing?_exchanged htables htable label
  rw [fired, fired]
  cases hm : m.firing? label with
  | none =>
    rw [hm, Option.map_none, Option.map_eq_none_iff] at hfiring
    rw [hfiring]
    exact ⟨hrefuse, .nil⟩
  | some e =>
    rw [hm, Option.map_some] at hfiring
    obtain ⟨e', hn, he⟩ := Option.map_eq_some_iff.1 hfiring
    have haction : e'.action = e.action := congrArg (·.action) he
    have hlabel : e'.label = e.label := congrArg (·.label) he
    obtain ⟨told, htold⟩ := tell_eq m .verboseDispatch fun _ =>
      "dispatch '" ++ label ++ "': " ++ m.config.state ++ " -> " ++ e.action.target
    rw [hn]
    simp only [haction, hlabel, tell_exchanged, htold]
    cases e.action.apply false m.config with
    | error fault => exact ⟨⟨⟨htable, rfl⟩, rfl⟩, .nil⟩
    | ok c => exact ⟨⟨⟨htable, rfl⟩, rfl⟩, .cons rfl .nil⟩

/-- **Dispatching does not tell apart tables that are alike,** nor do the answers of listeners, which are
dispatched. -/
theorem blind_exchanged (htables : t.Alike u) (depth : Nat) :
    Blind (Exchanged t u) (dispatch depth) :=
  ⟨listening_exchanged t u, (listening_exchanged t u).tuned.dispatch (firesAlike_exchanged htables) depth⟩

theorem consume_exchanged (htables : t.Alike u) (h : Exchanged t u m n) (fuel depth : Nat)
    (w : List String) :
    SameTurn (Exchanged t u) (m.consume fuel depth w) (n.consume fuel depth w) := by
  obtain ⟨rfl, rfl⟩ := h
  have hplan : m.plan.table.Alike u := htables
  have hstart : Search.start { m with table := u }.plan fuel ({ m with table := u }.seed w) =
      Search.start m.plan fuel (m.seed w) := Search.start_alike hplan fuel (m.seed w)
  rw [consume_eq, consume_eq, hstart]
  rcases Search.start m.plan fuel (m.seed w) with _ | ⟨outcome, told⟩
  · exact ⟨⟨rfl, rfl⟩, rfl⟩
  · cases outcome with
    | settled verdict s =>
      exact (blind_exchanged htables depth).notifyAll
        (m := { m with told := m.told ++ told }.takeOver s) ⟨rfl, rfl⟩ s.history
    | noChannel channel => exact ⟨⟨rfl, rfl⟩, rfl⟩

theorem startConfig_alike (h : t.Alike u) : startConfig u = startConfig t := by
  rw [startConfig, startConfig, h.initial, h.stackCount]

end Machine

open Machine (Exchanged SameTurn)

theorem Call.turn_exchanged (htables : t.Alike u) {m n : Machine} (h : Exchanged t u m n)
    (fuel depth : Nat) (call : Call) :
    SameTurn (Exchanged t u) (call.turn fuel depth m) (call.turn fuel depth n) := by
  obtain ⟨htable, rfl⟩ := h
  cases call with
  | reset =>
    refine ⟨⟨htable, ?_⟩, rfl⟩
    simp [Call.turn, Machine.reset, Machine.startConfig_alike htables, htable]
  | dispatch label strict =>
    exact (Machine.blind_exchanged htables (depth + 1)).answers label { m with strict } _ ⟨htable, rfl⟩
  | consume input maxSteps prune =>
    exact Machine.consume_exchanged htables
      (m := { m with maxSteps, settings := m.settings.turn .pruneRevisited prune }) ⟨htable, rfl⟩
      fuel depth input

/-- **Calls come to the same over tables that are alike.** -/
theorem Machine.turns_exchanged (htables : t.Alike u) {m n : Machine} (h : Exchanged t u m n)
    (fuel depth : Nat) (calls : List Call) :
    List.Forall₂ (SameTurn (Exchanged t u)) (m.turns fuel depth calls) (n.turns fuel depth calls) := by
  induction calls generalizing m n with
  | nil => exact .nil
  | cons call calls ih =>
    have hcall := call.turn_exchanged htables h fuel depth
    exact .cons hcall (ih hcall.1)

namespace Compiled

open Machine (startConfig)

/-- **The document form loses nothing but places.** What was compiled or loaded is loaded again from its
document with all that it was stored with: the initial and the accepting states, the number of stacks, the
states and the labels, and the rows of every state in their order, of which only the places in the source
are gone. Stored again it gives the same document. Over two tables with the same document machines start in
the same configuration, and whatever calls are made of a machine, and whoever listens, each of them comes
to the same over both: it fails alike and leaves machines that differ in their tables only, with the same
configuration, mark, notices and trace. -/
theorem document_loses_nothing {t : Compiled} (ht : t.Obtained) :
    (∃ u, ofDocument t.toDocument = .ok u ∧ u.initial = t.initial ∧ u.accepting = t.accepting ∧
      u.stackCount = t.stackCount ∧ u.states = t.states ∧ u.labels = t.labels ∧
      u.transitions = t.transitions.map (fun row =>
        (row.1, row.2.map fun e => { e with pos := none })) ∧
      u.toDocument = t.toDocument) ∧
    ∀ u : Compiled, t.toDocument.Same u.toDocument → startConfig u = startConfig t ∧
      ∀ (m : Machine) (fuel depth : Nat) (calls : List Call), m.table = t →
        List.Forall₂ (fun a b => b.machine = { a.machine with table := u } ∧ b.error = a.error)
          (m.turns fuel depth calls) ({ m with table := u }.turns fuel depth calls) := by
  refine ⟨⟨t.unplaced, ofDocument_toDocument ht.accepting, rfl, rfl, rfl, rfl, rfl, rfl,
    toDocument_unplaced t⟩, fun u hu => ?_⟩
  have htables := alike_of_same hu
  refine ⟨Machine.startConfig_alike htables, fun m fuel depth calls htable => ?_⟩
  exact (Machine.turns_exchanged htables ⟨htable, rfl⟩ fuel depth calls).imp
    fun a b h => ⟨h.1.2, h.2.symm⟩

/-- What is loaded for `circle` is another table, over which calls come to the same. -/
theorem circle_loaded : ∃ u, ofDocument circle.toDocument = .ok u ∧ u ≠ circle ∧
    u.toDocument = circle.toDocument ∧ ∀ calls, List.Forall₂
      (fun a b => b.machine = { a.machine with table := u } ∧ b.error = a.error)
      ((Machine.new circle {} none (some 6)).turns 9 0 calls)
      ((Machine.new u {} none (some 6)).turns 9 0 calls) := by
  have hcompiled : (compileStatements .ample {} circling).result = .ok circle := by cbv
  obtain ⟨⟨u, hload, _, _, _, _, _, htransitions, hdocument⟩, hsame⟩ :=
    document_loses_nothing (.compiled hcompiled)
  obtain ⟨hstart, hcalls⟩ := hsame u (hdocument ▸ .refl _)
  refine ⟨u, hload, ?_, hdocument, fun calls => ?_⟩
  · rintro rfl
    exact absurd htransitions (by decide)
  · have hnew : ({ Machine.new circle {} none (some 6) with table := u } : Machine) =
        Machine.new u {} none (some 6) := by simp [Machine.new, hstart]
    rw [← hnew]
    exact hcalls (Machine.new circle {} none (some 6)) 9 0 calls rfl

end Compiled

end ArrowMachine
