import ArrowMachine.Proofs.Table.Rows

/-!
What the entries of a compiled table were made from.

Every entry of a compiled table is a transition as `Action.build` lowers it, to a state of the table and
with no more channels than the table has (`isLowered_of_compiled`). So its operations address channels of
the table only (`Action.mem_build`), and its filter asks for the very label that it takes.
-/
namespace ArrowMachine

/-! ## Channels of a lowered transition -/

namespace Action

theorem mem_pops {cs : List ChannelOp} {i : Nat} {op : Op} (h : op ∈ pops cs i) :
    ∃ j, i ≤ j ∧ j < i + cs.length ∧ op = .pop j := by
  induction cs generalizing i with
  | nil => cases h
  | cons c cs ih =>
    rcases List.mem_append.1 h with h | h
    · split at h
      · exact ⟨i, Nat.le_refl _, by simp, List.mem_singleton.1 h⟩
      · cases h
    · obtain ⟨j, hle, hlt, rfl⟩ := ih h
      exact ⟨j, by omega, by rw [List.length_cons]; omega, rfl⟩

theorem mem_pushes {cs : List ChannelOp} {i : Nat} {op : Op} (h : op ∈ pushes cs i) :
    ∃ j value, i ≤ j ∧ j < i + cs.length ∧ op = .push j value := by
  induction cs generalizing i with
  | nil => cases h
  | cons c cs ih =>
    rcases List.mem_append.1 h with h | h
    · obtain ⟨value, _, rfl⟩ := Option.map_eq_some_iff.1 (Option.mem_toList.1 h)
      exact ⟨i, value, Nat.le_refl _, by simp, rfl⟩
    · obtain ⟨j, value, hle, hlt, rfl⟩ := ih h
      exact ⟨j, value, by omega, by rw [List.length_cons]; omega, rfl⟩

/-- A lowered transition takes a symbol, works on its channels and goes to its target, in that order. -/
theorem build_ops (target input : String) (cs : List ChannelOp) :
    ∃ middle, (build target input cs).ops =
        (if input = epsilon then [] else [.consume]) ++ middle ++ [.set target] ∧
      ∀ op ∈ middle, ∃ j : Nat, j < cs.length ∧ op.channel? = some (j : Int) := by
  refine ⟨pops cs 0 ++ pushes cs 0, by simp [build], ?_⟩
  intro op hop
  rcases List.mem_append.1 hop with hop | hop
  · obtain ⟨j, _, hlt, rfl⟩ := mem_pops hop
    exact ⟨j, by omega, rfl⟩
  · obtain ⟨j, value, _, hlt, rfl⟩ := mem_pushes hop
    exact ⟨j, by omega, rfl⟩

/-- Each operation of a lowered transition takes a symbol, works on one of its channels, or goes to its
target. -/
theorem mem_build {target input : String} {cs : List ChannelOp} {op : Op}
    (h : op ∈ (build target input cs).ops) :
    op = .consume ∨ (∃ j : Nat, j < cs.length ∧ op.channel? = some (j : Int)) ∨
      op = .set target := by
  obtain ⟨middle, hops, hmiddle⟩ := build_ops target input cs
  rw [hops] at h
  rcases List.mem_append.1 h with h | h
  · rcases List.mem_append.1 h with h | h
    · split at h
      · cases h
      · exact Or.inl (List.mem_singleton.1 h)
    · exact Or.inr (Or.inl (hmiddle op h))
  · exact Or.inr (Or.inr (List.mem_singleton.1 h))

end Action

/-! ## Entries of a compiled table -/

/-- An entry made from a transition to `target` with the operations `ops`, for `count` channels. -/
structure Entry.Lowered (count : Nat) (target : String) (ops : List ChannelOp) (e : Entry) :
    Prop where
  filter : e.filter = (⟨e.label, ops.map (·.read)⟩ : Filter).padded count
  action : e.action = .build target e.label ops
  narrow : ops.length ≤ count

/-- A table of entries that were lowered, between states of the table. -/
structure Compiled.IsLowered (t : Compiled) : Prop where
  initial : t.initial ∈ t.states
  source : ∀ state, t.entriesFor state ≠ [] → state ∈ t.states
  entry : ∀ state, ∀ e ∈ t.entriesFor state,
    ∃ target ∈ t.states, ∃ ops, e.Lowered t.stackCount.toNat target ops

namespace Program

variable {p : Program}

/-- The channels that are counted suffice for the reads of every edge. -/
theorem length_reads_le_channelCount {i : Nat} {e : Edge} (h : p.Has i e) (least : Int) :
    (e.entry.filter.reads.length : Int) ≤ p.channelCount least := by
  obtain ⟨x, hx, he⟩ := h
  have he : e ∈ p.rules.flatMap (·.edges) :=
    List.mem_flatMap.2 ⟨x, List.mem_of_getElem? hx, he⟩
  have hgrows : ∀ (es : List Edge) (n : Int), n ≤ es.foldl
      (fun n e => max (max n e.entry.filter.reads.length) e.entry.action.channelsUsed) n := by
    intro es
    induction es with
    | nil => exact fun n => le_refl n
    | cons f es ih => exact fun n => ((le_max_left n _).trans (le_max_left _ _)).trans (ih _)
  unfold channelCount
  generalize p.rules.flatMap (·.edges) = es at he
  induction es generalizing least with
  | nil => cases he
  | cons f es ih =>
    rw [List.foldl_cons]
    rcases List.mem_cons.1 he with rfl | he
    · exact ((le_max_right least _).trans (le_max_left _ _)).trans (hgrows es _)
    · exact ih _ he

theorem initial_mem_states {ss : List Statement} (h : ss.mapM Statement.expand = .ok p.rules)
    {initial : String} (hinitial : p.initialState = .ok initial) : initial ∈ p.states := by
  have hname : initial ∈ (p.initial.map (·.name)).eraseDups := by
    unfold initialState at hinitial
    split at hinitial
    · cases hinitial
    · next name hnames =>
      obtain rfl : name = initial := Except.ok.inj hinitial
      rw [hnames]
      exact List.mem_singleton_self _
    · cases hinitial
  obtain ⟨q, hq, rfl⟩ := List.mem_map.1 (List.mem_eraseDups.1 hname)
  obtain ⟨x, hx, hq⟩ := List.mem_flatMap.1 hq
  obtain ⟨s, hs, hexpand⟩ := exists_of_mem_expanded h hx
  rw [(Statement.expand_eq_ok_iff.1 hexpand).initial] at hq
  exact (mem_states h).2 ⟨s, hs, q, Statement.mem_stateParts.1 (List.mem_filter.1 hq).1, rfl⟩

end Program

/-- **Every row was written.** It is a transition of some statement, lowered to a state of the table. -/
theorem exists_written_of_compiled {cap : Capacity} {settings : Settings} {ss : List Statement} {t : Compiled}
    (h : (compileStatements cap settings ss).result = .ok t) {state : String} {e : Entry}
    (he : e ∈ t.entriesFor state) :
    ∃ s ∈ ss, ∃ u, Part.transition u ∈ s.parts ∧ e.label = u.label ∧
      ∃ target ∈ t.states, e.Lowered t.stackCount.toNat target u.ops := by
  obtain ⟨rules, initial, hrules, _, _, rfl⟩ := merged_of_compiled h
  let p : Program := ⟨rules⟩
  obtain ⟨c, hc, _, rfl⟩ := Program.exists_of_mem_entriesFor_table he
  obtain ⟨edge, hhas, hentry⟩ := Program.exists_has_of_claim hc
  have hwidth := Program.length_reads_le_channelCount hhas settings.stackCount
  obtain ⟨x, hx, hedge⟩ := hhas
  obtain ⟨s, hs, hexpand⟩ := exists_of_mem_expanded hrules (List.mem_of_getElem? hx)
  obtain ⟨_, u, target, hamong⟩ := Statement.expand_edge hexpand hedge
  rw [← hentry, hamong.entry]
  rw [hamong.entry] at hwidth
  have htarget : target.name ∈ p.states :=
    (Program.mem_states (p := p) hrules).2 ⟨s, hs, target, hamong.target_mem, rfl⟩
  refine ⟨s, hs, u, hamong.transition_mem, rfl, target.name, htarget, rfl, rfl, ?_⟩
  have hreads : (u.entry target.name).filter.reads.length = u.ops.length := by
    simp [TransitionPart.entry, TransitionPart.filter]
  change u.ops.length ≤ ((⟨rules⟩ : Program).channelCount settings.stackCount).toNat
  omega

/-- **Compiled tables are lowered.** -/
theorem isLowered_of_compiled {cap : Capacity} {settings : Settings} {ss : List Statement} {t : Compiled}
    (h : (compileStatements cap settings ss).result = .ok t) : t.IsLowered := by
  have hwritten : ∀ state, ∀ e ∈ t.entriesFor state,
      ∃ target ∈ t.states, ∃ ops, e.Lowered t.stackCount.toNat target ops := by
    intro state e he
    obtain ⟨_, _, u, _, _, target, htarget, hlowered⟩ := exists_written_of_compiled h he
    exact ⟨target, htarget, u.ops, hlowered⟩
  obtain ⟨rules, initial, hrules, _, hinitial, rfl⟩ := merged_of_compiled h
  let p : Program := ⟨rules⟩
  refine ⟨Program.initial_mem_states (p := p) hrules hinitial, ?_, hwritten⟩
  intro state hsome
  obtain ⟨e, he⟩ := List.exists_mem_of_ne_nil _ hsome
  obtain ⟨c, hc, rfl, _⟩ := Program.exists_of_mem_entriesFor_table he
  exact Program.claims_state_mem (p := p) hrules hc

end ArrowMachine
