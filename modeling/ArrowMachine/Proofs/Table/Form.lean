import ArrowMachine.Proofs.Rule.Meaning
import ArrowMachine.Proofs.Table.Compiling
import ArrowMachine.Proofs.Table.Lowering

/-!
The form of compiled tables.

`Compiled.WellFormed` gathers what holds of every table that a text compiles to (`compiled_wellFormed`).
That no two rows of a state are the same needs three checks together: two edges that make rows of one
state under one filter key start at the same kind of place (`Program.Yields.alike`), so different
statements would be in conflict (`Program.Fit.rule_eq`) and one statement would repeat itself.
-/
namespace ArrowMachine

/-! ## Keys and labels -/

/-- Adding absent reads does not change what conflicts are found by. -/
theorem Filter.key_padded (f : Filter) (count : Nat) : (f.padded count).key = f.key := by
  have hnone : ∀ (rs : List (Option String)) (n : Nat),
      trimReads (rs ++ List.replicate n none) = trimReads rs := by
    intro rs n
    unfold trimReads
    rw [List.reverse_append, List.reverse_replicate, List.dropWhile_append_of_pos]
    simp
  unfold key padded
  rw [List.map_append, List.map_replicate]
  exact congrArg _ (hnone _ _)

namespace Program

variable {p : Program} {cap : Capacity} {settings : Settings} {initial state : String} {i j : Nat} {d e : Edge}

/-- Every edge was written, by a statement that mentions its target and has its label. -/
theorem Has.among {ss : List Statement} (h : ss.mapM Statement.expand = .ok p.rules) (he : p.Has i e) :
    ∃ s ∈ ss, ∃ x ∈ p.rules, s.expand = .ok x ∧ e ∈ x.edges ∧
      ∃ source t target, e.Among s.parts source t target := by
  obtain ⟨x, hx, hedge⟩ := he
  have hx := List.mem_of_getElem? hx
  obtain ⟨s, hs, hexpand⟩ := exists_of_mem_expanded h hx
  exact ⟨s, hs, x, hx, hexpand, hedge, Statement.expand_edge hexpand hedge⟩

theorem Has.label_eq {ss : List Statement} (h : ss.mapM Statement.expand = .ok p.rules)
    (he : p.Has i e) : e.entry.label = e.entry.filter.input := by
  obtain ⟨_, _, _, _, _, _, _, _, _, hamong⟩ := he.among h
  rw [hamong.entry]
  rfl

/-! ## Rows of one state under one key -/

/-- Two edges that make rows of one state under one filter key both start there, or both at wildcards
that contend for it. -/
theorem Yields.alike (hd : p.Yields state d) (he : p.Yields state e) (hhas : ∃ i, p.Has i d)
    (hhas' : ∃ i, p.Has i e) (hlabel : d.entry.label = e.entry.label) :
    (d.origin = .state state ∧ e.origin = .state state) ∨
      ((∃ k v, d.origin = .wildcard k v) ∧ (∃ k v, e.origin = .wildcard k v) ∧ p.Contend d e) := by
  rcases hd with hd | ⟨k, v, hd, hstate, hv, hlacks⟩
  · rcases he with he | ⟨l, w, he, _, _, hlacks⟩
    · exact Or.inl ⟨hd, he⟩
    · obtain ⟨i, hi⟩ := hhas
      exact absurd hlabel (hlacks i d hi hd)
  · rcases he with he | ⟨l, w, he, _, hw, _⟩
    · obtain ⟨i, hi⟩ := hhas'
      exact absurd hlabel.symm (hlacks i e hi he)
    · exact Or.inr ⟨⟨k, v, hd⟩, ⟨l, w, he⟩, k, v, l, w, state, hstate, hd, he, hlabel, hv, hw, hlacks⟩

theorem label_eq_of_key_eq {ss : List Statement} (h : ss.mapM Statement.expand = .ok p.rules)
    (hd : p.Has i d) (he : p.Has j e) (hkey : d.entry.filter.key = e.entry.filter.key) :
    d.entry.label = e.entry.label := by
  have hinput := congrArg Filter.input hkey
  rw [hd.label_eq h, he.label_eq h]
  exact hinput

/-- **Rows of one state under one key come from one statement.** -/
theorem Fit.rule_eq (hfit : p.Fit cap settings initial) {ss : List Statement}
    (h : ss.mapM Statement.expand = .ok p.rules) (hd : p.Has i d) (he : p.Has j e)
    (hyd : p.Yields state d) (hye : p.Yields state e)
    (hkey : d.entry.filter.key = e.entry.filter.key) : i = j := by
  by_contra hij
  rcases hyd.alike hye ⟨i, hd⟩ ⟨j, he⟩ (label_eq_of_key_eq h hd he hkey) with
    ⟨hdo, heo⟩ | ⟨_, _, hcontend⟩
  · exact (exists_has_iff p Edge.Clashes.symm).1 ⟨i, j, d, e, hij, hd, he, state, hdo, heo, hkey⟩
      hfit.edges
  · exact (exists_has_iff p Contend.symm).1 ⟨i, j, d, e, hij, hd, he, hcontend⟩ hfit.wildcards

/-- Two edges that make the same row of one state. -/
structure Doubles (p : Program) (state : String) (d e : Edge) : Prop where
  left : p.Yields state d
  right : p.Yields state e
  key : d.entry.filter.key = e.entry.filter.key
  action : d.entry.action = e.entry.action

/-- Within a rule, edges that make the same row repeat each other. -/
theorem Doubles.repeats {ss : List Statement} (h : ss.mapM Statement.expand = .ok p.rules)
    (hrules : ∀ s ∈ ss, s.IsRule) {x : Expansion} (hx : p.rules[i]? = some x) (hd : d ∈ x.edges)
    (he : e ∈ x.edges) (hdouble : p.Doubles state d e) : e.repeats d = true := by
  have hhas : p.Has i d := ⟨x, hx, hd⟩
  have hhas' : p.Has i e := ⟨x, hx, he⟩
  have hsame : e.origin.same d.origin = true := by
    rcases hdouble.left.alike hdouble.right ⟨i, hhas⟩ ⟨i, hhas'⟩
      (label_eq_of_key_eq h hhas hhas' hdouble.key) with ⟨hdo, heo⟩ | ⟨⟨k, v, hdo⟩, ⟨l, w, heo⟩, _⟩
    · rw [hdo, heo]
      simp [Origin.same]
    · -- A rule has one seat for a wildcard.
      obtain ⟨s, hs, hexpand⟩ := exists_of_mem_expanded h (List.mem_of_getElem? hx)
      have hk := (hrules s hs).seat_eq_zero hexpand hd hdo
      have hl := (hrules s hs).seat_eq_zero hexpand he heo
      rw [hdo, heo, hk, hl]
      simp [Origin.same]
  simp [Edge.repeats, hsame, hdouble.key, hdouble.action]

theorem Fit.pairwise_not_doubles (hfit : p.Fit cap settings initial) {ss : List Statement}
    (h : ss.mapM Statement.expand = .ok p.rules) (hrules : ∀ s ∈ ss, s.IsRule) :
    p.edges.Pairwise fun d e => ¬ p.Doubles state d e := by
  refine List.pairwise_flatMap.2 ⟨?_, ?_⟩
  · intro x hx
    obtain ⟨i, hi⟩ := List.mem_iff_getElem?.1 hx
    obtain ⟨s, _, hexpand⟩ := exists_of_mem_expanded h hx
    have hfresh := (Statement.expand_eq_ok_iff.1 hexpand).fresh
    refine hfresh.imp_of_mem fun hd he hnone hdouble => ?_
    rw [hdouble.repeats h hrules hi hd he] at hnone
    cases hnone
  · rw [List.pairwise_iff_getElem]
    intro i j hi hj hlt d hd e he hdouble
    have hij := hfit.rule_eq h ⟨_, List.getElem?_eq_getElem hi, hd⟩
      ⟨_, List.getElem?_eq_getElem hj, he⟩ hdouble.left hdouble.right hdouble.key
    omega

theorem explicit?_eq_some_iff {a : Entry} :
    d.explicit? state = some a ↔ d.origin = .state state ∧ d.entry = a := by
  unfold Edge.explicit?
  cases d.origin with
  | state name => simp
  | wildcard seat w => simp

theorem broadcast?_eq_some_iff {taken : List String} {a : Entry} :
    d.broadcast? state taken = some a ↔ (∃ seat w, d.origin = .wildcard seat w ∧
      w.covers state = true) ∧ d.entry.label ∉ taken ∧ d.entry = a := by
  unfold Edge.broadcast?
  cases d.origin with
  | state name => simp
  | wildcard seat w => simp [and_assoc]

theorem mem_explicitRows {a : Entry} :
    a ∈ p.explicitRows state ↔ ∃ d ∈ p.edges, d.origin = .state state ∧ d.entry = a := by
  rw [explicitRows_eq, List.mem_filterMap]
  simp only [explicit?_eq_some_iff]

theorem lacks_iff_explicitRows {label : String} :
    p.Lacks state label ↔ label ∉ (p.explicitRows state).map (·.label) := by
  rw [lacks_iff_edges, List.mem_map]
  simp only [mem_explicitRows]
  constructor
  · rintro h ⟨_, ⟨d, hd, horigin, rfl⟩, hlabel⟩
    exact h d hd horigin hlabel
  · exact fun h d hd horigin hlabel => h ⟨_, ⟨d, hd, horigin, rfl⟩, hlabel⟩

/-- **No two rows of a state are the same.** -/
theorem Fit.rows_distinct (hfit : p.Fit cap settings initial) {ss : List Statement}
    (h : ss.mapM Statement.expand = .ok p.rules) (hrules : ∀ s ∈ ss, s.IsRule)
    (hstate : state ∈ p.states) :
    (p.rows state).Pairwise fun a b => ¬ (a.filter.key = b.filter.key ∧ a.action = b.action) := by
  have hedges : p.edges.Pairwise fun d e => ¬ p.Doubles state d e :=
    hfit.pairwise_not_doubles h hrules
  -- Rows that come from edges by one choice are as distinct as the edges.
  have hchosen : ∀ {f : Edge → Option Entry},
      (∀ d a, f d = some a → p.Yields state d ∧ d.entry = a) →
      (p.edges.filterMap f).Pairwise fun a b =>
        ¬ (a.filter.key = b.filter.key ∧ a.action = b.action) := by
    intro f hf
    rw [List.pairwise_filterMap]
    refine hedges.imp fun hno a ha b hb hsame => ?_
    obtain ⟨hyd, rfl⟩ := hf _ a ha
    obtain ⟨hye, rfl⟩ := hf _ b hb
    exact hno ⟨hyd, hye, hsame.1, hsame.2⟩
  refine List.pairwise_append.2 ⟨?_, ?_, ?_⟩
  · rw [explicitRows_eq]
    refine hchosen fun d a ha => ?_
    obtain ⟨horigin, hentry⟩ := explicit?_eq_some_iff.1 ha
    exact ⟨Or.inl horigin, hentry⟩
  · rw [wildcardRows_eq]
    refine hchosen fun d a ha => ?_
    obtain ⟨⟨seat, w, horigin, hcovers⟩, hfree, hentry⟩ := broadcast?_eq_some_iff.1 ha
    exact ⟨Or.inr ⟨seat, w, horigin, hstate, hcovers, lacks_iff_explicitRows.2 hfree⟩, hentry⟩
  · intro a ha b hb hsame
    rw [wildcardRows_eq, List.mem_filterMap] at hb
    obtain ⟨e, he, hb⟩ := hb
    obtain ⟨_, hfree, rfl⟩ := broadcast?_eq_some_iff.1 hb
    obtain ⟨d, hd, _, rfl⟩ := mem_explicitRows.1 ha
    obtain ⟨_, hd⟩ := mem_edges.1 hd
    obtain ⟨_, he⟩ := mem_edges.1 he
    refine hfree (List.mem_map.2 ⟨_, ha, ?_⟩)
    exact label_eq_of_key_eq h hd he hsame.1

/-! ## Channels -/

/-- The numbers that the count of channels has to reach: the one that is asked for, and for every edge
its reads and the channels that it pops and pushes. -/
def channelNeeds (p : Program) (least : Int) : Set Int :=
  {n | n = least ∨ ∃ e ∈ p.edges, n = (e.entry.filter.reads.length : Int) ∨
    ∃ op ∈ e.entry.action.ops, ∃ c, op.channel? = some c ∧ n = c + 1}

theorem channelsUsed_le_iff {a : Action} {n : Int} (hn : 0 ≤ n) :
    a.channelsUsed ≤ n ↔ ∀ op ∈ a.ops, ∀ c, op.channel? = some c → c + 1 ≤ n := by
  have hall : (∀ op ∈ a.ops, ∀ c, op.channel? = some c → c + 1 ≤ n) ↔
      ∀ c ∈ a.ops.filterMap Op.channel?, c + 1 ≤ n := by
    simp only [List.mem_filterMap]
    exact ⟨fun h c ⟨op, hop, hc⟩ => h op hop c hc, fun h op hop c hc => h c ⟨op, hop, hc⟩⟩
  have hfold : ∀ (cs : List Int) (m : Int),
      cs.foldl (fun m d => max m (d + 1)) m ≤ n ↔ m ≤ n ∧ ∀ d ∈ cs, d + 1 ≤ n := by
    intro cs
    induction cs with
    | nil => simp
    | cons d cs ih =>
      intro m
      rw [List.foldl_cons, ih, max_le_iff, List.forall_mem_cons, and_assoc]
  rw [hall]
  unfold Action.channelsUsed
  split
  · next hnone => simp [hnone, hn]
  · next c cs hsome => rw [hsome, hfold, List.forall_mem_cons]

/-- The count of channels is the least number that reaches all that is needed. -/
theorem channelCount_le_iff_needs {least n : Int} :
    p.channelCount least ≤ n ↔ ∀ m ∈ p.channelNeeds least, m ≤ n := by
  rw [channelCount_le_iff]
  constructor
  · rintro ⟨hleast, hedges⟩ m (rfl | ⟨e, he, rfl | ⟨op, hop, c, hc, rfl⟩⟩)
    · exact hleast
    · exact (hedges e he).1
    · obtain ⟨hreads, hused⟩ := hedges e he
      have hn : 0 ≤ n := (Int.natCast_nonneg _).trans hreads
      exact (channelsUsed_le_iff hn).1 hused op hop c hc
  · intro h
    refine ⟨h least (Or.inl rfl), fun e he => ?_⟩
    have hreads := h _ (Or.inr ⟨e, he, Or.inl rfl⟩)
    have hn : 0 ≤ n := (Int.natCast_nonneg _).trans hreads
    exact ⟨hreads, (channelsUsed_le_iff hn).2 fun op hop c hc =>
      h _ (Or.inr ⟨e, he, Or.inr ⟨op, hop, c, hc, rfl⟩⟩)⟩

/-- **The count of channels is the greatest number that is needed.** -/
theorem isGreatest_channelCount (p : Program) (least : Int) :
    IsGreatest (p.channelNeeds least) (p.channelCount least) := by
  have hbound := channelCount_le_iff_needs.1 (le_refl (p.channelCount least))
  refine ⟨?_, hbound⟩
  by_contra hnot
  -- Otherwise a smaller number would do.
  have hless : p.channelCount least ≤ p.channelCount least - 1 := by
    refine channelCount_le_iff_needs.2 fun m hm => ?_
    have hle := hbound m hm
    have hne : m ≠ p.channelCount least := fun heq => hnot (heq ▸ hm)
    omega
  omega

theorem channelCount_nonneg {least : Int} (h : p.edges ≠ []) : 0 ≤ p.channelCount least := by
  obtain ⟨e, he⟩ := List.exists_mem_of_ne_nil _ h
  exact (Int.natCast_nonneg _).trans
    (channelCount_le_iff_needs.1 (le_refl _) _ (Or.inr ⟨e, he, Or.inl rfl⟩))

/-! ## The whole table -/

/-- The statement with number `i` supplies a row of a state: one of its edges makes a row there, which
is widened to the channels of the table. -/
def Supplies (p : Program) (t : Compiled) (i : Nat) (state : String) (row : Entry) : Prop :=
  ∃ e, p.Has i e ∧ p.Yields state e ∧ row = e.entry.padded t.stackCount.toNat

end Program

/-- What holds of every table that is compiled from a program. -/
structure Compiled.WellFormed (t : Compiled) (p : Program) (settings : Settings) : Prop where
  initial : t.initial ∈ t.states
  accepting : ∀ state ∈ t.accepting, state ∈ t.states
  keys : ∀ state ∈ t.transitions.map (·.1), state ∈ t.states
  keys_nodup : (t.transitions.map (·.1)).Nodup
  target : ∀ state, ∀ row ∈ t.entriesFor state, row.action.target ∈ t.states
  label : ∀ state, ∀ row ∈ t.entriesFor state, row.label ∈ t.labels ∧ row.label = row.filter.input
  states_nodup : t.states.Nodup
  labels_nodup : t.labels.Nodup
  stackCount : IsGreatest (p.channelNeeds settings.stackCount) t.stackCount
  nonneg : 0 ≤ t.stackCount
  reads : ∀ state, ∀ row ∈ t.entriesFor state, (row.filter.reads.length : Int) = t.stackCount
  channels : ∀ state, ∀ row ∈ t.entriesFor state, ∀ op ∈ row.action.ops, ∀ c,
    op.channel? = some c → 0 ≤ c ∧ c < t.stackCount
  distinct : ∀ state, (t.entriesFor state).Pairwise fun a b =>
    ¬ (a.filter.key = b.filter.key ∧ a.action = b.action)
  supplied : ∀ state, ∀ row ∈ t.entriesFor state, ∃ i, p.Supplies t i state row
  one_rule : ∀ state, ∀ a ∈ t.entriesFor state, ∀ b ∈ t.entriesFor state,
    a.filter.key = b.filter.key →
      ∀ i j, p.Supplies t i state a → p.Supplies t j state b → i = j

namespace Program

variable {p : Program} {cap : Capacity} {settings : Settings} {initial : String} {ss : List Statement}

theorem edges_ne_nil (hfit : p.Fit cap settings initial) (h : ss.mapM Statement.expand = .ok p.rules)
    (hrules : ∀ s ∈ ss, s.IsRule) : p.edges ≠ [] := by
  obtain ⟨q, hq, _⟩ := List.mem_map.1 ((hfit.initial initial).2 rfl)
  obtain ⟨x, hx, _⟩ := List.mem_flatMap.1 hq
  obtain ⟨s, hs, hexpand⟩ := exists_of_mem_expanded h hx
  obtain ⟨e, he⟩ := List.exists_mem_of_ne_nil _ ((hrules s hs).edges_ne_nil hexpand)
  exact List.ne_nil_of_mem (List.mem_flatMap.2 ⟨x, hx, he⟩)

theorem mem_labels (h : ss.mapM Statement.expand = .ok p.rules) {i : Nat} {e : Edge}
    (he : p.Has i e) : e.entry.label ∈ p.labels := by
  obtain ⟨s, _, x, hx, hexpand, _, _, t, _, hamong⟩ := he.among h
  refine List.mem_eraseDups.2 (List.mem_flatMap.2 ⟨x, hx, ?_⟩)
  rw [(Statement.expand_eq_ok_iff.1 hexpand).labels, List.mem_eraseDups, hamong.entry]
  exact List.mem_filterMap.2 ⟨_, hamong.transition_mem, rfl⟩

theorem accepting_subset (h : ss.mapM Statement.expand = .ok p.rules) {state : String}
    (hstate : state ∈ p.accepting) : state ∈ p.states := by
  unfold accepting nameSet at hstate
  rw [List.mem_mergeSort, List.mem_eraseDups, List.mem_flatMap] at hstate
  obtain ⟨x, hx, hstate⟩ := hstate
  obtain ⟨s, _, hexpand⟩ := exists_of_mem_expanded h hx
  have hexpands := Statement.expand_eq_ok_iff.1 hexpand
  rw [hexpands.accepting, List.mem_eraseDups] at hstate
  obtain ⟨q, hq, rfl⟩ := List.mem_map.1 hstate
  refine List.mem_eraseDups.2 (List.mem_flatMap.2 ⟨x, hx, ?_⟩)
  rw [hexpands.states, List.mem_eraseDups]
  exact List.mem_map_of_mem (List.mem_filter.1 hq).1

/-- **Tables of rules are well formed.** -/
theorem Fit.wellFormed (hfit : p.Fit cap settings initial) (h : ss.mapM Statement.expand = .ok p.rules)
    (hrules : ∀ s ∈ ss, s.IsRule) : (p.finished settings initial).WellFormed p settings := by
  let t := p.finished settings initial
  have hcompiled : (compileStatements cap settings ss).result = .ok t :=
    compiled_iff.2 ⟨p.rules, initial, h, hfit, rfl⟩
  have hlowered := isLowered_of_compiled hcompiled
  have hnonneg : 0 ≤ t.stackCount := channelCount_nonneg (edges_ne_nil hfit h hrules)
  have hsupplied : ∀ state, ∀ row ∈ t.entriesFor state, ∃ i, p.Supplies t i state row := by
    intro state row hrow
    obtain ⟨c, hc, rfl, hentry⟩ := exists_of_mem_entriesFor_table hrow
    obtain ⟨e, he, hyields, hc⟩ := hfit.answers.mem_claims_append_bids.1 hc
    exact ⟨c.rule, e, he, hyields, by rw [← hentry, hc]; rfl⟩
  refine
    { initial := hlowered.initial
      accepting := fun state hstate => accepting_subset h hstate
      keys := ?keys
      keys_nodup := ?keys_nodup
      target := ?target
      label := ?label
      states_nodup := nodup_eraseDups _
      labels_nodup := nodup_eraseDups _
      stackCount := isGreatest_channelCount p settings.stackCount
      nonneg := hnonneg
      reads := ?reads
      channels := ?channels
      distinct := ?distinct
      supplied := hsupplied
      one_rule := ?one_rule }
  case keys =>
    intro state hstate
    change state ∈ (p.table settings initial (p.claims ++ p.bids)).transitions.map (·.1) at hstate
    rw [keys_table, List.mem_eraseDups] at hstate
    obtain ⟨c, hc, rfl⟩ := List.mem_map.1 hstate
    exact claims_state_mem h hc
  case keys_nodup =>
    change ((p.table settings initial (p.claims ++ p.bids)).transitions.map (·.1)).Nodup
    rw [keys_table]
    exact nodup_eraseDups _
  case target =>
    intro state row hrow
    obtain ⟨target, htarget, ops, hrow⟩ := hlowered.entry state row hrow
    rw [hrow.action]
    exact htarget
  case label =>
    intro state row hrow
    obtain ⟨i, e, he, _, rfl⟩ := hsupplied state row hrow
    exact ⟨mem_labels h he, he.label_eq h⟩
  case reads =>
    intro state row hrow
    obtain ⟨i, e, he, _, rfl⟩ := hsupplied state row hrow
    have hfits : (e.entry.filter.reads.length : Int) ≤ t.stackCount :=
      length_reads_le_channelCount he settings.stackCount
    have hlength := Filter.length_reads_padded e.entry.filter t.stackCount.toNat
    change ((e.entry.filter.padded t.stackCount.toNat).reads.length : Int) = t.stackCount
    omega
  case channels =>
    intro state row hrow op hop c hc
    obtain ⟨target, _, ops, hrow⟩ := hlowered.entry state row hrow
    rw [hrow.action] at hop
    obtain rfl | ⟨j, hj, hchannel⟩ | rfl := Action.mem_build hop
    · cases hc
    · obtain rfl := Option.some.inj (hchannel.symm.trans hc)
      have hnarrow := hrow.narrow
      change ops.length ≤ t.stackCount.toNat at hnarrow
      change 0 ≤ (j : Int) ∧ (j : Int) < t.stackCount
      omega
    · cases hc
  case distinct =>
    intro state
    by_cases hstate : state ∈ p.states
    · rw [finished, entriesFor_table_of_mem hfit.answers hstate, List.pairwise_map]
      refine (hfit.rows_distinct h hrules hstate).imp fun hno hsame => hno ⟨?_, hsame.2⟩
      have hkey := hsame.1
      simp only [Entry.padded, Filter.key_padded] at hkey
      exact hkey
    · rw [finished, entriesFor_table_of_not_mem h hstate]
      exact .nil
  case one_rule =>
    rintro state a _ b _ hkey i j ⟨d, hd, hyd, rfl⟩ ⟨e, he, hye, rfl⟩
    simp only [Entry.padded, Filter.key_padded] at hkey
    exact hfit.rule_eq h hd he hyd hye hkey

end Program

/-- What a rule says is a statement of a rule. -/
theorem Rule.Spelling.Says.isRule {s : Rule.Spelling} {st : Statement} (h : s.Says cap st) :
    st.IsRule := by
  obtain ⟨source, hsource, hparts⟩ := h.parts
  refine ⟨source, s.legs.map Rule.Leg.said, ?_, by simp [Rule.Spelling.legs], ?_, ?_⟩
  · generalize s.source = spelled at hsource
    cases hsource <;> rfl
  · rw [hparts, List.flatMap_def]
  · intro leg hleg
    obtain ⟨l, _, rfl⟩ := List.mem_map.1 hleg
    refine ⟨l.arrows.map Rule.ArrowSpelling.said, l.target.part, by simp [Rule.Leg.arrows], ?_⟩
    rw [List.map_map]
    rfl

/-- The statements of a text are statements of rules. -/
theorem isRule_of_statementsOf {source : String} {ss : List Statement}
    (h : statementsOf cap source = .ok ss) : ∀ s ∈ ss, s.IsRule := by
  intro s hs
  obtain ⟨rs, _, hmeant⟩ := Rule.exists_spellings_of_statementsOf h
  obtain ⟨r, _, hmeant⟩ := exists_of_mem_right hmeant hs
  exact hmeant.isRule

/-- What the statements of a text compile to is well formed. -/
theorem wellFormed_of_statementsOf {settings : Settings} {source : String} {ss : List Statement}
    {t : Compiled} (hss : statementsOf cap source = .ok ss)
    (h : (compileStatements cap settings ss).result = .ok t) :
    ∃ rules, ss.mapM Statement.expand = .ok rules ∧ t.WellFormed ⟨rules⟩ settings := by
  obtain ⟨rules, initial, hrules, hfit, rfl⟩ := compiled_iff.1 h
  exact ⟨rules, hrules, hfit.wellFormed hrules (isRule_of_statementsOf hss)⟩

/-- **Compiled tables are well formed.** Whatever a text compiles to, with any number of channels asked
for: the initial state, the accepting states, the keys and the targets of rows are states, the labels of
rows are labels and what the rows take; nothing stands twice among states and labels; the count of
channels is the greatest of what is asked for and what the edges need, those of wildcards that match
nothing included; every row has a read for each channel and addresses no others; and no two rows of a
state are the same, while those under one filter key come from one statement. -/
theorem compiled_wellFormed {settings : Settings} {source : String} {t : Compiled}
    (h : (compile cap settings source).result = .ok t) :
    ∃ ss rules, statementsOf cap source = .ok ss ∧ ss.mapM Statement.expand = .ok rules ∧
      t.WellFormed ⟨rules⟩ settings := by
  unfold compile at h
  cases hss : statementsOf cap source with
  | error e =>
    rw [hss] at h
    cases h
  | ok ss =>
    rw [hss] at h
    obtain ⟨rules, hrules, hform⟩ := wellFormed_of_statementsOf hss h
    exact ⟨ss, rules, rfl, hrules, hform⟩

/-- The table of `.a -[x]Z> (b); * -f> a; /q/ -[y,:_,:V]> b;`. The last pattern matches no state, and
still its edge asks for a second channel. -/
def widened : Compiled where
  initial := "a"
  transitions :=
    [("a", [⟨"x", ⟨"x", [none, none]⟩, ⟨"b", [.consume, .push 0 "Z", .set "b"]⟩, some ⟨1, 6⟩⟩,
      ⟨"f", ⟨"f", [none, none]⟩, ⟨"a", [.consume, .set "a"]⟩, some ⟨1, 19⟩⟩]),
    ("b", [⟨"f", ⟨"f", [none, none]⟩, ⟨"a", [.consume, .set "a"]⟩, some ⟨1, 19⟩⟩])]
  accepting := ["b"]
  stackCount := 2
  states := ["a", "b"]
  labels := ["x", "f", "y"]

theorem widened_wellFormed : ∃ rules, widened.WellFormed ⟨rules⟩ {} ∧
    (2 : Int) ∈ (⟨rules⟩ : Program).channelNeeds 0 := by
  have h : (compile .ample {} ".a -[x]Z> (b); * -f> a; /q/ -[y,:_,:V]> b;").result = .ok widened := by
    decide +kernel
  obtain ⟨_, rules, _, _, hform⟩ := compiled_wellFormed h
  exact ⟨rules, hform, hform.stackCount.1⟩

end ArrowMachine
