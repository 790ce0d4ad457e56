import ArrowMachine.Compile
import ArrowMachine.Proofs.Table.Edges
import ArrowMachine.Proofs.Table.Merging
import Mathlib

/-!
The rows of a compiled table.

The rows of a state are the entries of all edges from it, statement by statement, and behind them the
entries of the wildcard edges that cover it, but for those whose label some edge from the state has,
wherever that edge stands (`compiled_rows`). Wildcards reach all states that are mentioned anywhere.
-/
namespace ArrowMachine

theorem nodup_eraseDups {α : Type} [DecidableEq α] : (l : List α) → l.eraseDups.Nodup
  | [] => List.nodup_nil
  | a :: l => by
    rw [List.eraseDups_cons, List.nodup_cons]
    refine ⟨?_, nodup_eraseDups (l.filter fun b => !b == a)⟩
    rw [List.mem_eraseDups, List.mem_filter]
    simp
termination_by l => l.length
decreasing_by exact Nat.lt_succ_of_le (List.length_filter_le _ _)

/-- What one element of a list without repetitions contributes. -/
theorem filterMap_eq_toList_of_mem {α β : Type} [DecidableEq α] {l : List α} {a : α} (o : Option β)
    (hl : l.Nodup) (ha : a ∈ l) : l.filterMap (fun b => if b = a then o else none) = o.toList := by
  induction l with
  | nil => cases ha
  | cons b l ih =>
    obtain ⟨hb, hl⟩ := List.nodup_cons.1 hl
    by_cases hab : b = a
    · subst hab
      have hrest : l.filterMap (fun c => if c = b then o else none) = [] := by
        rw [List.filterMap_eq_nil_iff]
        intro c hc
        exact if_neg fun hcb : c = b => hb (hcb ▸ hc)
      cases o with
      | none => simp
      | some x => simpa using hrest
    · have ha : a ∈ l := (List.mem_cons.1 ha).resolve_left (Ne.symm hab)
      rw [List.filterMap_cons, if_neg hab]
      exact ih hl ha

theorem flatMap_zipIdx {α β : Type} (l : List α) (f : α → List β) :
    l.zipIdx.flatMap (fun x => f x.1) = l.flatMap f := by
  rw [← List.flatMap_map, List.zipIdx_map_fst]

/-- The entry of an edge from `state`. -/
def Edge.explicit? (state : String) (e : Edge) : Option Entry :=
  match e.origin with
  | .state name => if name = state then some e.entry else none
  | .wildcard .. => none

/-- The entry of an edge from a wildcard that covers `state`, unless its label is taken. -/
def Edge.broadcast? (state : String) (taken : List String) (e : Edge) : Option Entry :=
  match e.origin with
  | .state _ => none
  | .wildcard _ w => if w.covers state ∧ e.entry.label ∉ taken then some e.entry else none

/-! ## Rows by state -/

theorem keys_rowsByState (cs : List Claim) :
    (rowsByState cs).map (·.1) = (cs.map (·.state)).eraseDups := by
  rw [rowsByState, List.map_map]
  exact List.map_id _

theorem lookup_rowsByState (cs : List Claim) (state : String) :
    (rowsByState cs).lookup state =
      if (cs.filter (·.state = state)).map (·.entry) = [] then none
      else some ((cs.filter (·.state = state)).map (·.entry)) := by
  by_cases hstate : state ∈ (cs.map (·.state)).eraseDups
  · have hrows : (cs.filter (·.state = state)).map (·.entry) ≠ [] := by
      obtain ⟨c, hc, hcstate⟩ := List.mem_map.1 (List.mem_eraseDups.1 hstate)
      exact List.ne_nil_of_mem (List.mem_map_of_mem (List.mem_filter.2 ⟨hc, by simpa using hcstate⟩))
    rw [if_neg hrows]
    exact List.lookup_graph (fun state => (cs.filter (·.state = state)).map (·.entry)) hstate
  · have hrows : (cs.filter (·.state = state)).map (·.entry) = [] := by
      rw [List.map_eq_nil_iff, List.filter_eq_nil_iff]
      intro c hc hcstate
      exact hstate (List.mem_eraseDups.2 (List.mem_map.2 ⟨c, hc, by simpa using hcstate⟩))
    rw [if_pos hrows, List.lookup_eq_none_iff]
    intro row hrow
    have hkey : row.1 ∈ (rowsByState cs).map (·.1) := List.mem_map_of_mem hrow
    rw [keys_rowsByState] at hkey
    exact bne_iff_ne.2 fun heq => hstate (heq ▸ hkey)

theorem lookup_map_snd {β γ : Type} (f : β → γ) (l : List (String × β)) (key : String) :
    (l.map fun x => (x.1, f x.2)).lookup key = (l.lookup key).map f := by
  induction l with
  | nil => rfl
  | cons x l ih =>
    rw [List.map_cons, List.lookup_cons, List.lookup_cons]
    cases key == x.1 with
    | true => rfl
    | false => exact ih

namespace Program

variable {p : Program}

/-- The entries of the edges from a state, in the order of statements and edges. -/
def explicitRows (p : Program) (state : String) : List Entry :=
  p.rules.flatMap fun x => x.edges.filterMap (Edge.explicit? state)

/-- The entries of the wildcard edges that cover a state, in the order of statements and edges, without
those whose label an edge from the state has. -/
def wildcardRows (p : Program) (state : String) : List Entry :=
  p.rules.flatMap fun x =>
    x.edges.filterMap (Edge.broadcast? state ((p.explicitRows state).map (·.label)))

theorem entries_claims (p : Program) (state : String) :
    (p.claims.filter (·.state = state)).map (·.entry) = p.explicitRows state := by
  unfold claims explicitRows
  rw [List.filter_flatMap, List.map_flatMap]
  refine Eq.trans ?_ (flatMap_zipIdx p.rules _)
  congr 1
  funext ⟨x, i⟩
  rw [List.filter_filterMap, List.map_filterMap]
  congr 1
  funext e
  unfold Edge.explicit?
  cases e.origin with
  | state name =>
    by_cases hname : name = state
    · simp [hname]
    · simp [hname]
  | wildcard seat w => rfl

theorem mem_labelPlaces {state label : String} :
    (state, label) ∈ p.claims.map Claim.labelPlace ↔ label ∈ (p.explicitRows state).map (·.label) := by
  rw [← entries_claims]
  simp only [Claim.labelPlace, List.mem_map, List.mem_filter, decide_eq_true_eq, Prod.mk.injEq]
  constructor
  · rintro ⟨c, hc, hstate, hlabel⟩
    exact ⟨c.entry, ⟨c, ⟨hc, hstate⟩, rfl⟩, hlabel⟩
  · rintro ⟨_, ⟨c, ⟨hc, hstate⟩, rfl⟩, hlabel⟩
    exact ⟨c, hc, hstate, hlabel⟩

theorem bid?_entry (p : Program) (w : Wildcard) (i : Nat) (q state : String) (entry : Entry) :
    (Option.filter (·.state = state) (p.bid? ⟨w, ⟨i, q, entry⟩⟩)).map (·.entry) =
      if q = state then
        if w.covers state ∧ entry.label ∉ (p.explicitRows state).map (·.label) then some entry else none
      else none := by
  rw [bid?_eq_ite]
  simp only [Claim.labelPlace, mem_labelPlaces]
  by_cases hq : q = state
  · subst hq
    rw [if_pos rfl]
    split <;> simp
  · rw [if_neg hq]
    split <;> simp [hq]

theorem entries_bids (hanswers : p.Answers) {state : String} (hstate : state ∈ p.states) :
    (p.bids.filter (·.state = state)).map (·.entry) = p.wildcardRows state := by
  rw [bids_eq, hanswers.tried_eq]
  unfold trials wildcardRows
  rw [List.filter_filterMap, List.map_filterMap, List.filterMap_flatMap]
  refine Eq.trans ?_ (flatMap_zipIdx p.rules _)
  congr 1
  funext ⟨x, i⟩
  simp only
  rw [List.filterMap_flatMap, List.filterMap_eq_flatMap_toList]
  congr 1
  funext e
  unfold Edge.broadcast?
  cases e.origin with
  | state name => rfl
  | wildcard seat w =>
    simp only [List.filterMap_map, Function.comp_def, bid?_entry]
    exact filterMap_eq_toList_of_mem _ (nodup_eraseDups _) hstate

theorem keys_table (p : Program) (settings : Settings) (initial : String) (cs : List Claim) :
    (p.table settings initial cs).transitions.map (·.1) = (cs.map (·.state)).eraseDups := by
  rw [← keys_rowsByState]
  simp [table]

theorem lookup_table (p : Program) (settings : Settings) (initial : String) (cs : List Claim)
    (state : String) :
    (p.table settings initial cs).transitions.lookup state =
      if (cs.filter (·.state = state)).map (·.entry) = [] then none
      else some (((cs.filter (·.state = state)).map (·.entry)).map
        (·.padded (p.channelCount settings.stackCount).toNat)) := by
  change ((rowsByState cs).map _).lookup state = _
  rw [lookup_map_snd, lookup_rowsByState]
  split <;> rfl

theorem exists_of_mem_entriesFor_table {settings : Settings} {initial : String} {cs : List Claim}
    {state : String} {e : Entry} (h : e ∈ (p.table settings initial cs).entriesFor state) :
    ∃ c ∈ cs, c.state = state ∧
      c.entry.padded (p.channelCount settings.stackCount).toNat = e := by
  rw [Compiled.entriesFor, lookup_table] at h
  split at h
  · cases h
  · obtain ⟨row, hrow, rfl⟩ := List.mem_map.1 h
    obtain ⟨c, hc, rfl⟩ := List.mem_map.1 hrow
    obtain ⟨hc, hstate⟩ := List.mem_filter.1 hc
    exact ⟨c, hc, by simpa using hstate, rfl⟩

/-- Every claim is of an edge of the program. -/
theorem exists_has_of_claim {c : Claim} (hc : c ∈ p.claims ++ p.bids) :
    ∃ e, p.Has c.rule e ∧ e.entry = c.entry := by
  rcases List.mem_append.1 hc with hc | hc
  · obtain ⟨e, he, _, hentry⟩ := mem_claims.1 hc
    exact ⟨e, he, hentry⟩
  · obtain ⟨t, ht, rfl, _⟩ := mem_bids.1 hc
    obtain ⟨e, _, he, _, _, hentry⟩ := mem_trials.1 (List.takeWhile_subset _ ht)
    exact ⟨e, he, hentry⟩

/-- Every claim is to a state of the program. -/
theorem claims_state_mem {ss : List Statement} (h : ss.mapM Statement.expand = .ok p.rules)
    {c : Claim} (hc : c ∈ p.claims ++ p.bids) : c.state ∈ p.states := by
  rcases List.mem_append.1 hc with hc | hc
  · obtain ⟨e, ⟨x, hx, he⟩, horigin, _⟩ := mem_claims.1 hc
    obtain ⟨s, _, hexpand⟩ := exists_of_mem_expanded h (List.mem_of_getElem? hx)
    obtain ⟨source, t, target, hamong⟩ := Statement.expand_edge hexpand he
    have hname : c.state ∈ x.states := by
      cases source with
      | state q =>
        have hname : c.state = q.name := Origin.state.inj (horigin.symm.trans hamong.origin)
        exact (Statement.mem_expand_states hexpand).2 ⟨q, hamong.source_mem, hname.symm⟩
      | wildcard seat w => cases horigin.symm.trans hamong.origin
    exact List.mem_eraseDups.2 (List.mem_flatMap.2 ⟨x, List.mem_of_getElem? hx, hname⟩)
  · obtain ⟨t, ht, rfl, _⟩ := mem_bids.1 hc
    obtain ⟨_, _, _, _, hstate, _⟩ := mem_trials.1 (List.takeWhile_subset _ ht)
    exact hstate

theorem mem_states {ss : List Statement} (h : ss.mapM Statement.expand = .ok p.rules)
    {name : String} :
    name ∈ p.states ↔ ∃ s ∈ ss, ∃ q, .state q ∈ s.parts ∧ q.name = name := by
  unfold states
  rw [List.mem_eraseDups, List.mem_flatMap]
  constructor
  · rintro ⟨x, hx, hname⟩
    obtain ⟨s, hs, hexpand⟩ := exists_of_mem_expanded h hx
    exact ⟨s, hs, (Statement.mem_expand_states hexpand).1 hname⟩
  · rintro ⟨s, hs, hmention⟩
    obtain ⟨x, hx, hexpand⟩ := exists_expanded_of_mem h hs
    exact ⟨x, hx, (Statement.mem_expand_states hexpand).2 hmention⟩

end Program

/-- **The rows of a compiled table.** The states of the table are those that some statement mentions. A
state has the entries of all edges from it, in the order of statements and edges, and behind them those
of the wildcard edges that cover it, unless an edge from it anywhere has their label; all of them are
widened to the channels of the table. A state without such entries has no place in the table, nor has
anything that is no state. -/
theorem compiled_rows {cap : Capacity} {settings : Settings} {ss : List Statement} {t : Compiled}
    (h : (compileStatements cap settings ss).result = .ok t) :
    ∃ rules, ss.mapM Statement.expand = .ok rules ∧
      (∀ name, name ∈ t.states ↔ ∃ s ∈ ss, ∃ q, .state q ∈ s.parts ∧ q.name = name) ∧
      (t.transitions.map (·.1)).Nodup ∧ (∀ key ∈ t.transitions.map (·.1), key ∈ t.states) ∧
      ∀ state ∈ t.states,
        let rows := (⟨rules⟩ : Program).explicitRows state ++ (⟨rules⟩ : Program).wildcardRows state
        t.transitions.lookup state =
          if rows = [] then none else some (rows.map (·.padded t.stackCount.toNat)) := by
  obtain ⟨rules, initial, hrules, hanswers, _, rfl⟩ := merged_of_compiled h
  let p : Program := ⟨rules⟩
  refine ⟨rules, hrules, fun name => Program.mem_states hrules, ?_, ?_, ?_⟩
  · rw [Program.keys_table]
    exact nodup_eraseDups _
  · intro key hkey
    rw [Program.keys_table, List.mem_eraseDups] at hkey
    obtain ⟨c, hc, rfl⟩ := List.mem_map.1 hkey
    exact Program.claims_state_mem hrules hc
  · intro state hstate
    have hrows : ((p.claims ++ p.bids).filter (·.state = state)).map (·.entry) =
        p.explicitRows state ++ p.wildcardRows state := by
      rw [List.filter_append, List.map_append, Program.entries_claims,
        Program.entries_bids hanswers hstate]
    rw [Program.lookup_table, hrows]
    rfl

/-- The statements of `* -f> t; .a -f> b; b -g> c;`. -/
def reaching : List Statement := [
  ⟨[.wildcard ⟨none, some ⟨1, 1⟩⟩, .transition ⟨"f", .right, [], some ⟨1, 4⟩⟩,
    .state ⟨"t", false, false, some ⟨1, 7⟩⟩], some ⟨1, 1⟩⟩,
  ⟨[.state ⟨"a", true, false, some ⟨1, 10⟩⟩, .transition ⟨"f", .right, [], some ⟨1, 14⟩⟩,
    .state ⟨"b", false, false, some ⟨1, 17⟩⟩], some ⟨1, 10⟩⟩,
  ⟨[.state ⟨"b", false, false, some ⟨1, 20⟩⟩, .transition ⟨"g", .right, [], some ⟨1, 23⟩⟩,
    .state ⟨"c", false, false, some ⟨1, 26⟩⟩], some ⟨1, 20⟩⟩]

/-- The table of `reaching`. -/
def reached : Compiled where
  initial := "a"
  transitions :=
    [("a", [⟨"f", ⟨"f", []⟩, ⟨"b", [.consume, .set "b"]⟩, some ⟨1, 14⟩⟩]),
    ("b", [⟨"g", ⟨"g", []⟩, ⟨"c", [.consume, .set "c"]⟩, some ⟨1, 23⟩⟩,
      ⟨"f", ⟨"f", []⟩, ⟨"t", [.consume, .set "t"]⟩, some ⟨1, 4⟩⟩]),
    ("t", [⟨"f", ⟨"f", []⟩, ⟨"t", [.consume, .set "t"]⟩, some ⟨1, 4⟩⟩]),
    ("c", [⟨"f", ⟨"f", []⟩, ⟨"t", [.consume, .set "t"]⟩, some ⟨1, 4⟩⟩])]
  accepting := []
  stackCount := 0
  states := ["t", "a", "b", "c"]
  labels := ["f", "g"]

/-- The wildcard of `reaching` does not reach `a`, which has an edge of its label, but it reaches `c`,
which is only mentioned behind it and as a target. -/
theorem reaching_rows : ∃ rules, reaching.mapM Statement.expand = .ok rules ∧
    ((⟨rules⟩ : Program).explicitRows "a" ++ (⟨rules⟩ : Program).wildcardRows "a").map
      (·.action.target) = ["b"] ∧
    ((⟨rules⟩ : Program).explicitRows "c" ++ (⟨rules⟩ : Program).wildcardRows "c").map
      (·.action.target) = ["t"] := by
  have h : (compileStatements .ample {} reaching).result = .ok reached := by cbv
  obtain ⟨rules, hrules, _, _, _, hrows⟩ := compiled_rows h
  -- What the table holds tells the rows, since widening them changes no action.
  have htargets : ∀ state ∈ reached.states, ∀ held, reached.transitions.lookup state = some held →
      ((⟨rules⟩ : Program).explicitRows state ++ (⟨rules⟩ : Program).wildcardRows state).map
        (·.action.target) = held.map (·.action.target) := by
    intro state hstate held hheld
    have hstored := hrows state hstate
    rw [hheld] at hstored
    simp only at hstored
    split at hstored
    · cases hstored
    · rw [Option.some.inj hstored, List.map_map]
      rfl
  exact ⟨rules, hrules, htargets "a" (by decide) _ rfl, htargets "c" (by decide) _ rfl⟩

end ArrowMachine
