import ArrowMachine.Proofs.Table.Ambiguity

/-!
When statements compile.

Statements compile exactly if all of them expand and their program is fit to be merged (`compiled_iff`):
its statements are apart, every search for a pattern answers, one state is marked as initial, and no row
lacks more reads than can be added. Most of this depends only on which edges and which names the
statements have together (`Program.Agrees`), not on how they are cut into statements.
-/
namespace ArrowMachine

/-! ## Rows of claims -/

theorem eraseDups_eq_singleton_iff {l : List String} {a : String} :
    l.eraseDups = [a] ↔ ∀ b, b ∈ l ↔ b = a := by
  constructor
  · intro h b
    rw [← List.mem_eraseDups, h, List.mem_singleton]
  · intro h
    have hmem : ∀ b, b ∈ l.eraseDups ↔ b = a := fun b => by rw [List.mem_eraseDups, h b]
    have hperm : l.eraseDups.Perm [a] :=
      (List.perm_ext_iff_of_nodup (nodup_eraseDups l) (List.nodup_singleton a)).2 fun b => by
        rw [hmem, List.mem_singleton]
    exact List.perm_singleton.1 hperm

/-- What a claim puts into a table. -/
def Claim.row (c : Claim) : String × Entry := (c.state, c.entry)

/-- Which statement a claim is of does not show in the rows. -/
theorem rowsByState_congr {cs ds : List Claim} (h : cs.map Claim.row = ds.map Claim.row) :
    rowsByState cs = rowsByState ds := by
  have hrows : ∀ es : List Claim, rowsByState es =
      (((es.map Claim.row).map (·.1)).eraseDups.map fun state =>
        (state, ((es.map Claim.row).filter (·.1 = state)).map (·.2))) := by
    intro es
    simp only [rowsByState, List.map_map, List.filter_map, Function.comp_def, Claim.row]
    rfl
  rw [hrows, hrows, h]

/-! ## Clashes -/

/-- Two edges from one state with one filter key. -/
def Edge.Clashes (e f : Edge) : Prop :=
  ∃ state, e.origin = .state state ∧ f.origin = .state state ∧
    e.entry.filter.key = f.entry.filter.key

/-- No edge of one expansion is related to one of the other. -/
def Expansion.Apart (R : Edge → Edge → Prop) (x y : Expansion) : Prop :=
  ∀ e ∈ x.edges, ∀ f ∈ y.edges, ¬ R e f

theorem Expansion.Apart.symm {R : Edge → Edge → Prop} (hR : ∀ e f, R e f → R f e) {x y : Expansion}
    (h : x.Apart R y) : y.Apart R x :=
  fun e he f hf hef => h f hf e he (hR e f hef)

theorem Edge.Clashes.symm (e f : Edge) : e.Clashes f → f.Clashes e := by
  rintro ⟨state, he, hf, hkey⟩
  exact ⟨state, hf, he, hkey.symm⟩

namespace Program

variable {p q : Program} {cap : Capacity} {settings : Settings} {initial : String}

/-- All edges, statement by statement. -/
def edges (p : Program) : List Edge := p.rules.flatMap (·.edges)

/-- Two wildcard edges of one label that cover one state, which has no edge of that label. -/
def Contend (p : Program) (e f : Edge) : Prop :=
  ∃ k v l w, ∃ state ∈ p.states, e.origin = .wildcard k v ∧ f.origin = .wildcard l w ∧
    e.entry.label = f.entry.label ∧ v.covers state = true ∧ w.covers state = true ∧
    p.Lacks state e.entry.label

theorem Contend.symm (e f : Edge) : p.Contend e f → p.Contend f e := by
  rintro ⟨k, v, l, w, state, hstate, he, hf, hlabel, hv, hw, hlacks⟩
  exact ⟨l, w, k, v, state, hstate, hf, he, hlabel.symm, hw, hv, hlabel ▸ hlacks⟩

theorem mem_edges {e : Edge} : e ∈ p.edges ↔ ∃ i, p.Has i e := by
  unfold edges
  rw [List.mem_flatMap]
  constructor
  · rintro ⟨x, hx, he⟩
    obtain ⟨i, hi⟩ := List.mem_iff_getElem?.1 hx
    exact ⟨i, x, hi, he⟩
  · rintro ⟨i, x, hx, he⟩
    exact ⟨x, List.mem_of_getElem? hx, he⟩

/-- Different statements have related edges exactly if the statements are not pairwise apart. -/
theorem exists_has_iff (p : Program) {R : Edge → Edge → Prop} (hR : ∀ e f, R e f → R f e) :
    (∃ i j e f, i ≠ j ∧ p.Has i e ∧ p.Has j f ∧ R e f) ↔
      ¬ p.rules.Pairwise (Expansion.Apart R) := by
  rw [List.pairwise_iff_getElem]
  constructor
  · rintro ⟨i, j, e, f, hij, ⟨x, hx, he⟩, ⟨y, hy, hf⟩, hef⟩ hapart
    obtain ⟨hi, rfl⟩ := List.getElem?_eq_some_iff.1 hx
    obtain ⟨hj, rfl⟩ := List.getElem?_eq_some_iff.1 hy
    rcases Nat.lt_or_gt_of_ne hij with hlt | hlt
    · exact hapart i j hi hj hlt e he f hf hef
    · exact hapart j i hj hi hlt f hf e he (hR e f hef)
  · intro h
    simp only [Expansion.Apart, not_forall, not_not] at h
    obtain ⟨i, j, hi, hj, hlt, e, he, f, hf, hef⟩ := h
    exact ⟨i, j, e, f, hlt.ne, ⟨_, List.getElem?_eq_getElem hi, he⟩,
      ⟨_, List.getElem?_eq_getElem hj, hf⟩, hef⟩

theorem edgesClash_iff_not_apart :
    p.EdgesClash ↔ ¬ p.rules.Pairwise (Expansion.Apart Edge.Clashes) := by
  rw [← exists_has_iff p Edge.Clashes.symm]
  constructor
  · rintro ⟨i, j, e, f, state, hij, he, hf, hclash⟩
    exact ⟨i, j, e, f, hij, he, hf, state, hclash⟩
  · rintro ⟨i, j, e, f, hij, he, hf, state, hclash⟩
    exact ⟨i, j, e, f, state, hij, he, hf, hclash⟩

theorem wildcardsClash_iff_not_apart :
    p.WildcardsClash ↔ ¬ p.rules.Pairwise (Expansion.Apart p.Contend) := by
  rw [← exists_has_iff p Contend.symm]
  constructor
  · rintro ⟨i, j, e, f, k, v, l, w, state, hstate, hij, he, hf, hclash⟩
    exact ⟨i, j, e, f, hij, he, hf, k, v, l, w, state, hstate, hclash⟩
  · rintro ⟨i, j, e, f, hij, he, hf, k, v, l, w, state, hstate, hclash⟩
    exact ⟨i, j, e, f, k, v, l, w, state, hstate, hij, he, hf, hclash⟩

/-! ## Rows -/

/-- An edge makes a row for a state: it starts there, or at a wildcard that covers the state while no
edge from the state has its label. -/
def Yields (p : Program) (state : String) (e : Edge) : Prop :=
  e.origin = .state state ∨ ∃ seat w, e.origin = .wildcard seat w ∧ state ∈ p.states ∧
    w.covers state = true ∧ p.Lacks state e.entry.label

/-- The claims are those of the edges that make rows. -/
theorem Answers.mem_claims_append_bids (h : p.Answers) {c : Claim} :
    c ∈ p.claims ++ p.bids ↔ ∃ e, p.Has c.rule e ∧ p.Yields c.state e ∧ e.entry = c.entry := by
  rw [List.mem_append, mem_claims, mem_bids, h.tried_eq]
  constructor
  · rintro (⟨e, he, horigin, hentry⟩ | ⟨t, ht, rfl, hcovers, hnew⟩)
    · exact ⟨e, he, Or.inl horigin, hentry⟩
    · obtain ⟨e, seat, he, horigin, hstate, hentry⟩ := mem_trials.1 ht
      refine ⟨e, he, Or.inr ⟨seat, t.wildcard, horigin, hstate, hcovers, ?_⟩, hentry⟩
      rw [hentry]
      exact lacks_iff.2 hnew
  · rintro ⟨e, he, horigin | ⟨seat, w, horigin, hstate, hcovers, hlacks⟩, hentry⟩
    · exact Or.inl ⟨e, he, horigin, hentry⟩
    · rw [hentry] at hlacks
      exact Or.inr ⟨⟨w, c⟩, mem_trials.2 ⟨e, seat, he, horigin, hstate, hentry⟩, rfl, hcovers,
        lacks_iff.1 hlacks⟩

/-- The entries of the rows of a state. -/
def rows (p : Program) (state : String) : List Entry := p.explicitRows state ++ p.wildcardRows state

theorem Answers.entries (h : p.Answers) {state : String} (hstate : state ∈ p.states) :
    ((p.claims ++ p.bids).filter (·.state = state)).map (·.entry) = p.rows state := by
  rw [List.filter_append, List.map_append, entries_claims, entries_bids h hstate]
  rfl

theorem entriesFor_table_of_mem (h : p.Answers) {state : String} (hstate : state ∈ p.states) :
    (p.table settings initial (p.claims ++ p.bids)).entriesFor state =
      (p.rows state).map (·.padded (p.channelCount settings.stackCount).toNat) := by
  rw [Compiled.entriesFor, lookup_table, h.entries hstate]
  split
  · next hnone => rw [hnone]; rfl
  · rfl

theorem entriesFor_table_of_not_mem {ss : List Statement}
    (h : ss.mapM Statement.expand = .ok p.rules) {state : String} (hstate : state ∉ p.states) :
    (p.table settings initial (p.claims ++ p.bids)).entriesFor state = [] := by
  rw [List.eq_nil_iff_forall_not_mem]
  intro e he
  obtain ⟨c, hc, rfl, _⟩ := exists_of_mem_entriesFor_table he
  exact hstate (claims_state_mem h hc)

theorem excess?_eq_none_iff (h : p.Answers) :
    p.excess? cap settings (p.claims ++ p.bids) = none ↔ ∀ i e state, p.Has i e → p.Yields state e →
      e.entry.filter.missing (p.channelCount settings.stackCount).toNat ≤ cap.room := by
  unfold excess?
  rw [List.find?_eq_none]
  constructor
  · intro hnone i e state he hyields
    have hc := h.mem_claims_append_bids (c := ⟨i, state, e.entry⟩).2 ⟨e, he, hyields, rfl⟩
    simpa using hnone _ (List.mem_map_of_mem (f := fun c : Claim => c.entry.filter.missing _) hc)
  · intro hall n hn
    obtain ⟨c, hc, rfl⟩ := List.mem_map.1 hn
    obtain ⟨e, he, hyields, hentry⟩ := h.mem_claims_append_bids.1 hc
    rw [← hentry]
    simpa using hall _ e _ he hyields

/-! ## The initial state -/

theorem initialState_eq_ok_iff :
    p.initialState = .ok initial ↔ ∀ name, name ∈ p.initial.map (·.name) ↔ name = initial := by
  rw [← eraseDups_eq_singleton_iff]
  unfold initialState
  constructor
  · intro h
    split at h
    · cases h
    · next name hnames =>
      rw [hnames, Except.ok.inj h]
    · cases h
  · intro h
    rw [h]

/-- The table of a program that can be merged. -/
def finished (p : Program) (settings : Settings) (initial : String) : Compiled :=
  p.table settings initial (p.claims ++ p.bids)

/-! ## What depends on the edges only -/

/-- How many channels are needed: the least number that is enough for every edge. -/
theorem channelCount_le_iff {least n : Int} :
    p.channelCount least ≤ n ↔ least ≤ n ∧
      ∀ e ∈ p.edges, (e.entry.filter.reads.length : Int) ≤ n ∧ e.entry.action.channelsUsed ≤ n := by
  unfold channelCount edges
  generalize p.rules.flatMap (·.edges) = es
  induction es generalizing least with
  | nil => simp
  | cons e es ih =>
    rw [List.foldl_cons, ih, List.forall_mem_cons, max_le_iff, max_le_iff]
    tauto

theorem lacks_iff_edges {state label : String} :
    p.Lacks state label ↔ ∀ e ∈ p.edges, e.origin = .state state → e.entry.label ≠ label := by
  simp only [mem_edges]
  exact ⟨fun h e ⟨i, he⟩ => h i e he, fun h i e he => h e ⟨i, he⟩⟩

theorem answers_iff_edges : p.Answers ↔ ∀ e ∈ p.edges, ∀ seat w, e.origin = .wildcard seat w →
    ∀ state ∈ p.states, w.crosses state = false := by
  constructor
  · intro h e he seat w horigin state hstate
    obtain ⟨i, he⟩ := mem_edges.1 he
    exact h ⟨w, ⟨i, state, e.entry⟩⟩ (mem_trials.2 ⟨e, seat, he, horigin, hstate, rfl⟩)
  · intro h t ht
    obtain ⟨e, seat, he, horigin, hstate, _⟩ := mem_trials.1 ht
    exact h e (mem_edges.2 ⟨_, he⟩) seat _ horigin _ hstate

theorem explicitRows_eq (p : Program) (state : String) :
    p.explicitRows state = p.edges.filterMap (Edge.explicit? state) :=
  List.filterMap_flatMap.symm

theorem wildcardRows_eq (p : Program) (state : String) :
    p.wildcardRows state =
      p.edges.filterMap (Edge.broadcast? state ((p.explicitRows state).map (·.label))) :=
  List.filterMap_flatMap.symm

/-- The row that an edge from a state claims. -/
def claimed? (e : Edge) : Option (String × Entry) :=
  match e.origin with
  | .state name => some (name, e.entry)
  | .wildcard .. => none

/-- The rows that a wildcard edge claims, if the places in `taken` are shadowed. -/
def offered (states : List String) (taken : List (String × String)) (e : Edge) :
    List (String × Entry) :=
  match e.origin with
  | .state _ => []
  | .wildcard _ w => states.filterMap fun state =>
      if w.covers state && !taken.contains (state, e.entry.label) then some (state, e.entry) else none

theorem claims_row (p : Program) : p.claims.map Claim.row = p.edges.filterMap claimed? := by
  unfold claims edges
  rw [List.map_flatMap, List.filterMap_flatMap]
  refine Eq.trans ?_ (flatMap_zipIdx p.rules _)
  congr 1
  funext ⟨x, i⟩
  rw [List.map_filterMap]
  congr 1
  funext e
  unfold claimed?
  cases e.origin with
  | state name => rfl
  | wildcard seat w => rfl

theorem bid?_row (p : Program) (w : Wildcard) (i : Nat) (state : String) (entry : Entry) :
    (p.bid? ⟨w, ⟨i, state, entry⟩⟩).map Claim.row =
      if w.covers state ∧ (state, entry.label) ∉ p.claims.map Claim.labelPlace then
        some (state, entry) else none := by
  rw [bid?_eq_ite]
  exact apply_ite (Option.map Claim.row) _ _ _

theorem Answers.bids_row (h : p.Answers) :
    p.bids.map Claim.row = p.edges.flatMap (offered p.states (p.claims.map Claim.labelPlace)) := by
  rw [bids_eq, h.tried_eq]
  unfold trials edges
  rw [List.map_filterMap, List.filterMap_flatMap, List.flatMap_assoc]
  refine Eq.trans ?_ (flatMap_zipIdx p.rules _)
  congr 1
  funext ⟨x, i⟩
  simp only
  rw [List.filterMap_flatMap]
  congr 1
  funext e
  unfold offered
  cases e.origin with
  | state name => rfl
  | wildcard seat w =>
    simp only [List.filterMap_map, Function.comp_def, bid?_row, Bool.and_eq_true, Bool.not_eq_true',
      List.contains_eq_mem, decide_eq_false_iff_not]

/-- The table depends only on the edges in their order and on the names, not on how the edges are cut
into statements. -/
theorem finished_congr (hedges : p.edges = q.edges) (hstates : p.states = q.states)
    (hlabels : p.labels = q.labels) (haccepting : p.accepting = q.accepting) (hp : p.Answers)
    (hq : q.Answers) : p.finished settings initial = q.finished settings initial := by
  have hclaims : p.claims.map Claim.row = q.claims.map Claim.row := by
    rw [claims_row, claims_row, hedges]
  have hplaces : p.claims.map Claim.labelPlace = q.claims.map Claim.labelPlace := by
    have hplace := congrArg (List.map fun r : String × Entry => (r.1, r.2.label)) hclaims
    rwa [List.map_map, List.map_map] at hplace
  have hrows : (p.claims ++ p.bids).map Claim.row = (q.claims ++ q.bids).map Claim.row := by
    rw [List.map_append, List.map_append, hclaims, hp.bids_row, hq.bids_row, hedges, hstates,
      hplaces]
  have hcount : p.channelCount settings.stackCount = q.channelCount settings.stackCount := by
    change p.edges.foldl _ _ = q.edges.foldl _ _
    rw [hedges]
  unfold finished table
  rw [rowsByState_congr hrows, hcount, hstates, hlabels, haccepting]

/-- Two programs with the same edges, in any order and cut in any way, about the same states with the
same marks. -/
structure Agrees (p q : Program) : Prop where
  edges : p.edges.Perm q.edges
  states : ∀ name, name ∈ p.states ↔ name ∈ q.states
  initial : ∀ name, name ∈ p.initial.map (·.name) ↔ name ∈ q.initial.map (·.name)

namespace Agrees

theorem symm (h : p.Agrees q) : q.Agrees p :=
  ⟨h.edges.symm, fun name => (h.states name).symm, fun name => (h.initial name).symm⟩

theorem lacks (h : p.Agrees q) {state label : String} : p.Lacks state label ↔ q.Lacks state label := by
  rw [lacks_iff_edges, lacks_iff_edges]
  exact forall_congr' fun e => imp_congr_left h.edges.mem_iff

theorem contend (h : p.Agrees q) : p.Contend = q.Contend := by
  funext e f
  unfold Contend
  simp only [h.states, h.lacks]

theorem yields (h : p.Agrees q) {state : String} {e : Edge} :
    p.Yields state e ↔ q.Yields state e := by
  unfold Yields
  rw [h.states, h.lacks]

theorem answers (h : p.Agrees q) : p.Answers ↔ q.Answers := by
  rw [answers_iff_edges, answers_iff_edges]
  simp only [h.states, h.edges.mem_iff]

theorem channelCount (h : p.Agrees q) (least : Int) : p.channelCount least = q.channelCount least := by
  refine eq_of_forall_ge_iff fun n => ?_
  rw [channelCount_le_iff, channelCount_le_iff]
  simp only [h.edges.mem_iff]

theorem rows (h : p.Agrees q) (state : String) : (p.rows state).Perm (q.rows state) := by
  have hexplicit : (p.explicitRows state).Perm (q.explicitRows state) := by
    rw [explicitRows_eq, explicitRows_eq]
    exact h.edges.filterMap _
  have htaken : Edge.broadcast? state ((p.explicitRows state).map (·.label)) =
      Edge.broadcast? state ((q.explicitRows state).map (·.label)) := by
    funext e
    unfold Edge.broadcast?
    simp only [(hexplicit.map Entry.label).mem_iff]
  refine hexplicit.append ?_
  rw [wildcardRows_eq, wildcardRows_eq, htaken]
  exact h.edges.filterMap _

end Agrees

/-! ## Fitness -/

/-- All that a program must meet to be merged into a table. -/
structure Fit (p : Program) (cap : Capacity) (settings : Settings) (initial : String) : Prop where
  edges : p.rules.Pairwise (Expansion.Apart Edge.Clashes)
  wildcards : p.rules.Pairwise (Expansion.Apart p.Contend)
  answers : p.Answers
  initial : ∀ name, name ∈ p.initial.map (·.name) ↔ name = initial
  narrow : ∀ i e state, p.Has i e → p.Yields state e →
    e.entry.filter.missing (p.channelCount settings.stackCount).toNat ≤ cap.room

/-- Whether a program is fit depends on how it is cut into statements only by what is apart. -/
theorem Fit.of_agrees (hfit : p.Fit cap settings initial) (h : p.Agrees q)
    (hedges : q.rules.Pairwise (Expansion.Apart Edge.Clashes))
    (hwildcards : q.rules.Pairwise (Expansion.Apart p.Contend)) : q.Fit cap settings initial where
  edges := hedges
  wildcards := h.contend ▸ hwildcards
  answers := h.answers.1 hfit.answers
  initial := fun name => by rw [← h.initial, hfit.initial]
  narrow := by
    intro i e state he hyields
    obtain ⟨j, hj⟩ := mem_edges.1 (h.edges.mem_iff.2 (mem_edges.2 ⟨i, he⟩))
    rw [← h.channelCount]
    exact hfit.narrow j e state hj (h.yields.2 hyields)

theorem merge_result_iff {t : Compiled} :
    (p.merge cap settings).result = .ok t ↔
      ∃ initial, p.Fit cap settings initial ∧ t = p.finished settings initial := by
  have hmerges := p.merges cap settings
  generalize (p.merge cap settings).result = result at hmerges
  constructor
  · rintro rfl
    cases hmerges with
    | @table initial hclaims hbids hanswers hinitial hwidth =>
      refine ⟨initial, ⟨?_, ?_, hanswers, initialState_eq_ok_iff.1 hinitial,
        (excess?_eq_none_iff hanswers).1 hwidth⟩, rfl⟩
      · have hnone : ¬ p.EdgesClash := by rwa [edgesClash_iff, not_not]
        rwa [edgesClash_iff_not_apart, not_not] at hnone
      · have hnone : ¬ p.WildcardsClash := by rwa [← hanswers.triedClash_iff, triedClash_iff, not_not]
        rwa [wildcardsClash_iff_not_apart, not_not] at hnone
  · rintro ⟨initial, hfit, rfl⟩
    have hclaims : Peaceful Claim.filterPlace p.claims := by
      rw [← not_not (a := Peaceful _ _), ← edgesClash_iff, edgesClash_iff_not_apart, not_not]
      exact hfit.edges
    have hbids : Peaceful Claim.labelPlace p.bids := by
      rw [← not_not (a := Peaceful _ _), ← triedClash_iff, hfit.answers.triedClash_iff,
        wildcardsClash_iff_not_apart, not_not]
      exact hfit.wildcards
    have hinitial := initialState_eq_ok_iff.2 hfit.initial
    have hwidth := (excess?_eq_none_iff hfit.answers).2 hfit.narrow
    cases hmerges with
    | explicit hconflict => exact absurd hclaims hconflict.not_peaceful
    | wildcards _ hconflict => exact absurd hbids hconflict.not_peaceful
    | crosses _ _ ht =>
      have hcrosses := hfit.answers _ (List.mem_of_find?_eq_some ht)
      rw [List.find?_some ht] at hcrosses
      cases hcrosses
    | unsettled _ _ _ hinitial' =>
      rw [hinitial] at hinitial'
      cases hinitial'
    | tooWide _ _ _ _ hwidth' =>
      rw [hwidth] at hwidth'
      cases hwidth'
    | table _ _ _ hinitial' _ =>
      rw [hinitial] at hinitial'
      obtain rfl := Except.ok.inj hinitial'
      rfl

end Program

/-- **When statements compile.** -/
theorem compiled_iff {settings : Settings} {ss : List Statement} {t : Compiled} :
    (compileStatements cap settings ss).result = .ok t ↔ ∃ rules initial,
      ss.mapM Statement.expand = .ok rules ∧ (⟨rules⟩ : Program).Fit cap settings initial ∧
      t = (⟨rules⟩ : Program).finished settings initial := by
  cases hrules : ss.mapM Statement.expand with
  | error e =>
    constructor
    · intro h
      rw [compileStatements, hrules] at h
      cases h
    · rintro ⟨_, _, h, _⟩
      cases h
  | ok rules =>
    rw [compileStatements_result hrules, Program.merge_result_iff]
    constructor
    · rintro ⟨initial, hfit, ht⟩
      exact ⟨rules, initial, rfl, hfit, ht⟩
    · rintro ⟨_, initial, h, hfit, ht⟩
      obtain rfl := Except.ok.inj h
      exact ⟨initial, hfit, ht⟩

end ArrowMachine
