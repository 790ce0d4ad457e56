import ArrowMachine.Rule.Edge
import Mathlib.Data.List.Basic

/-!
What the edges of a statement come from.

Every edge that a statement expands to says of a state what a transition of the statement says, and
starts at a node of the statement (`Statement.expand_edge`). The states of the expansion are those that
the statement mentions (`Statement.mem_expand_states`).
-/
namespace ArrowMachine

/-- The part that a node was read from. -/
def Node.part : Node → Part
  | .state s => .state s
  | .wildcard _ w => .wildcard w

/-- An edge from a node among `ps`, by a transition among `ps`, to a state among `ps`. -/
structure Edge.Among (ps : List Part) (e : Edge) (source : Node) (t : TransitionPart)
    (target : StatePart) : Prop where
  source_mem : source.part ∈ ps
  transition_mem : .transition t ∈ ps
  target_mem : .state target ∈ ps
  origin : e.origin = source.origin
  entry : e.entry = t.entry target.name

/-! ## Links -/

theorem mem_linksFrom {left : Node} {pending : List TransitionPart} {n : Nat} {ps : List Part}
    {l : Link} (h : l ∈ linksFrom left pending n ps) :
    (l.left = left ∨ l.left.part ∈ ps) ∧ l.right.part ∈ ps ∧
      ∀ t ∈ l.transitions, t ∈ pending ∨ Part.transition t ∈ ps := by
  induction ps generalizing left pending n with
  | nil => cases h
  | cons p ps ih =>
    -- A node ends the link that is under way and begins the next one.
    have hnode : ∀ node : Node, node.part = p →
        l ∈ ⟨left, pending, node⟩ :: linksFrom node [] (n + 1) ps →
        (l.left = left ∨ l.left.part ∈ p :: ps) ∧ l.right.part ∈ p :: ps ∧
          ∀ t ∈ l.transitions, t ∈ pending ∨ Part.transition t ∈ p :: ps := by
      rintro node rfl hl
      rcases List.mem_cons.1 hl with rfl | hl
      · exact ⟨Or.inl rfl, List.mem_cons_self, fun t ht => Or.inl ht⟩
      · obtain ⟨hleft, hright, htransitions⟩ := ih hl
        refine ⟨Or.inr ?_, List.mem_cons_of_mem _ hright, fun t ht => Or.inr ?_⟩
        · rcases hleft with hleft | hleft
          · rw [hleft]
            exact List.mem_cons_self
          · exact List.mem_cons_of_mem _ hleft
        · rcases htransitions t ht with ht | ht
          · cases ht
          · exact List.mem_cons_of_mem _ ht
    cases p with
    | state s => exact hnode (.state s) rfl h
    | wildcard w => exact hnode (.wildcard n w) rfl h
    | transition t =>
      obtain ⟨hleft, hright, htransitions⟩ := ih h
      refine ⟨hleft.imp_right (List.mem_cons_of_mem _), List.mem_cons_of_mem _ hright, ?_⟩
      intro u hu
      rcases htransitions u hu with hu | hu
      · rcases List.mem_append.1 hu with hu | hu
        · exact Or.inl hu
        · rw [List.mem_singleton.1 hu]
          exact Or.inr List.mem_cons_self
      · exact Or.inr (List.mem_cons_of_mem _ hu)

theorem mem_links {ps : List Part} {l : Link} (h : l ∈ links ps) :
    l.left.part ∈ ps ∧ l.right.part ∈ ps ∧ ∀ t ∈ l.transitions, Part.transition t ∈ ps := by
  have hfirst : ∀ (node : Node) (rest : List Part), l ∈ linksFrom node [] 1 rest →
      l.left.part ∈ node.part :: rest ∧ l.right.part ∈ node.part :: rest ∧
        ∀ t ∈ l.transitions, Part.transition t ∈ node.part :: rest := by
    intro node rest hl
    obtain ⟨hleft, hright, htransitions⟩ := mem_linksFrom hl
    refine ⟨?_, List.mem_cons_of_mem _ hright, fun t ht => ?_⟩
    · rcases hleft with hleft | hleft
      · rw [hleft]
        exact List.mem_cons_self
      · exact List.mem_cons_of_mem _ hleft
    · rcases htransitions t ht with ht | ht
      · cases ht
      · exact List.mem_cons_of_mem _ ht
  rcases ps with _ | ⟨_ | _ | _, rest⟩
  · cases h
  · exact hfirst (.state _) rest h
  · exact hfirst (.wildcard 0 _) rest h
  · cases h

/-! ## Attempts -/

theorem TransitionPart.edge_eq_ok {t : TransitionPart} {source target : Node} {e : Edge}
    (h : t.edge source target = .ok e) :
    ∃ s, target = .state s ∧ e = ⟨source.origin, t.entry s.name⟩ := by
  cases target with
  | state s => exact ⟨s, rfl, (Except.ok.inj h).symm⟩
  | wildcard seat w => cases h

theorem Link.mem_attempts {l : Link} {a : Except CompileError Edge} (h : a ∈ l.attempts) :
    a = .error (.of .noTransition [l.left.pos, l.right.pos]) ∨
      ∃ t ∈ l.transitions, a = t.edge l.left l.right ∨ a = t.edge l.right l.left := by
  unfold attempts at h
  split at h
  · exact Or.inl (List.mem_singleton.1 h)
  · obtain ⟨t, ht, h⟩ := List.mem_flatMap.1 h
    refine Or.inr ⟨t, ht, ?_⟩
    unfold directed at h
    split at h
    · exact Or.inl (List.mem_singleton.1 h)
    · exact Or.inr (List.mem_singleton.1 h)
    · rcases List.mem_cons.1 h with h | h
      · exact Or.inl h
      · split at h
        · cases h
        · exact Or.inr (List.mem_singleton.1 h)

theorem Link.ok_mem_attempts {l : Link} {e : Edge} (h : .ok e ∈ l.attempts) :
    ∃ t ∈ l.transitions, t.edge l.left l.right = .ok e ∨ t.edge l.right l.left = .ok e := by
  rcases mem_attempts h with h | ⟨t, ht, h⟩
  · cases h
  · exact ⟨t, ht, h.imp Eq.symm Eq.symm⟩

/-- Collecting succeeds exactly if all attempts do and no edge repeats an earlier one. -/
theorem collect_eq_ok_iff {done es : List Edge} {as : List (Except CompileError Edge)} :
    collect done as = .ok es ↔ ∃ new, es = done ++ new ∧ as = new.map .ok ∧
      (∀ e ∈ new, ∀ d ∈ done, e.repeats d = false) ∧
      new.Pairwise fun d e => e.repeats d = false := by
  induction as generalizing done with
  | nil =>
    constructor
    · intro h
      exact ⟨[], by simpa using (Except.ok.inj h).symm, rfl, by simp, .nil⟩
    · rintro ⟨new, rfl, hnew, _, _⟩
      rw [List.map_eq_nil_iff.1 hnew.symm, List.append_nil]
      rfl
  | cons a as ih =>
    cases a with
    | error f =>
      constructor
      · intro h
        cases h
      · rintro ⟨new, _, hnew, _, _⟩
        cases new <;> cases hnew
    | ok e =>
      rw [collect]
      by_cases hrepeats : done.any e.repeats = true
      · rw [if_pos hrepeats]
        obtain ⟨d, hd, hed⟩ := List.any_eq_true.1 hrepeats
        constructor
        · intro h
          cases h
        · rintro ⟨new, _, hnew, hdone, _⟩
          obtain ⟨f, rest, rfl, hf, _⟩ := List.map_eq_cons_iff.1 hnew.symm
          obtain rfl := Except.ok.inj hf
          rw [hdone f List.mem_cons_self d hd] at hed
          cases hed
      · rw [if_neg hrepeats, ih]
        have hfresh : ∀ d ∈ done, e.repeats d = false := by simpa using hrepeats
        constructor
        · rintro ⟨new, rfl, rfl, hdone, hnew⟩
          refine ⟨e :: new, by simp, rfl, ?_, List.pairwise_cons.2 ⟨?_, hnew⟩⟩
          · rintro f hf d hd
            rcases List.mem_cons.1 hf with rfl | hf
            · exact hfresh d hd
            · exact hdone f hf d (List.mem_append_left _ hd)
          · exact fun f hf => hdone f hf e (List.mem_append_right _ (List.mem_singleton_self e))
        · rintro ⟨new, rfl, hnew, hdone, hpairwise⟩
          obtain ⟨f, rest, rfl, hf, rfl⟩ := List.map_eq_cons_iff.1 hnew.symm
          obtain rfl := Except.ok.inj hf
          obtain ⟨hfirst, hrest⟩ := List.pairwise_cons.1 hpairwise
          refine ⟨rest, by simp, rfl, ?_, hrest⟩
          intro g hg d hd
          rcases List.mem_append.1 hd with hd | hd
          · exact hdone g (List.mem_cons_of_mem _ hg) d hd
          · rw [List.mem_singleton.1 hd]
            exact hfirst g hg

/-! ## Statements -/

theorem collect_nil_eq_ok_iff {es : List Edge} {as : List (Except CompileError Edge)} :
    collect [] as = .ok es ↔ as = es.map .ok ∧ es.Pairwise fun d e => e.repeats d = false := by
  rw [collect_eq_ok_iff]
  constructor
  · rintro ⟨new, rfl, has, _, hnew⟩
    exact ⟨has, hnew⟩
  · rintro ⟨has, hnew⟩
    exact ⟨es, rfl, has, by simp, hnew⟩

theorem collect_append (done : List Edge) (as bs : List (Except CompileError Edge)) :
    collect done (as ++ bs) = collect done as >>= fun es => collect es bs := by
  induction as generalizing done with
  | nil => rfl
  | cons a as ih =>
    cases a with
    | error f => rfl
    | ok e =>
      rw [List.cons_append, collect, collect]
      split
      · rfl
      · exact ih _

/-- What an edge is refused for that repeats an earlier one. -/
def Edge.repetition (e : Edge) : CompileError := .of (.duplicate e.origin.text e.entry.label) [e.entry.pos]

/-- Collecting fails where all goes well up to an attempt that fails or repeats an earlier edge. -/
theorem collect_eq_error_iff {done : List Edge} {as : List (Except CompileError Edge)}
    {f : CompileError} : collect done as = .error f ↔ ∃ new a rest, as = new.map .ok ++ a :: rest ∧
      collect done (new.map .ok) = .ok (done ++ new) ∧
      (a = .error f ∨ ∃ e, a = .ok e ∧ (∃ d ∈ done ++ new, e.repeats d = true) ∧ e.repetition = f) := by
  constructor
  · intro h
    induction as generalizing done with
    | nil => cases h
    | cons a as ih =>
      cases a with
      | error g =>
        obtain rfl := Except.error.inj h
        exact ⟨[], _, as, rfl, by simp [collect], Or.inl rfl⟩
      | ok e =>
        rw [collect] at h
        by_cases hrepeats : done.any e.repeats = true
        · rw [if_pos hrepeats] at h
          refine ⟨[], _, as, rfl, by simp [collect], Or.inr ⟨e, rfl, ?_, Except.error.inj h⟩⟩
          rw [List.append_nil]
          exact List.any_eq_true.1 hrepeats
        · rw [if_neg hrepeats] at h
          obtain ⟨new, a, rest, rfl, hnew, ha⟩ := ih h
          rw [List.append_assoc, List.singleton_append] at hnew ha
          refine ⟨e :: new, a, rest, rfl, ?_, ha⟩
          rw [List.map_cons, collect, if_neg hrepeats]
          exact hnew
  · rintro ⟨new, a, rest, rfl, hnew, ha⟩
    rw [collect_append, hnew]
    rcases ha with rfl | ⟨e, rfl, ⟨d, hd, hrepeats⟩, rfl⟩
    · rfl
    · exact if_pos (List.any_eq_true.2 ⟨d, hd, hrepeats⟩)

theorem Node.renumber_id (node : Node) : node.renumber id = node := by
  cases node <;> rfl

theorem Link.map_renumber_id (ls : List Link) : ls.map (Link.renumber id) = ls := by
  have hid : Link.renumber id = id := by
    funext l
    rw [Link.renumber, Node.renumber_id, Node.renumber_id]
    rfl
  rw [hid, List.map_id]

namespace Statement

variable {s : Statement} {x : Expansion}

/-- What a framed statement with the links `ls` expands to: an edge for every attempt, none of which repeats
an earlier one, and the names that it mentions. -/
structure Expands (s : Statement) (ls : List Link) (x : Expansion) : Prop where
  framed : s.isFramed = true
  attempts : ls.flatMap Link.attempts = x.edges.map .ok
  fresh : x.edges.Pairwise fun d e => e.repeats d = false
  states : x.states = (s.stateParts.map (·.name)).eraseDups
  labels : x.labels = (s.parts.filterMap Part.label?).eraseDups
  initial : x.initial = s.stateParts.filter (·.initial)
  accepting : x.accepting = ((s.stateParts.filter (·.accepting)).map (·.name)).eraseDups

theorem expandWith_eq_ok_iff {token : Nat → Nat} :
    s.expandWith token = .ok x ↔ s.Expands ((links s.parts).map (Link.renumber token)) x := by
  unfold expandWith
  generalize (links s.parts).map (Link.renumber token) = ls
  have hcollect : ∀ es, collect [] (ls.flatMap Link.attempts) = .ok es ↔
      ls.flatMap Link.attempts = es.map .ok ∧ es.Pairwise fun d e => e.repeats d = false :=
    fun _ => collect_nil_eq_ok_iff
  by_cases hframed : s.isFramed = true
  · rw [if_pos hframed]
    cases hedges : collect [] (ls.flatMap Link.attempts) with
    | error e =>
      constructor
      · intro h
        cases h
      · intro h
        rw [(hcollect _).2 ⟨h.attempts, h.fresh⟩] at hedges
        cases hedges
    | ok edges =>
      obtain ⟨has, hnew⟩ := (hcollect edges).1 hedges
      constructor
      · intro h
        obtain rfl := Except.ok.inj h
        exact ⟨hframed, has, hnew, rfl, rfl, rfl, rfl⟩
      · rintro ⟨_, has', _, hstates, hlabels, hinitial, haccepting⟩
        have hedges' : edges = x.edges :=
          (List.map_injective_iff.2 fun _ _ => Except.ok.inj) (has.symm.trans has')
        rw [hedges', ← hstates, ← hlabels, ← hinitial, ← haccepting]
        rfl
  · rw [if_neg hframed]
    constructor
    · intro h
      cases h
    · exact fun h => absurd h.framed hframed

theorem expandWith_eq_error_iff {token : Nat → Nat} {f : CompileError} :
    s.expandWith token = .error f ↔ (s.isFramed = false ∧ f = .of .unframed [s.pos]) ∨
      (s.isFramed = true ∧
        collect [] (((links s.parts).map (Link.renumber token)).flatMap Link.attempts) = .error f) := by
  unfold expandWith
  generalize collect [] (((links s.parts).map (Link.renumber token)).flatMap Link.attempts) = collected
  cases s.isFramed with
  | false => simp [eq_comm]
  | true => cases collected <;> simp [Except.map]

theorem expand_eq_ok_iff : s.expand = .ok x ↔ s.Expands (links s.parts) x := by
  rw [expand, expandWith_eq_ok_iff, Link.map_renumber_id]

/-- Every edge is what an attempt of a link came to. -/
theorem exists_link (h : s.expand = .ok x) {e : Edge} (he : e ∈ x.edges) :
    ∃ l ∈ links s.parts, .ok e ∈ l.attempts := by
  refine List.mem_flatMap.1 ?_
  rw [(expand_eq_ok_iff.1 h).attempts]
  exact List.mem_map_of_mem he

/-- **Every edge was written.** -/
theorem expand_edge (h : s.expand = .ok x) {e : Edge} (he : e ∈ x.edges) :
    ∃ source t target, e.Among s.parts source t target := by
  obtain ⟨l, hl, hattempt⟩ := exists_link h he
  obtain ⟨hleft, hright, htransitions⟩ := mem_links hl
  obtain ⟨t, ht, hedge | hedge⟩ := Link.ok_mem_attempts hattempt
  · obtain ⟨target, htarget, rfl⟩ := TransitionPart.edge_eq_ok hedge
    rw [htarget] at hright
    exact ⟨l.left, t, target, hleft, htransitions t ht, hright, rfl, rfl⟩
  · obtain ⟨target, htarget, rfl⟩ := TransitionPart.edge_eq_ok hedge
    rw [htarget] at hleft
    exact ⟨l.right, t, target, hright, htransitions t ht, hleft, rfl, rfl⟩

theorem mem_stateParts {p : StatePart} : p ∈ s.stateParts ↔ .state p ∈ s.parts := by
  unfold stateParts
  rw [List.mem_filterMap]
  constructor
  · rintro ⟨part, hpart, h⟩
    cases part with
    | state q =>
      obtain rfl : q = p := Option.some.inj h
      exact hpart
    | wildcard _ => cases h
    | transition _ => cases h
  · exact fun h => ⟨_, h, rfl⟩

theorem mem_expand_states (h : s.expand = .ok x) {name : String} :
    name ∈ x.states ↔ ∃ p, .state p ∈ s.parts ∧ p.name = name := by
  rw [(expand_eq_ok_iff.1 h).states, List.mem_eraseDups, List.mem_map]
  simp only [mem_stateParts]

/-! ## Statements of rules -/

/-- A statement as a rule says it: a node, and then one or more legs, each of one or more transitions
and the state that they lead to. -/
def IsRule (s : Statement) : Prop :=
  ∃ source legs, source.isNode = true ∧ legs ≠ [] ∧ s.parts = source :: legs.flatten ∧
    ∀ leg ∈ legs, ∃ ts q, ts ≠ [] ∧ leg = ts.map Part.transition ++ [.state q]

/-- Behind its source a rule mentions states, and no wildcards. -/
theorem IsRule.rest (h : s.IsRule) : ∃ source rest, source.isNode = true ∧
    s.parts = source :: rest ∧ (∀ w, .wildcard w ∉ rest) ∧ ∃ q, .state q ∈ rest := by
  obtain ⟨source, legs, hsource, hne, hparts, hlegs⟩ := h
  refine ⟨source, legs.flatten, hsource, hparts, fun w hw => ?_, ?_⟩
  · obtain ⟨leg, hleg, hw⟩ := List.mem_flatten.1 hw
    obtain ⟨ts, q, _, rfl⟩ := hlegs leg hleg
    simp at hw
  · obtain ⟨leg, hleg⟩ := List.exists_mem_of_ne_nil legs hne
    obtain ⟨ts, q, _, rfl⟩ := hlegs leg hleg
    exact ⟨q, List.mem_flatten.2 ⟨_, hleg, List.mem_append_right _ (List.mem_singleton_self _)⟩⟩

end Statement

/-- Where no wildcard follows, links lead to states, and from states but for the first. -/
theorem ends_of_mem_linksFrom {left : Node} {pending : List TransitionPart} {n : Nat} {ps : List Part}
    (hno : ∀ w, .wildcard w ∉ ps) {l : Link} (h : l ∈ linksFrom left pending n ps) :
    (l.left = left ∨ ∃ q, l.left = .state q) ∧ ∃ q, l.right = .state q := by
  induction ps generalizing left pending n with
  | nil => cases h
  | cons p ps ih =>
    have hrest : ∀ w, .wildcard w ∉ ps := fun w hw => hno w (List.mem_cons_of_mem _ hw)
    cases p with
    | transition t => exact ih hrest h
    | wildcard w => exact absurd List.mem_cons_self (hno w)
    | state q =>
      rcases List.mem_cons.1 h with rfl | h
      · exact ⟨Or.inl rfl, q, rfl⟩
      · obtain ⟨hleft, hright⟩ := ih hrest h
        exact ⟨Or.inr (hleft.elim (fun hl => ⟨q, hl⟩) id), hright⟩

theorem linksFrom_ne_nil {left : Node} {pending : List TransitionPart} {n : Nat} {ps : List Part}
    {q : StatePart} (h : .state q ∈ ps) : linksFrom left pending n ps ≠ [] := by
  induction ps generalizing left pending n with
  | nil => cases h
  | cons p ps ih =>
    cases p with
    | transition t => exact ih ((List.mem_cons.1 h).resolve_left (by simp))
    | wildcard w => exact List.cons_ne_nil _ _
    | state r => exact List.cons_ne_nil _ _

theorem Link.attempts_ne_nil (l : Link) : l.attempts ≠ [] := by
  unfold attempts
  split
  · exact List.cons_ne_nil _ _
  · next hsome =>
    obtain ⟨t, ts, hts⟩ := List.exists_cons_of_ne_nil (by simpa using hsome)
    rw [hts, List.flatMap_cons]
    refine List.append_ne_nil_of_left_ne_nil ?_ _
    unfold directed
    split <;> simp

namespace Statement

variable {s : Statement} {x : Expansion}

/-- The wildcard of a rule is the source of the rule. -/
theorem IsRule.seat_eq_zero (h : s.IsRule) (hexpand : s.expand = .ok x) {e : Edge} (he : e ∈ x.edges)
    {seat : Nat} {w : Wildcard} (horigin : e.origin = .wildcard seat w) : seat = 0 := by
  obtain ⟨source, rest, _, hparts, hno, _⟩ := h.rest
  obtain ⟨l, hl, hattempt⟩ := exists_link hexpand he
  rw [hparts] at hl
  obtain ⟨node, hlinks, hfirst⟩ : ∃ node, l ∈ linksFrom node [] 1 rest ∧
      ∀ seat w, node.origin = .wildcard seat w → seat = 0 := by
    cases source with
    | state q => exact ⟨.state q, hl, fun _ _ h => (nomatch h)⟩
    | wildcard v => exact ⟨.wildcard 0 v, hl, fun _ _ h => by cases h; rfl⟩
    | transition t => cases hl
  obtain ⟨hleft, r, hright⟩ := ends_of_mem_linksFrom hno hlinks
  obtain ⟨t, _, hedge | hedge⟩ := Link.ok_mem_attempts hattempt
  · obtain ⟨_, _, rfl⟩ := TransitionPart.edge_eq_ok hedge
    rcases hleft with hleft | ⟨q, hleft⟩
    · exact hfirst seat w (hleft ▸ horigin)
    · rw [hleft] at horigin
      cases horigin
  · obtain ⟨_, _, rfl⟩ := TransitionPart.edge_eq_ok hedge
    rw [hright] at horigin
    cases horigin

/-- Every rule that expands has an edge. -/
theorem IsRule.edges_ne_nil (h : s.IsRule) (hexpand : s.expand = .ok x) : x.edges ≠ [] := by
  obtain ⟨source, rest, hsource, hparts, _, q, hq⟩ := h.rest
  have hlinks : links s.parts ≠ [] := by
    rw [hparts]
    cases source with
    | state r => exact linksFrom_ne_nil hq
    | wildcard w => exact linksFrom_ne_nil hq
    | transition t => cases hsource
  obtain ⟨l, ls, hls⟩ := List.exists_cons_of_ne_nil hlinks
  intro hnone
  have hattempts := (expand_eq_ok_iff.1 hexpand).attempts
  rw [hnone, hls, List.flatMap_cons] at hattempts
  exact l.attempts_ne_nil (List.append_eq_nil_iff.1 hattempts).1

end Statement

end ArrowMachine
