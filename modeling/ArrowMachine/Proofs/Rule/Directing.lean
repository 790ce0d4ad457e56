import ArrowMachine.Proofs.Table.Rows

/-!
Statements as directed edges.

A statement that starts and ends with nodes is cut into its neighbouring nodes with the transitions between
them in one way (`Statement.exists_cut_iff`, `Statement.Cut.unique`). Each transition says one arrow or two
(`Link.arrows`), and what a statement expands to are the edges of its arrows in order, if all of them lead
to states and no two are the same, with the names that it mentions in the order in which they come first
(`Statement.expandWith_iff_directed`).
-/
namespace ArrowMachine

/-! ## Neighbours -/

/-- The node of a state or a wildcard; a wildcard has the number that is given. -/
def Part.node? (number : Nat) : Part → Option Node
  | state s => some (.state s)
  | wildcard w => some (.wildcard number w)
  | transition _ => none

/-- The parts behind the node `left`, the first of them in place `place`, are transitions up to the next
node, and so on up to the last; the links are these neighbours with their transitions. -/
inductive Neighbours (token : Nat → Nat) : (place : Nat) → (left : Node) → List Part → List Link → Prop
  | nil (place : Nat) (left : Node) : Neighbours token place left [] []
  | cons {place : Nat} {left right : Node} {p : Part} {ps : List Part} {ls : List Link}
      (ts : List TransitionPart) :
      p.node? (token (place + ts.length)) = some right →
      Neighbours token (place + ts.length + 1) right ps ls →
      Neighbours token place left (ts.map Part.transition ++ p :: ps) (⟨left, ts, right⟩ :: ls)

/-- A statement is a node and its neighbours behind it. -/
def Statement.Cut (token : Nat → Nat) (s : Statement) (ls : List Link) : Prop :=
  ∃ p ps first, s.parts = p :: ps ∧ p.node? (token 0) = some first ∧ Neighbours token 1 first ps ls

namespace Part

theorem isNode_iff {p : Part} (number : Nat) : p.isNode = true ↔ ∃ n, p.node? number = some n := by
  cases p <;> simp [isNode, node?]

theorem renumber_node? (token : Nat → Nat) (p : Part) (place : Nat) :
    (p.node? place).map (Node.renumber token) = p.node? (token place) := by
  cases p <;> rfl

end Part

theorem linksFrom_transitions (left : Node) (pending ts : List TransitionPart) (place : Nat)
    (ps : List Part) : linksFrom left pending place (ts.map Part.transition ++ ps) =
      linksFrom left (pending ++ ts) (place + ts.length) ps := by
  induction ts generalizing pending place with
  | nil => rw [List.append_nil]; rfl
  | cons t ts ih =>
    rw [List.map_cons, List.cons_append, linksFrom, ih, List.append_assoc, List.length_cons,
      Nat.add_right_comm, Nat.add_assoc]
    rfl

theorem linksFrom_node {p : Part} {place : Nat} {node : Node} (h : p.node? place = some node)
    (left : Node) (pending : List TransitionPart) (ps : List Part) :
    linksFrom left pending place (p :: ps) = ⟨left, pending, node⟩ :: linksFrom node [] (place + 1) ps := by
  cases p with
  | state s =>
    obtain rfl := Option.some.inj h
    rfl
  | wildcard w =>
    obtain rfl := Option.some.inj h
    rfl
  | transition t => cases h

theorem links_node {p : Part} {node : Node} (h : p.node? 0 = some node) (ps : List Part) :
    links (p :: ps) = linksFrom node [] 1 ps := by
  cases p with
  | state s =>
    obtain rfl := Option.some.inj h
    rfl
  | wildcard w =>
    obtain rfl := Option.some.inj h
    rfl
  | transition t => cases h

namespace Neighbours

variable {token : Nat → Nat} {place : Nat} {left : Node} {ps : List Part} {ls : List Link}

/-- Neighbours are what a statement is cut into. -/
theorem eq_linksFrom (h : Neighbours token place (left.renumber token) ps ls) :
    ls = (linksFrom left [] place ps).map (Link.renumber token) := by
  generalize hleft : left.renumber token = left' at h
  induction h generalizing left with
  | nil => rfl
  | @cons place left' right p ps ls ts hnode _ ih =>
    rw [← Part.renumber_node?] at hnode
    obtain ⟨node, hseat, rfl⟩ := Option.map_eq_some_iff.1 hnode
    rw [linksFrom_transitions, linksFrom_node hseat, List.map_cons, ← ih rfl, List.nil_append,
      Link.renumber, hleft]

/-- The last part behind a node is a node. -/
theorem isNode_getLast? (h : Neighbours token place left ps ls) : ∀ p ∈ ps.getLast?, p.isNode = true := by
  induction h with
  | nil => exact fun p hp => by cases hp
  | @cons place left right p ps ls ts hnode _ ih =>
    intro q hq
    rw [List.getLast?_append_cons] at hq
    cases ps with
    | nil =>
      obtain rfl := Option.some.inj hq
      exact (Part.isNode_iff _).2 ⟨right, hnode⟩
    | cons r ps => exact ih q hq

end Neighbours

/-- Parts begin with transitions, and what is behind them does not. -/
theorem exists_leading_transitions (ps : List Part) : ∃ (ts : List TransitionPart) (rest : List Part),
    ps = ts.map Part.transition ++ rest ∧ ∀ p ∈ rest.head?, p.isNode = true := by
  induction ps with
  | nil => exact ⟨[], [], rfl, fun p hp => by cases hp⟩
  | cons p ps ih =>
    by_cases hnode : p.isNode = true
    · refine ⟨[], p :: ps, rfl, fun q hq => ?_⟩
      obtain rfl := Option.some.inj hq
      exact hnode
    · cases p with
      | state s => exact absurd rfl hnode
      | wildcard w => exact absurd rfl hnode
      | transition t =>
        obtain ⟨ts, rest, rfl, hrest⟩ := ih
        exact ⟨t :: ts, rest, rfl, hrest⟩

/-- Parts that end with a node are cut into neighbours. -/
theorem Neighbours.exists_of_getLast? (token : Nat → Nat) (place : Nat) (left : Node) (ps : List Part)
    (h : ∀ p ∈ ps.getLast?, p.isNode = true) : ∃ ls, Neighbours token place left ps ls := by
  obtain ⟨ts, rest, hps, hrest⟩ := exists_leading_transitions ps
  cases rest with
  | nil =>
    rw [List.append_nil] at hps
    rcases List.eq_nil_or_concat ts with rfl | ⟨ts, t, rfl⟩
    · rw [hps]
      exact ⟨[], .nil place left⟩
    · rw [hps, List.concat_eq_append, List.map_append] at h
      have htransition := h (.transition t) (by simp)
      cases htransition
  | cons p rest =>
    obtain ⟨right, hright⟩ := (Part.isNode_iff (token (place + ts.length))).1 (hrest p rfl)
    have hlast : ∀ q ∈ rest.getLast?, q.isNode = true := by
      intro q hq
      refine h q ?_
      rw [hps, List.getLast?_append_cons, List.getLast?_cons]
      rw [Option.mem_def] at hq
      rw [hq]
      rfl
    obtain ⟨ls, hls⟩ := exists_of_getLast? token (place + ts.length + 1) right rest hlast
    rw [hps]
    exact ⟨⟨left, ts, right⟩ :: ls, .cons ts hright hls⟩
termination_by ps.length
decreasing_by
  rw [hps]
  simp
  omega

namespace Statement

variable {token : Nat → Nat} {s : Statement} {ls ls' : List Link}

theorem Cut.eq_links (h : s.Cut token ls) : ls = (links s.parts).map (Link.renumber token) := by
  obtain ⟨p, ps, first, hparts, hfirst, hneighbours⟩ := h
  rw [← Part.renumber_node?] at hfirst
  obtain ⟨node, hseat, rfl⟩ := Option.map_eq_some_iff.1 hfirst
  rw [hparts, links_node hseat]
  exact hneighbours.eq_linksFrom

/-- A statement is cut in one way. -/
theorem Cut.unique (h : s.Cut token ls) (h' : s.Cut token ls') : ls = ls' := by
  rw [h.eq_links, h'.eq_links]

/-- **Exactly the statements are cut that start and end with a node.** -/
theorem exists_cut_iff (token : Nat → Nat) (s : Statement) : (∃ ls, s.Cut token ls) ↔
    s.parts ≠ [] ∧ (∀ p ∈ s.parts.head?, p.isNode = true) ∧
      ∀ p ∈ s.parts.getLast?, p.isNode = true := by
  constructor
  · rintro ⟨ls, p, ps, first, hparts, hfirst, hneighbours⟩
    have hnode : p.isNode = true := (Part.isNode_iff _).2 ⟨first, hfirst⟩
    rw [hparts]
    refine ⟨List.cons_ne_nil _ _, fun q hq => ?_, fun q hq => ?_⟩
    · obtain rfl := Option.some.inj hq
      exact hnode
    · cases ps with
      | nil =>
        obtain rfl := Option.some.inj hq
        exact hnode
      | cons r ps => exact hneighbours.isNode_getLast? q hq
  · rintro ⟨hne, hhead, hlast⟩
    obtain ⟨p, ps, hparts⟩ := List.exists_cons_of_ne_nil hne
    rw [hparts] at hhead hlast
    obtain ⟨first, hfirst⟩ := (Part.isNode_iff (token 0)).1 (hhead p rfl)
    obtain ⟨ls, hls⟩ := Neighbours.exists_of_getLast? token 1 first ps fun q hq => hlast q (by
      rw [List.getLast?_cons, Option.mem_def.1 hq]
      rfl)
    exact ⟨ls, p, ps, first, hparts, hfirst, hls⟩

theorem isFramed_iff : s.isFramed = true ↔ s.parts ≠ [] ∧ (∀ p ∈ s.parts.head?, p.isNode = true) ∧
    ∀ p ∈ s.parts.getLast?, p.isNode = true := by
  unfold isFramed
  cases hparts : s.parts with
  | nil => simp
  | cons p ps => simp [List.getLast?_cons]

end Statement

/-! ## Arrows -/

/-- A transition from one node to another. -/
structure Arrow where
  source : Node
  transition : TransitionPart
  target : Node

/-- The edge of an arrow, unless it leads to a wildcard. -/
def Arrow.edge? (a : Arrow) : Option Edge :=
  match a.target with
  | .state s => some ⟨a.source.origin, a.transition.entry s.name⟩
  | .wildcard .. => none

namespace Link

/-- What a transition between two nodes says: an arrow in its direction, or one in each direction, of which
there is only the first if both nodes mention one state. -/
def arrowsOf (l : Link) (t : TransitionPart) : List Arrow :=
  match t.direction with
  | .right => [⟨l.left, t, l.right⟩]
  | .left => [⟨l.right, t, l.left⟩]
  | .both => if l.left.same l.right then [⟨l.left, t, l.right⟩]
    else [⟨l.left, t, l.right⟩, ⟨l.right, t, l.left⟩]

/-- The arrows of the transitions between two nodes, as they are written. -/
def arrows (l : Link) : List Arrow := l.transitions.flatMap l.arrowsOf

/-- The attempts of a transition are the edges of its arrows. -/
theorem directed_eq (l : Link) (t : TransitionPart) :
    l.directed t = (l.arrowsOf t).map fun a => a.transition.edge a.source a.target := by
  unfold directed arrowsOf
  cases t.direction with
  | right => rfl
  | left => rfl
  | both =>
    simp only
    split <;> rfl

theorem attempts_eq {l : Link} (h : l.transitions ≠ []) :
    l.attempts = l.arrows.map fun a => a.transition.edge a.source a.target := by
  rw [attempts, if_neg (by simpa using h), arrows, List.map_flatMap]
  exact List.flatMap_congr fun t _ => l.directed_eq t

end Link

/-- Arrows have edges exactly if they lead to states. -/
theorem map_edge_eq_iff {as : List Arrow} {es : List Edge} :
    (as.map fun a => a.transition.edge a.source a.target) = es.map .ok ↔
      (∀ a ∈ as, ∃ q, a.target = .state q) ∧ as.filterMap Arrow.edge? = es := by
  induction as generalizing es with
  | nil => simp [eq_comm]
  | cons a as ih =>
    obtain ⟨source, t, target⟩ := a
    rw [List.map_cons, List.forall_mem_cons]
    cases target with
    | wildcard seat w =>
      constructor
      · intro h
        obtain ⟨e, _, _, he, _⟩ := List.map_eq_cons_iff.1 h.symm
        cases he
      · rintro ⟨⟨⟨_, h⟩, _⟩, _⟩
        cases h
    | state q =>
      have hedges : (⟨source, t, .state q⟩ :: as).filterMap Arrow.edge? =
          ⟨source.origin, t.entry q.name⟩ :: as.filterMap Arrow.edge? := rfl
      rw [hedges]
      constructor
      · intro h
        obtain ⟨e, rest, rfl, he, hrest⟩ := List.map_eq_cons_iff.1 h.symm
        obtain ⟨hstates, hedges⟩ := ih.1 hrest.symm
        obtain rfl := Except.ok.inj he
        exact ⟨⟨⟨q, rfl⟩, hstates⟩, by rw [hedges]⟩
      · rintro ⟨⟨_, hstates⟩, rfl⟩
        rw [List.map_cons, ← ih.2 ⟨hstates, rfl⟩]
        rfl

/-- All attempts of links succeed exactly if there are transitions in each of them and all arrows lead to
states. -/
theorem attempts_eq_map_ok_iff {ls : List Link} {es : List Edge} :
    ls.flatMap Link.attempts = es.map .ok ↔ (∀ l ∈ ls, l.transitions ≠ []) ∧
      (∀ a ∈ ls.flatMap Link.arrows, ∃ q, a.target = .state q) ∧
      (ls.flatMap Link.arrows).filterMap Arrow.edge? = es := by
  have hattempts : (∀ l ∈ ls, l.transitions ≠ []) → ls.flatMap Link.attempts =
      (ls.flatMap Link.arrows).map fun a => a.transition.edge a.source a.target := by
    intro h
    rw [List.map_flatMap]
    exact List.flatMap_congr fun l hl => Link.attempts_eq (h l hl)
  constructor
  · intro h
    have hsome : ∀ l ∈ ls, l.transitions ≠ [] := by
      intro l hl hnone
      have hmem : .error (.of .noTransition [l.left.pos, l.right.pos]) ∈ ls.flatMap Link.attempts :=
        List.mem_flatMap.2 ⟨l, hl, by simp [Link.attempts, hnone]⟩
      rw [h] at hmem
      simp at hmem
    rw [hattempts hsome] at h
    exact ⟨hsome, map_edge_eq_iff.1 h⟩
  · rintro ⟨hsome, h⟩
    rw [hattempts hsome]
    exact map_edge_eq_iff.2 h

/-! ## Names in the order in which they come first -/

/-- The names that are mentioned, each once and in the order in which they are mentioned first. -/
structure FirstMentions (mentioned found : List String) : Prop where
  nodup : found.Nodup
  mem : ∀ name, name ∈ found ↔ name ∈ mentioned
  ordered : found.Pairwise fun a b => mentioned.idxOf a < mentioned.idxOf b

theorem idxOf_lt_of_filter {p : String → Bool} {names : List String} {a b : String}
    (ha : p a = true) (hb : p b = true) (h : (names.filter p).idxOf a < (names.filter p).idxOf b) :
    names.idxOf a < names.idxOf b := by
  induction names with
  | nil => exact h
  | cons n names ih =>
    by_cases hn : p n = true
    · rw [List.filter_cons_of_pos hn] at h
      by_cases hbn : n = b
      · subst hbn
        rw [List.idxOf_cons_self] at h
        exact absurd h (Nat.not_lt_zero _)
      · rw [List.idxOf_cons_ne _ hbn] at h ⊢
        by_cases han : n = a
        · subst han
          rw [List.idxOf_cons_self]
          exact Nat.succ_pos _
        · rw [List.idxOf_cons_ne _ han] at h ⊢
          exact Nat.succ_lt_succ (ih (Nat.lt_of_succ_lt_succ h))
    · rw [List.filter_cons_of_neg hn] at h
      have han : n ≠ a := fun heq => hn (heq ▸ ha)
      have hbn : n ≠ b := fun heq => hn (heq ▸ hb)
      rw [List.idxOf_cons_ne _ han, List.idxOf_cons_ne _ hbn]
      exact Nat.succ_lt_succ (ih h)

theorem pairwise_idxOf_eraseDups : (names : List String) →
    names.eraseDups.Pairwise fun a b => names.idxOf a < names.idxOf b
  | [] => .nil
  | n :: names => by
    have hne : ∀ a ∈ (names.filter fun b => !b == n).eraseDups, (!a == n) = true := fun a ha =>
      (List.mem_filter.1 (List.mem_eraseDups.1 ha)).2
    have hcons : ∀ a ∈ (names.filter fun b => !b == n).eraseDups,
        (n :: names).idxOf a = names.idxOf a + 1 := by
      intro a ha
      refine List.idxOf_cons_ne _ fun heq => ?_
      simpa [heq] using hne a ha
    rw [List.eraseDups_cons]
    refine List.pairwise_cons.2 ⟨fun a ha => ?_, ?_⟩
    · rw [List.idxOf_cons_self, hcons a ha]
      exact Nat.succ_pos _
    · refine (pairwise_idxOf_eraseDups (names.filter fun b => !b == n)).imp_of_mem ?_
      intro a b ha hb hlt
      rw [hcons a ha, hcons b hb]
      exact Nat.succ_lt_succ (idxOf_lt_of_filter (hne a ha) (hne b hb) hlt)
termination_by names => names.length
decreasing_by
  exact Nat.lt_succ_of_le (List.length_filter_le _ _)

theorem firstMentions_eraseDups (names : List String) : FirstMentions names names.eraseDups where
  nodup := nodup_eraseDups names
  mem _ := List.mem_eraseDups
  ordered := pairwise_idxOf_eraseDups names

/-! ## Statements -/

/-- The edges start at the same place and have the same filter key and the same action. -/
def Edge.Same (d e : Edge) : Prop :=
  d.origin.same e.origin = true ∧ d.entry.filter.key = e.entry.filter.key ∧
    d.entry.action = e.entry.action

theorem Edge.repeats_eq_false_iff {d e : Edge} : d.repeats e = false ↔ ¬ d.Same e := by
  rw [← Bool.not_eq_true, repeats, Same, Bool.and_eq_true, Bool.and_eq_true, decide_eq_true_eq,
    decide_eq_true_eq, and_assoc]

namespace Statement

variable {token : Nat → Nat} {s : Statement} {x : Expansion} {ls : List Link}

/-- The edges that the links of a statement say, in order. -/
def directedEdges (ls : List Link) : List Edge := (ls.flatMap Link.arrows).filterMap Arrow.edge?

/-- What is asked of the links of a statement for it to expand: there is a transition between any two
neighbours, no arrow leads to a wildcard, and no two edges are the same. -/
structure Directable (ls : List Link) : Prop where
  joined : ∀ l ∈ ls, l.transitions ≠ []
  target : ∀ a ∈ ls.flatMap Link.arrows, ∃ q, a.target = .state q
  distinct : (directedEdges ls).Pairwise fun d e => ¬ e.Same d

/-- What a statement of the links `ls` expands to: their edges, and the names that it mentions. -/
structure Contents (s : Statement) (ls : List Link) (x : Expansion) : Prop where
  edges : x.edges = directedEdges ls
  states : FirstMentions (s.stateParts.map (·.name)) x.states
  labels : FirstMentions (s.parts.filterMap Part.label?) x.labels
  accepting : FirstMentions ((s.stateParts.filter (·.accepting)).map (·.name)) x.accepting
  initial : x.initial = s.stateParts.filter (·.initial)

theorem Cut.expands_iff (h : s.Cut token ls) : s.expandWith token = .ok x ↔
    Directable ls ∧ x = ⟨directedEdges ls, (s.stateParts.map (·.name)).eraseDups,
      (s.parts.filterMap Part.label?).eraseDups, s.stateParts.filter (·.initial),
      ((s.stateParts.filter (·.accepting)).map (·.name)).eraseDups⟩ := by
  have hframed : s.isFramed = true := isFramed_iff.2 ((exists_cut_iff token s).1 ⟨ls, h⟩)
  rw [expandWith_eq_ok_iff, ← h.eq_links]
  constructor
  · rintro ⟨_, hattempts, hfresh, hstates, hlabels, hinitial, haccepting⟩
    obtain ⟨hjoined, htarget, hedges⟩ := attempts_eq_map_ok_iff.1 hattempts
    refine ⟨⟨hjoined, htarget, ?_⟩, ?_⟩
    · rw [directedEdges, hedges]
      exact hfresh.imp fun hnot => Edge.repeats_eq_false_iff.1 hnot
    · rw [directedEdges, hedges, ← hstates, ← hlabels, ← hinitial, ← haccepting]
  · rintro ⟨⟨hjoined, htarget, hdistinct⟩, rfl⟩
    exact ⟨hframed, attempts_eq_map_ok_iff.2 ⟨hjoined, htarget, rfl⟩,
      hdistinct.imp fun hnot => Edge.repeats_eq_false_iff.2 hnot, rfl, rfl, rfl, rfl⟩

theorem exists_cut_of_expandWith (h : s.expandWith token = .ok x) : ∃ ls, s.Cut token ls :=
  (exists_cut_iff token s).2 (isFramed_iff.1 (expandWith_eq_ok_iff.1 h).framed)

/-- **Expanding a statement is directing its transitions.** Let `token` number the wildcards of a statement
by their places, the same wildcard having one number wherever it stands.

A statement is cut into neighbours in one way at most, and in one exactly if it is not empty and starts and
ends with a state or a wildcard. It expands exactly if it is cut, there is a transition between any two
neighbours, no arrow leads to a wildcard and no two edges have one source, one filter key and one action.
Then its edges are those of its arrows: neighbours from left to right, the transitions between them as they
are written, from the left node to the right one, from the right one to the left one, or first one and then
the other, but for a transition both ways between mentions of one state, which is one edge. The states, the
labels and the accepting states are in the order in which they are mentioned first, each once; all mentions
of a state as initial are kept. -/
theorem expandWith_iff_directed (token : Nat → Nat) (s : Statement) :
    ((∃ ls, s.Cut token ls) ↔ s.parts ≠ [] ∧ (∀ p ∈ s.parts.head?, p.isNode = true) ∧
      ∀ p ∈ s.parts.getLast?, p.isNode = true) ∧
    (∀ ls ls', s.Cut token ls → s.Cut token ls' → ls = ls') ∧
    ((∃ x, s.expandWith token = .ok x) ↔ ∃ ls, s.Cut token ls ∧ Directable ls) ∧
    ∀ x, s.expandWith token = .ok x → ∃ ls, s.Cut token ls ∧ s.Contents ls x := by
  refine ⟨exists_cut_iff token s, fun _ _ => Cut.unique, ⟨?_, ?_⟩, ?_⟩
  · rintro ⟨x, hx⟩
    obtain ⟨ls, hcut⟩ := exists_cut_of_expandWith hx
    exact ⟨ls, hcut, (hcut.expands_iff.1 hx).1⟩
  · rintro ⟨ls, hcut, hdirectable⟩
    exact ⟨_, hcut.expands_iff.2 ⟨hdirectable, rfl⟩⟩
  · intro x hx
    obtain ⟨ls, hcut⟩ := exists_cut_of_expandWith hx
    obtain ⟨_, rfl⟩ := hcut.expands_iff.1 hx
    exact ⟨ls, hcut, rfl, firstMentions_eraseDups _, firstMentions_eraseDups _,
      firstMentions_eraseDups _, rfl⟩

/-- The statement of `* -x> a <x- *`. -/
def pincer : Statement where
  parts := [.wildcard ⟨none, none⟩, .transition ⟨"x", .right, [], none⟩, .state ⟨"a", false, false, none⟩,
    .transition ⟨"x", .left, [], none⟩, .wildcard ⟨none, none⟩]

/-- Two wildcards each have their edge; one wildcard in both places has the same edge twice. -/
example : pincer.expand.isOk = true ∧ (pincer.expandWith fun _ => 0).isOk = false := by decide

end Statement

end ArrowMachine
