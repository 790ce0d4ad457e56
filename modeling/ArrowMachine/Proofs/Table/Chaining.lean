import ArrowMachine.Proofs.Table.Reordering

/-!
Chains are shorthand for several statements.

A statement can be cut at any of its states into two, the second beginning with that state again. If the
two compile in place of the whole, the whole compiles to the very same table; and where the whole
compiles, the two can only fail to because an edge of the one and an edge of the other start at one state
with one filter key, which a single statement may have (`chain_compiles`).
-/
namespace ArrowMachine

/-! ## Names without repetitions -/

theorem eraseDups_filter {α : Type} [DecidableEq α] (ok : α → Bool) : (l : List α) →
    (l.filter ok).eraseDups = l.eraseDups.filter ok
  | [] => rfl
  | a :: l => by
    have ih := eraseDups_filter ok (l.filter fun b => !b == a)
    rw [List.eraseDups_cons, List.filter_cons, List.filter_cons, ← ih]
    cases hok : ok a with
    | true => simp only [if_true, List.eraseDups_cons, List.filter_filter, Bool.and_comm]
    | false =>
      simp only [Bool.false_eq_true, if_false, List.filter_filter]
      congr 1
      refine List.filter_congr fun b _ => ?_
      by_cases hb : b = a
      · rw [hb, hok]
        rfl
      · simp [hb]
termination_by l => l.length
decreasing_by exact Nat.lt_succ_of_le (List.length_filter_le _ _)

/-- What stands between other names matters only by the first places of its own. -/
theorem eraseDups_append_congr {α : Type} [DecidableEq α] {xs ys : List α}
    (h : xs.eraseDups = ys.eraseDups) (before after : List α) :
    (before ++ xs ++ after).eraseDups = (before ++ ys ++ after).eraseDups := by
  have hmem : ∀ a, a ∈ xs ↔ a ∈ ys := fun a => by
    rw [← List.mem_eraseDups, h, List.mem_eraseDups]
  have hafter : after.removeAll (before ++ xs) = after.removeAll (before ++ ys) := by
    unfold List.removeAll
    refine List.filter_congr fun a _ => ?_
    simp [hmem a]
  have hown : (xs.removeAll before).eraseDups = (ys.removeAll before).eraseDups := by
    unfold List.removeAll
    rw [eraseDups_filter, eraseDups_filter, h]
  rw [List.eraseDups_append, List.eraseDups_append, List.eraseDups_append, List.eraseDups_append,
    hafter, hown]

theorem eraseDups_eraseDups {α : Type} [DecidableEq α] (l : List α) :
    l.eraseDups.eraseDups = l.eraseDups := by
  have hself : ∀ l : List α, l.Nodup → l.eraseDups = l := by
    intro l hl
    induction l with
    | nil => rfl
    | cons a l ih =>
      obtain ⟨ha, hl⟩ := List.nodup_cons.1 hl
      have hkeep : (l.filter fun b => !b == a) = l := by
        rw [List.filter_eq_self]
        intro b hb
        simpa using fun hba : b = a => ha (hba ▸ hb)
      rw [List.eraseDups_cons, hkeep, ih hl]
  exact hself _ (nodup_eraseDups l)

theorem eraseDups_append_eraseDups {α : Type} [DecidableEq α] (xs ys : List α) :
    (xs.eraseDups ++ ys.eraseDups).eraseDups = (xs ++ ys).eraseDups := by
  have hleft := eraseDups_append_congr (eraseDups_eraseDups xs) [] ys.eraseDups
  have hright := eraseDups_append_congr (eraseDups_eraseDups ys) xs []
  simp only [List.nil_append, List.append_nil] at hleft hright
  rw [hleft, hright]

/-! ## Cutting a statement -/

/-- A statement of which a part of the row is a state, where it is cut. -/
structure Cut where
  first : List Part
  /-- The state as the whole statement and the first half mention it. -/
  seam : StatePart
  /-- The state as the second half mentions it again. -/
  again : StatePart
  rest : List Part

namespace Cut

variable {c : Cut} {x y z : Expansion} {p q : Option Position}

/-- The state is mentioned again by the same name and with no marks of its own, and a wildcard stands
only in front. -/
structure IsFair (c : Cut) : Prop where
  name : c.again.name = c.seam.name
  initial : c.again.initial = true → c.seam.initial = true
  accepting : c.again.accepting = true → c.seam.accepting = true
  rest : ∀ w, .wildcard w ∉ c.rest

def whole (c : Cut) (pos : Option Position) : Statement := ⟨c.first ++ .state c.seam :: c.rest, pos⟩

def left (c : Cut) (pos : Option Position) : Statement := ⟨c.first ++ [.state c.seam], pos⟩

def right (c : Cut) (pos : Option Position) : Statement := ⟨.state c.again :: c.rest, pos⟩

theorem isFramed_whole (c : Cut) (pos p q : Option Position) :
    (c.whole pos).isFramed = ((c.left p).isFramed && (c.right q).isFramed) := by
  have hhead : (c.whole pos).parts.head? = (c.left p).parts.head? := by
    simp [whole, left, List.head?_append]
  have hlast : (c.whole pos).parts.getLast?.any Part.isNode =
      (c.right q).parts.getLast?.any Part.isNode := by
    rcases List.eq_nil_or_concat c.rest with hrest | ⟨ps, last, hrest⟩
    · simp [whole, right, hrest, Part.isNode]
    · simp [whole, right, hrest, List.getLast?_append, List.getLast?_cons]
  simp [Statement.isFramed, hhead, hlast, left, right, Part.isNode]

/-! ## The edges of the halves -/

theorem linksFrom_append (start : Node) (pending : List TransitionPart) (n : Nat)
    (ps : List Part) (s : StatePart) (rest : List Part) :
    linksFrom start pending n (ps ++ .state s :: rest) =
      linksFrom start pending n (ps ++ [.state s]) ++
        linksFrom (.state s) [] (n + ps.length + 1) rest := by
  induction ps generalizing start pending n with
  | nil => rfl
  | cons p ps ih =>
    have hn : n + 1 + ps.length + 1 = n + (p :: ps).length + 1 := by
      rw [List.length_cons]
      omega
    cases p with
    | state _ => simp only [List.cons_append, linksFrom, ih, hn]
    | wildcard _ => simp only [List.cons_append, linksFrom, ih, hn]
    | transition _ => simp only [List.cons_append, linksFrom, ih, hn]

theorem links_whole (hframed : (c.left p).isFramed = true) (pos : Option Position) :
    links (c.whole pos).parts =
      links (c.left p).parts ++ linksFrom (.state c.seam) [] (c.first.length + 1) c.rest := by
  unfold whole left
  cases hfirst : c.first with
  | nil => rfl
  | cons part ps =>
    cases part with
    | state _ => simpa [links, Nat.add_comm] using linksFrom_append _ [] 1 ps c.seam c.rest
    | wildcard _ => simpa [links, Nat.add_comm] using linksFrom_append _ [] 1 ps c.seam c.rest
    | transition _ => simp [Statement.isFramed, left, hfirst, Part.isNode] at hframed

/-- How the state on its left is mentioned does not show in the edges of a link, only in errors. -/
theorem attempts_toOption {s s' : StatePart} (hname : s'.name = s.name) (ts : List TransitionPart)
    (t : StatePart) :
    ((⟨.state s', ts, .state t⟩ : Link).attempts).map Except.toOption =
      ((⟨.state s, ts, .state t⟩ : Link).attempts).map Except.toOption := by
  unfold Link.attempts
  by_cases hempty : ts.isEmpty = true
  · simp [hempty, Except.toOption]
  · have hdirected : (⟨.state s', ts, .state t⟩ : Link).directed =
        (⟨.state s, ts, .state t⟩ : Link).directed := by
      funext u
      simp [Link.directed, TransitionPart.edge, Node.origin, Node.same, hname]
    rw [if_neg hempty, if_neg hempty, hdirected]

theorem linksFrom_toOption {s s' : StatePart} (hname : s'.name = s.name)
    (pending : List TransitionPart) (n m : Nat) {ps : List Part} (hps : ∀ w, .wildcard w ∉ ps) :
    ((linksFrom (.state s') pending m ps).flatMap Link.attempts).map Except.toOption =
      ((linksFrom (.state s) pending n ps).flatMap Link.attempts).map Except.toOption := by
  induction ps generalizing s s' pending n m with
  | nil => rfl
  | cons part ps ih =>
    have hrest : ∀ w, .wildcard w ∉ ps := fun w hw => hps w (List.mem_cons_of_mem _ hw)
    cases part with
    | state t =>
      simp only [linksFrom, List.flatMap_cons, List.map_append, attempts_toOption hname]
      rw [ih rfl [] (n + 1) (m + 1) hrest]
    | wildcard w => exact absurd List.mem_cons_self (hps w)
    | transition t => exact ih hname _ _ _ hrest

theorem map_toOption_eq_iff {α : Type} {as : List (Except CompileError α)} {es : List α} :
    as.map Except.toOption = es.map some ↔ as = es.map .ok := by
  constructor
  · intro h
    induction as generalizing es with
    | nil => rw [List.map_eq_nil_iff.1 h.symm]; rfl
    | cons a as ih =>
      obtain ⟨e, es, rfl, he, hes⟩ := List.map_eq_cons_iff.1 h.symm
      rw [ih hes.symm, List.map_cons]
      cases a with
      | error _ => cases he
      | ok a => rw [Option.some.inj he]
  · rintro rfl
    rw [List.map_map]
    rfl

/-- The attempts behind the seam succeed with the same edges whether they stand in the whole statement
or in its second half. -/
theorem attempts_right (h : c.IsFair) {es : List Edge} :
    (links (c.right q).parts).flatMap Link.attempts = es.map .ok ↔
      (linksFrom (.state c.seam) [] (c.first.length + 1) c.rest).flatMap Link.attempts =
        es.map .ok := by
  rw [← map_toOption_eq_iff, ← map_toOption_eq_iff]
  exact Eq.congr_left (linksFrom_toOption h.name [] _ 1 h.rest)

/-- The second half has no wildcard, so its edges start at states. -/
theorem origin_right (h : c.IsFair) (hy : (c.right q).expand = .ok y) {e : Edge}
    (he : e ∈ y.edges) : ∃ state, e.origin = .state state := by
  obtain ⟨source, _, _, hamong⟩ := Statement.expand_edge hy he
  cases source with
  | state s => exact ⟨s.name, hamong.origin⟩
  | wildcard seat w =>
    rcases List.mem_cons.1 hamong.source_mem with hw | hw
    · cases hw
    · exact absurd hw (h.rest w)

/-- `z` says what `x` and `y` say one behind the other. -/
structure Joins (z x y : Expansion) : Prop where
  edges : z.edges = x.edges ++ y.edges
  states : z.states.eraseDups = (x.states ++ y.states).eraseDups
  labels : z.labels.eraseDups = (x.labels ++ y.labels).eraseDups
  initial : ∀ name, name ∈ z.initial.map (·.name) ↔ name ∈ (x.initial ++ y.initial).map (·.name)
  accepting : ∀ name, name ∈ z.accepting ↔ name ∈ x.accepting ++ y.accepting

/-- A mark of the seam counts once, whether one half has it or both. -/
theorem mem_marked_iff (mark : StatePart → Bool) {before after : List StatePart} {s s' : StatePart}
    (hname : s'.name = s.name) (hmark : mark s' = true → mark s = true) {name : String} :
    name ∈ ((before ++ s :: after).filter mark).map (·.name) ↔
      name ∈ ((before ++ [s]).filter mark).map (·.name) ∨
        name ∈ ((s' :: after).filter mark).map (·.name) := by
  have hmem : ∀ parts : List StatePart, name ∈ (parts.filter mark).map (·.name) ↔
      ∃ q ∈ parts, mark q = true ∧ q.name = name := by
    simp [and_assoc]
  rw [hmem, hmem, hmem]
  constructor
  · rintro ⟨q, hq, hmarked⟩
    rcases List.mem_append.1 hq with hq | hq
    · exact Or.inl ⟨q, List.mem_append_left _ hq, hmarked⟩
    · rcases List.mem_cons.1 hq with rfl | hq
      · exact Or.inl ⟨q, by simp, hmarked⟩
      · exact Or.inr ⟨q, List.mem_cons_of_mem _ hq, hmarked⟩
  · rintro (⟨q, hq, hmarked⟩ | ⟨q, hq, hmarked, rfl⟩)
    · refine ⟨q, ?_, hmarked⟩
      rcases List.mem_append.1 hq with hq | hq
      · exact List.mem_append_left _ hq
      · rw [List.mem_singleton.1 hq]
        simp
    · rcases List.mem_cons.1 hq with rfl | hq
      · exact ⟨s, by simp, hmark hmarked, hname.symm⟩
      · exact ⟨q, by simp [hq], hmarked, rfl⟩

theorem joins_of_edges {pos : Option Position} (h : c.IsFair) (hx : (c.left p).expand = .ok x)
    (hy : (c.right q).expand = .ok y) (hz : (c.whole pos).expand = .ok z)
    (hedges : z.edges = x.edges ++ y.edges) : Joins z x y := by
  obtain ⟨_, _, _, hxstates, hxlabels, hxinitial, hxaccepting⟩ := Statement.expand_eq_ok_iff.1 hx
  obtain ⟨_, _, _, hystates, hylabels, hyinitial, hyaccepting⟩ := Statement.expand_eq_ok_iff.1 hy
  obtain ⟨_, _, _, hzstates, hzlabels, hzinitial, hzaccepting⟩ := Statement.expand_eq_ok_iff.1 hz
  -- The states that the three statements mention, the seam apart.
  let before := c.first.filterMap Part.state?
  let after := c.rest.filterMap Part.state?
  have hxparts : (c.left p).stateParts = before ++ [c.seam] := by
    simp [Statement.stateParts, left, Part.state?, before]
  have hyparts : (c.right q).stateParts = c.again :: after := by
    simp [Statement.stateParts, right, Part.state?, after]
  have hzparts : (c.whole pos).stateParts = before ++ c.seam :: after := by
    simp [Statement.stateParts, whole, Part.state?, before, after]
  rw [hxparts] at hxstates hxinitial hxaccepting
  rw [hyparts] at hystates hyinitial hyaccepting
  rw [hzparts] at hzstates hzinitial hzaccepting
  refine ⟨hedges, ?_, ?_, ?_, ?_⟩
  · have hseam : [c.seam.name].eraseDups = [c.seam.name, c.again.name].eraseDups := by
      rw [h.name]
      simp [List.eraseDups_cons]
    have hmiddle := eraseDups_append_congr hseam (before.map (·.name)) (after.map (·.name))
    rw [hzstates, hxstates, hystates, eraseDups_eraseDups, eraseDups_append_eraseDups]
    simpa using hmiddle
  · rw [hzlabels, hxlabels, hylabels, eraseDups_eraseDups, eraseDups_append_eraseDups]
    simp [whole, left, right, List.filterMap_cons, Part.label?]
  · intro name
    rw [hzinitial, hxinitial, hyinitial, List.map_append, List.mem_append]
    exact mem_marked_iff (·.initial) h.name h.initial
  · intro name
    rw [hzaccepting, hxaccepting, hyaccepting, List.mem_append, List.mem_eraseDups,
      List.mem_eraseDups, List.mem_eraseDups]
    exact mem_marked_iff (·.accepting) h.name h.accepting

/-- The halves of a statement that expands do, and it joins them. -/
theorem expand_halves {pos : Option Position} (h : c.IsFair) (p q : Option Position)
    (hz : (c.whole pos).expand = .ok z) :
    ∃ x y, (c.left p).expand = .ok x ∧ (c.right q).expand = .ok y ∧ Joins z x y := by
  obtain ⟨hframed, hattempts, hnew, _⟩ := Statement.expand_eq_ok_iff.1 hz
  rw [isFramed_whole c pos p q, Bool.and_eq_true] at hframed
  rw [links_whole hframed.1, List.flatMap_append] at hattempts
  obtain ⟨es, fs, hes, hleft, hright⟩ := List.map_eq_append_iff.1 hattempts.symm
  rw [hes, List.pairwise_append] at hnew
  obtain ⟨x, hx, hxedges⟩ : ∃ x, (c.left p).expand = .ok x ∧ x.edges = es :=
    ⟨⟨es, _, _, _, _⟩, Statement.expand_eq_ok_iff.2 ⟨hframed.1, hleft.symm, hnew.1, rfl, rfl, rfl, rfl⟩,
      rfl⟩
  obtain ⟨y, hy, hyedges⟩ : ∃ y, (c.right q).expand = .ok y ∧ y.edges = fs :=
    ⟨⟨fs, _, _, _, _⟩, Statement.expand_eq_ok_iff.2
      ⟨hframed.2, (attempts_right h).2 hright.symm, hnew.2.1, rfl, rfl, rfl, rfl⟩, rfl⟩
  exact ⟨x, y, hx, hy, joins_of_edges h hx hy hz (by rw [hes, hxedges, hyedges])⟩

/-- A statement whose halves expand and do not clash expands. -/
theorem expand_whole (h : c.IsFair) (pos : Option Position) (hx : (c.left p).expand = .ok x)
    (hy : (c.right q).expand = .ok y) (hapart : x.Apart Edge.Clashes y) :
    ∃ z, (c.whole pos).expand = .ok z ∧ Joins z x y := by
  obtain ⟨hxframed, hleft, hxnew, _⟩ := Statement.expand_eq_ok_iff.1 hx
  obtain ⟨hyframed, hright, hynew, _⟩ := Statement.expand_eq_ok_iff.1 hy
  have hframed : (c.whole pos).isFramed = true := by
    rw [isFramed_whole c pos p q, hxframed, hyframed]
    rfl
  have hattempts : (links (c.whole pos).parts).flatMap Link.attempts =
      (x.edges ++ y.edges).map .ok := by
    rw [links_whole hxframed, List.flatMap_append, List.map_append, hleft,
      (attempts_right h).1 hright]
  -- An edge of the right half that repeats one of the left half would clash with it.
  have hnew : (x.edges ++ y.edges).Pairwise fun d e => e.repeats d = false := by
    refine List.pairwise_append.2 ⟨hxnew, hynew, fun d hd e he => ?_⟩
    rw [← Bool.not_eq_true]
    intro hrepeats
    obtain ⟨state, horigin⟩ := origin_right h hy he
    simp only [Edge.repeats, Bool.and_eq_true, decide_eq_true_eq] at hrepeats
    obtain ⟨⟨hsame, hkey⟩, _⟩ := hrepeats
    refine hapart d hd e he ⟨state, ?_, horigin, hkey.symm⟩
    rw [horigin] at hsame
    cases hd' : d.origin with
    | state name =>
      rw [hd'] at hsame
      simp only [Origin.same, decide_eq_true_eq] at hsame
      rw [hsame]
    | wildcard seat w =>
      rw [hd'] at hsame
      cases hsame
  obtain ⟨z, hz, hedges⟩ : ∃ z, (c.whole pos).expand = .ok z ∧ z.edges = x.edges ++ y.edges :=
    ⟨⟨x.edges ++ y.edges, _, _, _, _⟩,
      Statement.expand_eq_ok_iff.2 ⟨hframed, hattempts, hnew, rfl, rfl, rfl, rfl⟩, rfl⟩
  exact ⟨z, hz, joins_of_edges h hx hy hz hedges⟩

end Cut

/-! ## Cutting a program -/

namespace Program

variable {before after : List Expansion} {x y z : Expansion} {cap : Capacity} {settings : Settings} {initial : String}

/-- Statements are apart with a statement cut exactly if they are with it whole and its halves are
apart. -/
theorem pairwise_cut_iff {R : Edge → Edge → Prop} (h : z.edges = x.edges ++ y.edges) :
    (before ++ x :: y :: after).Pairwise (Expansion.Apart R) ↔
      (before ++ z :: after).Pairwise (Expansion.Apart R) ∧ x.Apart R y := by
  have hleft : ∀ w : Expansion, z.Apart R w ↔ x.Apart R w ∧ y.Apart R w := by
    intro w
    unfold Expansion.Apart
    rw [h]
    simp only [List.mem_append, or_imp, forall_and]
  have hright : ∀ w : Expansion, w.Apart R z ↔ w.Apart R x ∧ w.Apart R y := by
    intro w
    unfold Expansion.Apart
    rw [h]
    simp only [List.mem_append, or_imp, forall_and]
  simp only [List.pairwise_append, List.pairwise_cons, List.forall_mem_cons, hleft, hright,
    forall_and]
  tauto

theorem edges_cut (h : z.edges = x.edges ++ y.edges) :
    (⟨before ++ x :: y :: after⟩ : Program).edges = (⟨before ++ z :: after⟩ : Program).edges := by
  simp [edges, h]

theorem states_cut (h : Cut.Joins z x y) :
    (⟨before ++ x :: y :: after⟩ : Program).states = (⟨before ++ z :: after⟩ : Program).states := by
  simpa [states] using (eraseDups_append_congr h.states (before.flatMap (·.states))
    (after.flatMap (·.states))).symm

theorem labels_cut (h : Cut.Joins z x y) :
    (⟨before ++ x :: y :: after⟩ : Program).labels = (⟨before ++ z :: after⟩ : Program).labels := by
  simpa [labels] using (eraseDups_append_congr h.labels (before.flatMap (·.labels))
    (after.flatMap (·.labels))).symm

theorem accepting_cut (h : Cut.Joins z x y) :
    (⟨before ++ x :: y :: after⟩ : Program).accepting =
      (⟨before ++ z :: after⟩ : Program).accepting := by
  refine nameSet_congr fun name => ?_
  have hmem := h.accepting name
  simp only [List.flatMap_append, List.flatMap_cons, List.mem_append] at hmem ⊢
  tauto

theorem agrees_cut (h : Cut.Joins z x y) :
    (⟨before ++ x :: y :: after⟩ : Program).Agrees ⟨before ++ z :: after⟩ where
  edges := edges_cut h.edges ▸ List.Perm.refl _
  states := fun name => by rw [states_cut h]
  initial := fun name => by
    have hmem := h.initial name
    simp only [initial, List.flatMap_append, List.flatMap_cons, List.map_append,
      List.mem_append] at hmem ⊢
    tauto

/-- The second half of a cut statement has no wildcard, so it contends with nothing. -/
theorem apart_contend {p : Program} (hy : ∀ e ∈ y.edges, ∃ state, e.origin = .state state) :
    x.Apart p.Contend y := by
  rintro e _ f hf ⟨_, _, l, w, _, _, _, hwildcard, _⟩
  obtain ⟨state, horigin⟩ := hy f hf
  rw [horigin] at hwildcard
  cases hwildcard

/-- With a statement cut a program is fit exactly if it is with it whole and the halves do not
clash. -/
theorem fit_cut_iff (h : Cut.Joins z x y) (hy : ∀ e ∈ y.edges, ∃ state, e.origin = .state state) :
    (⟨before ++ x :: y :: after⟩ : Program).Fit cap settings initial ↔
      (⟨before ++ z :: after⟩ : Program).Fit cap settings initial ∧ x.Apart Edge.Clashes y := by
  constructor
  · intro hfit
    have hedges := (pairwise_cut_iff h.edges).1 hfit.edges
    have hwildcards := (pairwise_cut_iff h.edges).1 hfit.wildcards
    exact ⟨hfit.of_agrees (agrees_cut h) hedges.1 hwildcards.1, hedges.2⟩
  · rintro ⟨hfit, hapart⟩
    exact hfit.of_agrees (agrees_cut h).symm ((pairwise_cut_iff h.edges).2 ⟨hfit.edges, hapart⟩)
      ((pairwise_cut_iff h.edges).2 ⟨hfit.wildcards, apart_contend hy⟩)

theorem finished_cut (h : Cut.Joins z x y)
    (hanswers : (⟨before ++ x :: y :: after⟩ : Program).Answers) :
    (⟨before ++ x :: y :: after⟩ : Program).finished settings initial =
      (⟨before ++ z :: after⟩ : Program).finished settings initial :=
  finished_congr (edges_cut h.edges) (states_cut h) (labels_cut h) (accepting_cut h) hanswers
    ((agrees_cut h).answers.1 hanswers)

end Program

/-- **Chains are shorthand for several statements.** Where a program compiles with a statement cut at one
of its states, it compiles to the same table with the statement whole. Where it compiles with the
statement whole, it compiles to the same table with the statement cut, unless both halves have an edge
from one state with one filter key. -/
theorem chain_compiles (settings : Settings) (before after : List Statement) {c : Cut}
    (h : c.IsFair) (pos p q : Option Position) :
    let cut := (compileStatements cap settings (before ++ c.left p :: c.right q :: after)).result
    let joined := (compileStatements cap settings (before ++ c.whole pos :: after)).result
    (∀ t, cut = .ok t → joined = .ok t) ∧
    ∀ t, joined = .ok t → cut = .ok t ∨ ∃ x y, (c.left p).expand = .ok x ∧
      (c.right q).expand = .ok y ∧ ∃ e ∈ x.edges, ∃ f ∈ y.edges, e.Clashes f := by
  intro cut joined
  constructor
  · intro t ht
    obtain ⟨rules, initial, hrules, hfit, rfl⟩ := compiled_iff.1 ht
    obtain ⟨xs, _, hxs, hrest, rfl⟩ := mapM_append_eq_ok.1 hrules
    obtain ⟨x, _, hx, hrest', rfl⟩ := mapM_cons_eq_ok.1 hrest
    obtain ⟨y, ys, hy, hys, rfl⟩ := mapM_cons_eq_ok.1 hrest'
    have hapart : x.Apart Edge.Clashes y := by
      obtain ⟨_, hfrom, _⟩ := List.pairwise_append.1 hfit.edges
      exact List.rel_of_pairwise_cons hfrom List.mem_cons_self
    obtain ⟨z, hz, hjoins⟩ := Cut.expand_whole h pos hx hy hapart
    have hsources := fun e he => Cut.origin_right h hy (e := e) he
    refine compiled_iff.2 ⟨xs ++ z :: ys, initial, ?_, ?_, ?_⟩
    · exact mapM_append_eq_ok.2 ⟨xs, z :: ys, hxs, mapM_cons_eq_ok.2 ⟨z, ys, hz, hys, rfl⟩, rfl⟩
    · exact ((Program.fit_cut_iff hjoins hsources).1 hfit).1
    · exact Program.finished_cut hjoins hfit.answers
  · intro t ht
    obtain ⟨rules, initial, hrules, hfit, rfl⟩ := compiled_iff.1 ht
    obtain ⟨xs, _, hxs, hrest, rfl⟩ := mapM_append_eq_ok.1 hrules
    obtain ⟨z, ys, hz, hys, rfl⟩ := mapM_cons_eq_ok.1 hrest
    obtain ⟨x, y, hx, hy, hjoins⟩ := Cut.expand_halves h p q hz
    have hsources := fun e he => Cut.origin_right h hy (e := e) he
    by_cases hapart : x.Apart Edge.Clashes y
    · have hfit' := (Program.fit_cut_iff hjoins hsources).2 ⟨hfit, hapart⟩
      refine Or.inl (compiled_iff.2 ⟨xs ++ x :: y :: ys, initial, ?_, hfit', ?_⟩)
      · exact mapM_append_eq_ok.2 ⟨xs, x :: y :: ys, hxs, mapM_cons_eq_ok.2 ⟨x, y :: ys, hx,
          mapM_cons_eq_ok.2 ⟨y, ys, hy, hys, rfl⟩, rfl⟩, rfl⟩
      · exact (Program.finished_cut hjoins hfit'.answers).symm
    · simp only [Expansion.Apart, not_forall, not_not] at hapart
      obtain ⟨e, he, f, hf, hclashes⟩ := hapart
      exact Or.inr ⟨x, y, hx, hy, e, he, f, hf, hclashes⟩

/-- The statement `* -f> .a -g> (b) <h- a -[k]Z> c;`, cut at `(b)`. -/
def chain : Cut where
  first := [.wildcard ⟨none, none⟩, .transition ⟨"f", .right, [], none⟩,
    .state ⟨"a", true, false, none⟩, .transition ⟨"g", .right, [], none⟩]
  seam := ⟨"b", false, true, none⟩
  again := ⟨"b", false, false, none⟩
  rest := [.transition ⟨"h", .left, [], none⟩, .state ⟨"a", false, false, none⟩,
    .transition ⟨"k", .right, [⟨none, some "Z"⟩], none⟩, .state ⟨"c", false, false, none⟩]

/-- The statement `c -g> a;`. -/
def returning : Statement :=
  ⟨[.state ⟨"c", false, false, none⟩, .transition ⟨"g", .right, [], none⟩,
    .state ⟨"a", false, false, none⟩], none⟩

/-- The table of `chain` and `returning`. -/
def chained : Compiled where
  initial := "a"
  transitions :=
    [("a", [⟨"g", ⟨"g", [none]⟩, ⟨"b", [.consume, .set "b"]⟩, none⟩,
      ⟨"h", ⟨"h", [none]⟩, ⟨"b", [.consume, .set "b"]⟩, none⟩,
      ⟨"k", ⟨"k", [none]⟩, ⟨"c", [.consume, .push 0 "Z", .set "c"]⟩, none⟩,
      ⟨"f", ⟨"f", [none]⟩, ⟨"a", [.consume, .set "a"]⟩, none⟩]),
    ("c", [⟨"g", ⟨"g", [none]⟩, ⟨"a", [.consume, .set "a"]⟩, none⟩,
      ⟨"f", ⟨"f", [none]⟩, ⟨"a", [.consume, .set "a"]⟩, none⟩]),
    ("b", [⟨"f", ⟨"f", [none]⟩, ⟨"a", [.consume, .set "a"]⟩, none⟩])]
  accepting := ["b"]
  stackCount := 1
  states := ["a", "b", "c"]
  labels := ["f", "g", "h", "k"]

/-- Cut or whole, `chain` compiles to one table. -/
theorem chain_chained : chain.IsFair ∧
    (compileStatements .ample {} (chain.left none :: chain.right none :: [returning])).result = .ok chained ∧
    (compileStatements .ample {} (chain.whole none :: [returning])).result = .ok chained := by
  have hfair : chain.IsFair := ⟨rfl, nofun, nofun, by simp [chain]⟩
  have hcut : (compileStatements .ample {} (chain.left none :: chain.right none :: [returning])).result =
      .ok chained := by cbv
  exact ⟨hfair, hcut, (chain_compiles {} [] [returning] hfair none none none).1 chained hcut⟩

/-- The statement `.s -x> s -x> (t);`, cut at its second state. -/
def forking : Cut where
  first := [.state ⟨"s", true, false, none⟩, .transition ⟨"x", .right, [], none⟩]
  seam := ⟨"s", false, false, none⟩
  again := ⟨"s", false, false, none⟩
  rest := [.transition ⟨"x", .right, [], none⟩, .state ⟨"t", false, true, none⟩]

/-- A statement may have several edges for one situation; two statements may not. -/
example : ((compileStatements .ample {} [forking.whole none]).result.toOption.map (·.transitions)) =
      some [("s", [⟨"x", ⟨"x", []⟩, ⟨"s", [.consume, .set "s"]⟩, none⟩,
        ⟨"x", ⟨"x", []⟩, ⟨"t", [.consume, .set "t"]⟩, none⟩])] ∧
    (compileStatements .ample {} [forking.left none, forking.right none]).result =
      .error (.of (.ambiguous "s" "x") []) := by
  constructor <;> cbv

end ArrowMachine
