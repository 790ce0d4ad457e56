import ArrowMachine.Proofs.Rule.Directing
import ArrowMachine.Proofs.Table.Form

/-!
How the statements of a text fail to expand.

The statements of a text are rules (`isRule_of_statementsOf`): neither their frame nor their links can be at
fault, so their arrows alone decide whether they expand, and into what (`IsRule.expand_eq_error_iff`). An
arrow is refused if it leads to the wildcard that the rule starts with or has the edge of an earlier one
(`Arrow.Refused`). The wildcard is led back to by transitions before the first state (`LeadsBack`), and
`expand_of_statementsOf` puts this together for the statements of a text.
-/
namespace ArrowMachine

/-! ## Links of rules -/

/-- The parts of a leg: transitions, and the state that they lead to. -/
def IsLeg (leg : List Part) : Prop :=
  ∃ (ts : List TransitionPart) (q : StatePart), ts ≠ [] ∧ leg = ts.map Part.transition ++ [.state q]

theorem linksFrom_leg (left : Node) (place : Nat) (ts : List TransitionPart) (q : StatePart)
    (ps : List Part) : linksFrom left [] place (ts.map Part.transition ++ .state q :: ps) =
      ⟨left, ts, .state q⟩ :: linksFrom (.state q) [] (place + ts.length + 1) ps := by
  rw [linksFrom_transitions, List.nil_append]
  exact linksFrom_node rfl left ts ps

theorem joined_linksFrom {legs : List (List Part)} (h : ∀ leg ∈ legs, IsLeg leg) (left : Node)
    (place : Nat) : ∀ l ∈ linksFrom left [] place legs.flatten, l.transitions ≠ [] := by
  induction legs generalizing left place with
  | nil => exact fun l hl => nomatch hl
  | cons leg legs ih =>
    obtain ⟨ts, q, hts, rfl⟩ := h leg List.mem_cons_self
    rw [List.flatten_cons, List.append_assoc, List.singleton_append, linksFrom_leg]
    intro l hl
    rcases List.mem_cons.1 hl with rfl | hl
    · exact hts
    · exact ih (fun leg hleg => h leg (List.mem_cons_of_mem _ hleg)) _ _ l hl

/-- The links of a rule: the first joins its source with a state, and the others join states. -/
structure Opens (s : Statement) (source : Node) (ts : List TransitionPart) (q : StatePart)
    (rest : List Part) (ls : List Link) : Prop where
  parts : s.parts = source.part :: (ts.map Part.transition ++ .state q :: rest)
  links_eq : links s.parts = ⟨source, ts, .state q⟩ :: ls
  joined : ∀ l ∈ links s.parts, l.transitions ≠ []
  states : ∀ l ∈ ls, (∃ p, l.left = .state p) ∧ ∃ p, l.right = .state p

namespace Statement

variable {s : Statement} {f : CompileError}

theorem IsRule.exists_opens (h : s.IsRule) : ∃ source ts q rest ls, Opens s source ts q rest ls := by
  obtain ⟨_, behind, _, hbehind, hno, _⟩ := h.rest
  obtain ⟨first, legs, hfirst, hne, hparts, hlegs⟩ := h
  obtain ⟨source, hsource⟩ := (Part.isNode_iff 0).1 hfirst
  have hpart : first = source.part := by
    cases first with
    | transition t => cases hsource
    | _ =>
      obtain rfl := Option.some.inj hsource
      rfl
  have hjoined : ∀ l ∈ links s.parts, l.transitions ≠ [] := by
    rw [hparts, links_node hsource]
    exact joined_linksFrom hlegs source 1
  obtain ⟨leg, legs, rfl⟩ := List.exists_cons_of_ne_nil hne
  obtain ⟨ts, q, hts, rfl⟩ := hlegs leg List.mem_cons_self
  rw [List.flatten_cons, List.append_assoc, List.singleton_append] at hparts
  refine ⟨source, ts, q, legs.flatten, linksFrom (.state q) [] (1 + ts.length + 1) legs.flatten,
    ?_, ?_, hjoined, ?_⟩
  · rw [hparts, hpart]
  · rw [hparts, links_node hsource, linksFrom_leg]
  -- No wildcard follows the source, so whatever is joined behind the first leg are states.
  · obtain rfl := (List.cons.inj (hparts.symm.trans hbehind)).2
    have hlegs : ∀ w, .wildcard w ∉ legs.flatten := fun w hw => hno w (by simp [hw])
    intro l hl
    obtain ⟨hleft, hright⟩ := ends_of_mem_linksFrom hlegs hl
    exact ⟨hleft.elim (fun hq => ⟨q, hq⟩) id, hright⟩

theorem IsRule.isFramed (h : s.IsRule) : s.isFramed = true := by
  obtain ⟨source, legs, hsource, hne, hparts, hlegs⟩ := h
  rcases List.eq_nil_or_concat legs with rfl | ⟨front, leg, rfl⟩
  · exact absurd rfl hne
  rw [List.concat_eq_append] at hparts hlegs
  obtain ⟨ts, q, _, rfl⟩ := hlegs leg (List.mem_append_right _ (List.mem_singleton_self leg))
  have hlast : s.parts.getLast? = some (.state q) := by
    rw [hparts, List.flatten_append, List.flatten_singleton, ← List.append_assoc, ← List.cons_append,
      List.getLast?_concat]
  rw [Statement.isFramed, hlast, hparts, List.head?_cons]
  simpa [Part.isNode] using hsource

end Statement

/-! ## Arrows at fault -/

theorem Edge.repeats_iff_same {d e : Edge} : d.repeats e = true ↔ d.Same e := by
  rw [← not_iff_not, ← repeats_eq_false_iff, Bool.not_eq_true]

/-- The arrows lead to states, and no two of them have the same edge. -/
structure Clear (as : List Arrow) : Prop where
  target : ∀ a ∈ as, ∃ q, a.target = .state q
  distinct : (as.filterMap Arrow.edge?).Pairwise fun d e => ¬ e.Same d

/-- Behind others, an arrow is refused that leads to a wildcard or has the edge of one of them. -/
inductive Arrow.Refused (before : List Arrow) (a : Arrow) : CompileError → Prop
  | stray {seat : Nat} {w : Wildcard} (h : a.target = .wildcard seat w) :
      Refused before a (.of (.wildcardTarget w.text) [w.pos, a.transition.pos])
  | again {d e : Edge} (he : a.edge? = some e) (hd : d ∈ before.filterMap Arrow.edge?)
      (hsame : e.Same d) : Refused before a e.repetition

/-- Edges are collected up to the first arrow that is refused. -/
theorem collect_edges_eq_error_iff {as : List Arrow} {f : CompileError} :
    collect [] (as.map fun a => a.transition.edge a.source a.target) = .error f ↔
      ∃ before a after, as = before ++ a :: after ∧ Clear before ∧ a.Refused before f := by
  rw [collect_eq_error_iff]
  constructor
  · intro h
    obtain ⟨new, x, rest, hcut, hnew, hx⟩ := h
    obtain ⟨before, behind, rfl, hbefore, hbehind⟩ := List.map_eq_append_iff.1 hcut
    obtain ⟨a, after, rfl, ha, _⟩ := List.map_eq_cons_iff.1 hbehind
    obtain ⟨htarget, rfl⟩ := map_edge_eq_iff.1 hbefore
    have hdistinct := (collect_nil_eq_ok_iff.1 hnew).2
    refine ⟨before, a, after, rfl, ⟨htarget, ?_⟩, ?_⟩
    · exact hdistinct.imp fun hnot => Edge.repeats_eq_false_iff.1 hnot
    · rcases hx with rfl | ⟨e, rfl, ⟨d, hd, hrepeats⟩, rfl⟩
      · obtain ⟨source, t, target⟩ := a
        cases target with
        | state q => cases ha
        | wildcard seat w =>
          obtain rfl := Except.error.inj ha
          exact .stray rfl
      · obtain ⟨q, hq, rfl⟩ := TransitionPart.edge_eq_ok ha
        refine .again ?_ hd ?_
        · rw [Arrow.edge?, hq]
        · exact Edge.repeats_iff_same.1 hrepeats
  · intro h
    obtain ⟨before, a, after, rfl, hclear, ha⟩ := h
    have hbefore := map_edge_eq_iff.2 ⟨hclear.target, rfl⟩
    have hcollect := collect_nil_eq_ok_iff.2 ⟨rfl, hclear.distinct.imp fun hnot =>
      Edge.repeats_eq_false_iff.2 hnot⟩
    refine ⟨_, _, _, by rw [List.map_append, hbefore, List.map_cons], hcollect, ?_⟩
    obtain ⟨source, t, target⟩ := a
    cases ha with
    | stray h =>
      cases h
      exact Or.inl rfl
    | @again d e he hd hsame =>
      cases target with
      | wildcard seat w => cases he
      | state q =>
        obtain rfl := Option.some.inj he
        exact Or.inr ⟨_, rfl, ⟨d, hd, Edge.repeats_iff_same.2 hsame⟩, rfl⟩

/-- An arrow leads to the right, or to the left if its transition does so too. -/
theorem Link.target_of_mem_arrows {l : Link} {a : Arrow} (h : a ∈ l.arrows) :
    a.target = l.right ∨ a.target = l.left ∧ ∃ t ∈ l.transitions, t.direction ≠ .right := by
  obtain ⟨t, ht, ha⟩ := List.mem_flatMap.1 h
  unfold arrowsOf at ha
  cases hdirection : t.direction with
  | right =>
    rw [hdirection] at ha
    obtain rfl := List.mem_singleton.1 ha
    exact Or.inl rfl
  | left =>
    rw [hdirection] at ha
    obtain rfl := List.mem_singleton.1 ha
    exact Or.inr ⟨rfl, t, ht, by simp [hdirection]⟩
  | both =>
    rw [hdirection] at ha
    have hends : a = ⟨l.left, t, l.right⟩ ∨ a = ⟨l.right, t, l.left⟩ := by
      simp only at ha
      split at ha
      · exact Or.inl (List.mem_singleton.1 ha)
      · exact List.mem_pair.1 ha
    rcases hends with rfl | rfl
    · exact Or.inl rfl
    · exact Or.inr ⟨rfl, t, ht, by simp [hdirection]⟩

namespace Statement

variable {s : Statement} {f : CompileError} {w : Wildcard} {t : TransitionPart} {es : List Edge}

/-- The arrows of a statement, in the order in which they are directed. -/
def arrows (s : Statement) : List Arrow := (links s.parts).flatMap Link.arrows

theorem IsRule.attempts_eq (h : s.IsRule) : (links s.parts).flatMap Link.attempts =
    s.arrows.map fun a => a.transition.edge a.source a.target := by
  obtain ⟨source, ts, q, rest, ls, hopens⟩ := h.exists_opens
  rw [arrows, List.map_flatMap]
  exact List.flatMap_congr fun l hl => Link.attempts_eq (hopens.joined l hl)

theorem IsRule.expand_eq_error_iff_collect (h : s.IsRule) :
    s.expand = .error f ↔ collect [] ((links s.parts).flatMap Link.attempts) = .error f := by
  rw [expand, expandWith_eq_error_iff, Link.map_renumber_id, h.isFramed]
  simp

/-- **A rule fails to expand at the first arrow that is refused**, and nowhere else. -/
theorem IsRule.expand_eq_error_iff (h : s.IsRule) : s.expand = .error f ↔
    ∃ before a after, s.arrows = before ++ a :: after ∧ Clear before ∧ a.Refused before f := by
  rw [h.expand_eq_error_iff_collect, h.attempts_eq, collect_edges_eq_error_iff]

/-! ## Arrows that lead back -/

/-- The statement starts with the wildcard `w`, and before its first state `t` is the first transition that
leads back to it; until then the wildcard has the edges `es`. -/
def LeadsBack (s : Statement) (w : Wildcard) (t : TransitionPart) (es : List Edge) : Prop :=
  ∃ (rights others : List TransitionPart) (q : StatePart) (rest : List Part),
    s.parts = .wildcard w :: ((rights ++ t :: others).map Part.transition ++ .state q :: rest) ∧
    (∀ r ∈ rights, r.direction = .right) ∧ t.direction ≠ .right ∧
    es = (rights ++ if t.direction = .both then [t] else []).map fun r =>
      ⟨.wildcard 0 w, r.entry q.name⟩

/-- Some transition before the first state leads back to the wildcard that the statement starts with. -/
theorem exists_leadsBack_iff : (∃ w t es, s.LeadsBack w t es) ↔
    ∃ (w : Wildcard) (ts : List TransitionPart) (q : StatePart) (rest : List Part),
      s.parts = .wildcard w :: (ts.map Part.transition ++ .state q :: rest) ∧
        ∃ t ∈ ts, t.direction ≠ .right := by
  constructor
  · intro h
    obtain ⟨w, t, es, rights, others, q, rest, hparts, _, ht, _⟩ := h
    exact ⟨w, rights ++ t :: others, q, rest, hparts, t, by simp, ht⟩
  · intro h
    obtain ⟨w, ts, q, rest, hparts, t, ht, hdirection⟩ := h
    have hfound : (ts.find? fun t => decide (t.direction ≠ .right)).isSome := by
      rw [List.find?_isSome]
      exact ⟨t, ht, decide_eq_true hdirection⟩
    obtain ⟨first, hfirst⟩ := Option.isSome_iff_exists.1 hfound
    obtain ⟨hback, rights, others, rfl, hrights⟩ := List.find?_eq_some_iff_append.1 hfirst
    refine ⟨w, first, _, rights, others, q, rest, hparts, fun r hr => ?_, of_decide_eq_true hback, rfl⟩
    simpa using hrights r hr

/-- What is attempted from a wildcard to a state. -/
theorem directed_forth (ts : List TransitionPart) (q : StatePart) (h : t.direction = .right) :
    Link.directed ⟨.wildcard 0 w, ts, .state q⟩ t = [.ok ⟨.wildcard 0 w, t.entry q.name⟩] := by
  rw [Link.directed, h]
  rfl

/-- What is attempted from a state to a wildcard, behind what a transition both ways says first. -/
theorem directed_back (ts : List TransitionPart) (q : StatePart) (h : t.direction ≠ .right) :
    Link.directed ⟨.wildcard 0 w, ts, .state q⟩ t =
      ((if t.direction = .both then [t] else []).map fun r => .ok ⟨.wildcard 0 w, r.entry q.name⟩) ++
        [.error (.of (.wildcardTarget w.text) [w.pos, t.pos])] := by
  unfold Link.directed
  cases hdirection : t.direction with
  | right => exact absurd hdirection h
  | left => rfl
  | both => rfl

/-- All goes well up to the transition that leads back to the wildcard. -/
theorem LeadsBack.exists_attempts (h : s.LeadsBack w t es) : ∃ rest,
    (links s.parts).flatMap Link.attempts =
      es.map .ok ++ .error (.of (.wildcardTarget w.text) [w.pos, t.pos]) :: rest := by
  obtain ⟨rights, others, q, behind, hparts, hrights, ht, rfl⟩ := h
  let l : Link := ⟨.wildcard 0 w, rights ++ t :: others, .state q⟩
  have hlinks : ∃ ls, links s.parts = l :: ls := by
    rw [hparts, links_node (p := .wildcard w) rfl, linksFrom_leg]
    exact ⟨_, rfl⟩
  obtain ⟨ls, hls⟩ := hlinks
  have hattempts : l.attempts = (rights ++ t :: others).flatMap l.directed := if_neg (by simp [l])
  have hforth : rights.flatMap l.directed =
      rights.map fun r => .ok ⟨.wildcard 0 w, r.entry q.name⟩ := by
    rw [List.map_eq_flatMap]
    exact List.flatMap_congr fun r hr => directed_forth _ q (hrights r hr)
  refine ⟨others.flatMap l.directed ++ ls.flatMap Link.attempts, ?_⟩
  rw [hls, List.flatMap_cons, hattempts, List.flatMap_append, List.flatMap_cons, hforth,
    directed_back _ q ht, List.map_map, List.map_append]
  simp only [List.append_assoc, List.cons_append, List.nil_append]
  rfl

/-- Unless something leads back to the wildcard, all arrows of a rule lead to states. -/
theorem IsRule.target_of_not_leadsBack (h : s.IsRule) (hback : ¬ ∃ w t es, s.LeadsBack w t es) :
    ∀ a ∈ s.arrows, ∃ q, a.target = .state q := by
  obtain ⟨source, ts, q, rest, ls, hopens⟩ := h.exists_opens
  intro a ha
  rw [arrows, hopens.links_eq, List.flatMap_cons] at ha
  rcases List.mem_append.1 ha with ha | ha
  · rcases Link.target_of_mem_arrows ha with htarget | ⟨htarget, t, ht, hdirection⟩
    · exact ⟨q, htarget⟩
    · cases hsource : source with
      | state p => exact ⟨p, htarget.trans hsource⟩
      | wildcard seat w =>
        have hparts := hopens.parts
        rw [hsource] at hparts
        exact absurd (exists_leadsBack_iff.2 ⟨w, ts, q, rest, hparts, t, ht, hdirection⟩) hback
  · obtain ⟨l, hl, ha⟩ := List.mem_flatMap.1 ha
    obtain ⟨⟨p, hleft⟩, r, hright⟩ := hopens.states l hl
    rcases Link.target_of_mem_arrows ha with htarget | ⟨htarget, _⟩
    · exact ⟨r, htarget.trans hright⟩
    · exact ⟨p, htarget.trans hleft⟩

/-- Where nothing fails by itself, only a repetition can. -/
theorem exists_repetition (h : collect [] (es.map .ok) = .error f) : ∃ e : Edge, f = e.repetition := by
  obtain ⟨new, a, rest, hcut, _, ha⟩ := collect_eq_error_iff.1 h
  rcases ha with rfl | ⟨e, _, _, rfl⟩
  · have hmem : .error f ∈ es.map Except.ok := by
      rw [hcut]
      exact List.mem_append_right _ List.mem_cons_self
    obtain ⟨e, _, he⟩ := List.mem_map.1 hmem
    cases he
  · exact ⟨e, rfl⟩

/-- What becomes of a rule that leads back to its wildcard. -/
theorem IsRule.expand_of_leadsBack (h : s.IsRule) (hback : s.LeadsBack w t es) :
    (es.Pairwise (fun d e => ¬ e.Same d) ∧
      s.expand = .error (.of (.wildcardTarget w.text) [w.pos, t.pos])) ∨
    ¬ es.Pairwise (fun d e => ¬ e.Same d) ∧ ∃ e : Edge, s.expand = .error e.repetition := by
  -- Nothing fails by itself before the transition that leads back, so the edges up to it decide.
  obtain ⟨rest, hattempts⟩ := hback.exists_attempts
  have hsame : es.Pairwise (fun d e => ¬ e.Same d) ↔ collect [] (es.map .ok) = .ok es := by
    simp only [collect_nil_eq_ok_iff, true_and, Edge.repeats_eq_false_iff]
  rw [h.expand_eq_error_iff_collect, hsame, hattempts, collect_append]
  cases hcollect : collect [] (es.map Except.ok) with
  | ok found =>
    obtain ⟨hfound, _⟩ := collect_nil_eq_ok_iff.1 hcollect
    have hes : es = found := List.map_injective_iff.2 (fun _ _ => Except.ok.inj) hfound
    rw [hes]
    exact Or.inl ⟨rfl, rfl⟩
  | error g =>
    obtain ⟨e, rfl⟩ := exists_repetition hcollect
    refine Or.inr ⟨(fun hok => nomatch hok), e, ?_⟩
    rw [h.expand_eq_error_iff_collect, hattempts, collect_append, hcollect]
    rfl

/-- **A rule is illegal exactly if it leads back to its wildcard**, and no two edges before that are the
same. -/
theorem IsRule.expand_eq_wildcardTarget_iff (h : s.IsRule) {text : String} {places : List Position} :
    s.expand = .error (.refused ⟨.wildcardTarget text, places⟩) ↔
      ∃ w t es, s.LeadsBack w t es ∧ (es.Pairwise fun d e => ¬ e.Same d) ∧ text = w.text ∧
        places = [w.pos, t.pos].filterMap id := by
  constructor
  · intro hexpand
    have hback : ∃ w t es, s.LeadsBack w t es := by
      by_contra hnone
      obtain ⟨before, a, after, harrows, _, ha⟩ := h.expand_eq_error_iff.1 hexpand
      have hmem : a ∈ s.arrows := by simp [harrows]
      obtain ⟨q, hq⟩ := h.target_of_not_leadsBack hnone a hmem
      cases ha with
      | stray hstray =>
        rw [hq] at hstray
        cases hstray
    obtain ⟨w, t, es, hback⟩ := hback
    rcases h.expand_of_leadsBack hback with ⟨hdistinct, hillegal⟩ | ⟨_, e, hagain⟩
    · rw [hexpand] at hillegal
      cases hillegal
      exact ⟨w, t, es, hback, hdistinct, rfl, rfl⟩
    · rw [hexpand] at hagain
      cases hagain
  · intro hback
    obtain ⟨w, t, es, hback, hdistinct, rfl, rfl⟩ := hback
    rcases h.expand_of_leadsBack hback with ⟨_, hillegal⟩ | ⟨hsame, _⟩
    · exact hillegal
    · exact absurd hdistinct hsame

end Statement

/-- **The statements of a text fail to expand in two ways only.** Each is a source and behind it one or more
times transitions and a state, so that a wildcard stands in the first place only; it is never refused for
its frame or for a missing transition, and has an edge if it expands. It is refused for a wildcard that is
led to exactly if it starts with that wildcard and some transition before its first state leads back, unless
two edges before that are the same; and the only other refusal is that of an arrow which has the edge of an
earlier one. -/
theorem expand_of_statementsOf {cap : Capacity} {source : String} {ss : List Statement}
    (h : statementsOf cap source = .ok ss) : ∀ s ∈ ss, s.IsRule ∧
      (∀ x, s.expand = .ok x → x.edges ≠ []) ∧
      (∀ places, s.expand ≠ .error (.refused ⟨.unframed, places⟩) ∧
        s.expand ≠ .error (.refused ⟨.noTransition, places⟩)) ∧
      (∀ text places, s.expand = .error (.refused ⟨.wildcardTarget text, places⟩) ↔
        ∃ w t es, s.LeadsBack w t es ∧ (es.Pairwise fun d e => ¬ e.Same d) ∧ text = w.text ∧
          places = [w.pos, t.pos].filterMap id) ∧
      ((∃ w t es, s.LeadsBack w t es) ↔
        ∃ (w : Wildcard) (ts : List TransitionPart) (q : StatePart) (rest : List Part),
          s.parts = .wildcard w :: (ts.map Part.transition ++ .state q :: rest) ∧
            ∃ t ∈ ts, t.direction ≠ .right) ∧
      (∀ f, s.expand = .error f ↔
        ∃ before a after, s.arrows = before ++ a :: after ∧ Clear before ∧ a.Refused before f) ∧
      ∀ f, s.expand = .error f → (∃ text places, f = .refused ⟨.wildcardTarget text, places⟩) ∨
        ∃ origin label places, f = .refused ⟨.duplicate origin label, places⟩ := by
  intro s hs
  have hrule := isRule_of_statementsOf h s hs
  have hways : ∀ f, s.expand = .error f →
      (∃ text places, f = .refused ⟨.wildcardTarget text, places⟩) ∨
        ∃ origin label places, f = .refused ⟨.duplicate origin label, places⟩ := by
    intro f hf
    obtain ⟨_, _, _, _, _, ha⟩ := hrule.expand_eq_error_iff.1 hf
    cases ha with
    | stray => exact Or.inl ⟨_, _, rfl⟩
    | again => exact Or.inr ⟨_, _, _, rfl⟩
  refine ⟨hrule, fun x hx => hrule.edges_ne_nil hx, fun places => ⟨?_, ?_⟩,
    fun text places => hrule.expand_eq_wildcardTarget_iff, Statement.exists_leadsBack_iff,
    fun f => hrule.expand_eq_error_iff, hways⟩
  · intro hf
    rcases hways _ hf with ⟨_, _, h⟩ | ⟨_, _, _, h⟩ <;> cases h
  · intro hf
    rcases hways _ hf with ⟨_, _, h⟩ | ⟨_, _, _, h⟩ <;> cases h

theorem expand_of_statementsOf_both_ways : ∃ s s', statementsOf .ample "* -x> <y- a; * -x> -y> a;" = .ok [s, s'] ∧
    (∃ w t es, s.LeadsBack w t es) ∧ ∃ x, s'.expand = .ok x ∧ x.edges ≠ [] := by
  have hrun : (statementsOf .ample "* -x> <y- a; * -x> -y> a;").map (·.map fun s => s.expand.map fun _ => ()) =
      .ok [.error (.refused ⟨.wildcardTarget "*", [⟨1, 1⟩, ⟨1, 8⟩]⟩), .ok ()] := by decide +kernel
  cases h : statementsOf .ample "* -x> <y- a; * -x> -y> a;" with
  | error e =>
    rw [h] at hrun
    cases hrun
  | ok ss =>
    rw [h] at hrun
    obtain ⟨s, rest, rfl, hs, hrest⟩ := List.map_eq_cons_iff.1 (Except.ok.inj hrun)
    obtain ⟨s', rest, rfl, hs', hnil⟩ := List.map_eq_cons_iff.1 hrest
    rw [List.map_eq_nil_iff.1 hnil] at h ⊢
    obtain ⟨_, _, _, hillegal, _⟩ := expand_of_statementsOf h s (by simp)
    obtain ⟨_, hedges, _⟩ := expand_of_statementsOf h s' (by simp)
    have hback : ∃ w t es, s.LeadsBack w t es := by
      cases hexpand : s.expand with
      | ok x =>
        rw [hexpand] at hs
        cases hs
      | error f =>
        rw [hexpand] at hs
        rw [Except.error.inj hs, hillegal] at hexpand
        obtain ⟨w, t, es, hback, _⟩ := hexpand
        exact ⟨w, t, es, hback⟩
    cases hexpand : s'.expand with
    | ok x => exact ⟨s, s', rfl, hback, x, hexpand, hedges x hexpand⟩
    | error f =>
      rw [hexpand] at hs'
      cases hs'

end ArrowMachine
