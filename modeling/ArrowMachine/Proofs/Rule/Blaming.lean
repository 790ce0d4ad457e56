import ArrowMachine.Proofs.Rule.Meaning
import ArrowMachine.Proofs.Rule.Placing
import ArrowMachine.Proofs.Table.Rows

/-!
Which places an error tells of.

Statements are refused for places that they bear, whoever put them together
(`borne_of_compileStatements`). The statements of a text bear the places of its lexemes
(`Spelling.Says.placed`), so every place that is told of when a text is refused has something of the text
at it (`occupied_of_compile`).
-/
namespace ArrowMachine

/-- The error is a refusal, for places with a property only. -/
def CompileError.RefusedFor (P : Position → Prop) (e : CompileError) : Prop :=
  ∃ r, e = .refused r ∧ ∀ p ∈ r.places, P p

namespace CompileError

variable {e : CompileError} {P Q : Position → Prop}

theorem refusedFor_of {problem : Problem} {places : List (Option Position)}
    (h : ∀ p, some p ∈ places → P p) : (CompileError.of problem places).RefusedFor P := by
  refine ⟨_, rfl, fun p hp => h p ?_⟩
  simpa using hp

theorem refusedFor_of_one {problem : Problem} {place : Option Position} (h : ∀ p, place = some p → P p) :
    (CompileError.of problem [place]).RefusedFor P :=
  refusedFor_of fun p hp => h p (List.mem_singleton.1 hp).symm

theorem refusedFor_of_two {problem : Problem} {a b : Option Position} (ha : ∀ p, a = some p → P p)
    (hb : ∀ p, b = some p → P p) : (CompileError.of problem [a, b]).RefusedFor P := by
  refine refusedFor_of fun p hp => ?_
  rcases List.mem_cons.1 hp with hp | hp
  · exact ha p hp.symm
  · exact hb p (List.mem_singleton.1 hp).symm

theorem RefusedFor.mono (h : e.RefusedFor P) (hPQ : ∀ p, P p → Q p) : e.RefusedFor Q := by
  obtain ⟨r, he, hr⟩ := h
  exact ⟨r, he, fun p hp => hPQ p (hr p hp)⟩

end CompileError

/-! ## Statements -/

/-- A place is that of one of the parts. -/
def Standing (ps : List Part) (p : Position) : Prop := ∃ part ∈ ps, part.pos = some p

/-- The statement begins at the place, or one of its parts is there. -/
def Statement.Bears (s : Statement) (p : Position) : Prop := s.pos = some p ∨ Standing s.parts p

variable {s : Statement} {ss : List Statement} {cap : Capacity} {settings : Settings} {e : CompileError} {p : Position}

theorem Node.standing {ps : List Part} {node : Node} (h : node.part ∈ ps) (hp : node.pos = some p) :
    Standing ps p := by
  refine ⟨node.part, h, ?_⟩
  cases node <;> exact hp

theorem TransitionPart.refusedFor_of_edge {ps : List Part} {t : TransitionPart} {source target : Node}
    (ht : .transition t ∈ ps) (htarget : target.part ∈ ps) (h : t.edge source target = .error e) :
    e.RefusedFor (Standing ps) := by
  cases target with
  | state q => cases h
  | wildcard seat w =>
    obtain rfl := Except.error.inj h
    exact CompileError.refusedFor_of_two (fun _ hp => Node.standing htarget hp) fun _ hp => ⟨_, ht, hp⟩

theorem Link.refusedFor_of_mem_attempts {ps : List Part} {l : Link} (hl : l ∈ links ps)
    (h : .error e ∈ l.attempts) : e.RefusedFor (Standing ps) := by
  obtain ⟨hleft, hright, htransitions⟩ := mem_links hl
  rcases Link.mem_attempts h with h | ⟨t, ht, h | h⟩
  · obtain rfl := Except.error.inj h
    exact CompileError.refusedFor_of_two (fun _ hp => Node.standing hleft hp) fun _ hp =>
      Node.standing hright hp
  · exact TransitionPart.refusedFor_of_edge (htransitions t ht) hright h.symm
  · exact TransitionPart.refusedFor_of_edge (htransitions t ht) hleft h.symm

/-- The place of an edge is that of a transition. -/
theorem Link.standing_of_mem_attempts {ps : List Part} {l : Link} {d : Edge} (hl : l ∈ links ps)
    (h : .ok d ∈ l.attempts) (hp : d.entry.pos = some p) : Standing ps p := by
  obtain ⟨_, _, htransitions⟩ := mem_links hl
  obtain ⟨t, ht, hedge⟩ := Link.ok_mem_attempts h
  have hentry : ∃ target, d.entry = t.entry target := by
    rcases hedge with hedge | hedge <;> obtain ⟨_, _, rfl⟩ := TransitionPart.edge_eq_ok hedge <;>
      exact ⟨_, rfl⟩
  obtain ⟨target, hentry⟩ := hentry
  rw [hentry] at hp
  exact ⟨_, htransitions t ht, hp⟩

/-- **A statement that does not expand is refused, for places that it bears.** -/
theorem Statement.refusedFor_of_expand (h : s.expand = .error e) : e.RefusedFor s.Bears := by
  rcases Statement.expandWith_eq_error_iff.1 h with ⟨_, rfl⟩ | ⟨_, hcollect⟩
  · exact CompileError.refusedFor_of_one fun _ hp => Or.inl hp
  · rw [Link.map_renumber_id] at hcollect
    obtain ⟨new, a, rest, hattempts, _, ha⟩ := collect_eq_error_iff.1 hcollect
    have hmem : a ∈ (links s.parts).flatMap Link.attempts := by
      rw [hattempts]
      exact List.mem_append_right _ List.mem_cons_self
    obtain ⟨l, hl, hattempt⟩ := List.mem_flatMap.1 hmem
    rcases ha with rfl | ⟨d, rfl, _, rfl⟩
    · exact (Link.refusedFor_of_mem_attempts hl hattempt).mono fun _ hp => Or.inr hp
    · exact CompileError.refusedFor_of_one fun _ hp =>
        Or.inr (Link.standing_of_mem_attempts hl hattempt hp)

theorem Statement.bears_of_edge {x : Expansion} (h : s.expand = .ok x) {d : Edge} (hd : d ∈ x.edges)
    (hp : d.entry.pos = some p) : s.Bears p := by
  obtain ⟨_, t, _, hamong⟩ := Statement.expand_edge h hd
  rw [hamong.entry] at hp
  exact Or.inr ⟨_, hamong.transition_mem, hp⟩

/-! ## Merging -/

/-- One of the statements bears the place. -/
def Borne (ss : List Statement) (p : Position) : Prop := ∃ s ∈ ss, s.Bears p

theorem FirstConflict.mem {κ : Type} [DecidableEq κ] {place : Claim → κ} {cs : List Claim}
    {o c : Claim} (h : FirstConflict place cs o c) : o ∈ cs ∧ c ∈ cs := by
  obtain ⟨before, after, rfl, _, hfind, _⟩ := h
  exact ⟨List.mem_append_left _ (List.mem_of_find?_eq_some hfind),
    List.mem_append_right _ List.mem_cons_self⟩

section Merging

variable {program : Program} (hexpand : ss.mapM Statement.expand = .ok program.rules)
include hexpand

theorem Program.borne_of_claim {c : Claim} (hc : c ∈ program.claims ++ program.bids)
    (hp : c.entry.pos = some p) : Borne ss p := by
  obtain ⟨d, ⟨x, hx, hd⟩, hentry⟩ := Program.exists_has_of_claim hc
  obtain ⟨s, hs, hx⟩ := exists_of_mem_expanded hexpand (List.mem_of_getElem? hx)
  exact ⟨s, hs, Statement.bears_of_edge hx hd (hentry ▸ hp)⟩

theorem Program.refusedFor_of_conflict {o c : Claim} (ho : o ∈ program.claims ++ program.bids)
    (hc : c ∈ program.claims ++ program.bids) : (conflictError o c).RefusedFor (Borne ss) :=
  CompileError.refusedFor_of_two (fun _ => Program.borne_of_claim hexpand ho) fun _ =>
    Program.borne_of_claim hexpand hc

theorem Program.refusedFor_of_initialState (h : program.initialState = .error e) :
    e.RefusedFor (Borne ss) := by
  unfold Program.initialState at h
  split at h
  · obtain rfl := Except.error.inj h
    exact CompileError.refusedFor_of fun _ hp => (nomatch hp)
  · cases h
  · obtain rfl := Except.error.inj h
    refine CompileError.refusedFor_of fun p hp => ?_
    obtain ⟨q, hq, hpos⟩ := List.mem_map.1 hp
    obtain ⟨x, hx, hq⟩ := List.mem_flatMap.1 hq
    obtain ⟨s, hs, hx⟩ := exists_of_mem_expanded hexpand hx
    rw [(Statement.expand_eq_ok_iff.1 hx).initial] at hq
    exact ⟨s, hs, Or.inr ⟨_, Statement.mem_stateParts.1 (List.mem_of_mem_filter hq), hpos⟩⟩

/-- A program is refused for places that its statements bear, unless a search goes wrong or a row is too
wide. -/
theorem Program.Merges.refusedFor (h : program.Merges cap settings (.error e)) :
    e.RefusedFor (Borne ss) ∨ (∃ wildcard state, e = .crossedGroup wildcard state) ∨
      ∃ missing, e = .tooWide missing := by
  cases h with
  | explicit hfirst =>
    obtain ⟨ho, hc⟩ := hfirst.mem
    exact Or.inl (Program.refusedFor_of_conflict hexpand (List.mem_append_left _ ho)
      (List.mem_append_left _ hc))
  | wildcards _ hfirst =>
    obtain ⟨ho, hc⟩ := hfirst.mem
    exact Or.inl (Program.refusedFor_of_conflict hexpand (List.mem_append_right _ ho)
      (List.mem_append_right _ hc))
  | crosses => exact Or.inr (Or.inl ⟨_, _, rfl⟩)
  | unsettled _ _ _ hinitial => exact Or.inl (Program.refusedFor_of_initialState hexpand hinitial)
  | tooWide => exact Or.inr (Or.inr ⟨_, rfl⟩)

end Merging

/-- Expanding fails only as a refusal. -/
theorem refusedFor_of_mapM_expand (h : ss.mapM Statement.expand = .error e) : e.RefusedFor (Borne ss) := by
  obtain ⟨s, hs, hexpand⟩ := exists_of_mapM_eq_error h
  exact (Statement.refusedFor_of_expand hexpand).mono fun _ hp => ⟨s, hs, hp⟩

/-- **Statements are refused for places that they bear.** -/
theorem borne_of_compileStatements {r : Refusal}
    (h : (compileStatements cap settings ss).result = .error (.refused r)) (hp : p ∈ r.places) :
    Borne ss p := by
  have hrefused : (CompileError.refused r).RefusedFor (Borne ss) := by
    cases hrules : ss.mapM Statement.expand with
    | error e =>
      rw [compileStatements, hrules] at h
      exact Except.error.inj h ▸ refusedFor_of_mapM_expand hrules
    | ok rules =>
      have hmerges := (⟨rules⟩ : Program).merges cap settings
      rw [← compileStatements_result hrules, h] at hmerges
      rcases Program.Merges.refusedFor hrules hmerges with hrefused | ⟨_, _, heq⟩ | ⟨_, heq⟩
      · exact hrefused
      · cases heq
      · cases heq
  obtain ⟨_, heq, hplaces⟩ := hrefused
  obtain rfl := CompileError.refused.inj heq
  exact hplaces p hp

/-! ## Rules of a text -/

namespace Rule

/-- One of the lexemes has the place. -/
def Placed (ls : List Lexeme) (p : Position) : Prop := ∃ l ∈ ls, p ∈ l.place

theorem Placed.mono {ls ms : List Lexeme} (h : Placed ls p) (hsub : ls ⊆ ms) : Placed ms p := by
  obtain ⟨l, hl, hp⟩ := h
  exact ⟨l, hsub hl, hp⟩

theorem StateSpelling.placed_name (q : StateSpelling) : Placed q.lexemes q.name.pos := by
  have hnamed : q.name.lexeme .name ∈ q.named := by
    unfold named
    split <;> simp
  refine ⟨q.name.lexeme .name, ?_, rfl⟩
  unfold lexemes
  split
  · exact hnamed
  · exact List.mem_cons_of_mem _ hnamed

theorem StateSpelling.placed_mark {q : StateSpelling} (h : q.mark = some p) : Placed q.lexemes p := by
  refine ⟨.sign .mark p, ?_, rfl⟩
  rw [lexemes, h]
  exact List.mem_cons_self

theorem StateSpelling.placed_start (q : StateSpelling) : Placed q.lexemes q.start := by
  unfold start
  cases hmark : q.mark with
  | some p => exact placed_mark hmark
  | none =>
    cases hparen : q.paren with
    | none => exact q.placed_name
    | some p =>
      refine ⟨.sign .lpar p, ?_, rfl⟩
      rw [lexemes, hmark, named, hparen]
      exact List.mem_cons_self

theorem StateSpelling.placed_part (q : StateSpelling) (h : q.part.pos = some p) :
    Placed q.lexemes p := by
  obtain rfl := Option.some.inj h
  cases hmark : q.mark with
  | some p => exact placed_mark hmark
  | none => exact q.placed_name

theorem BodySpelling.placed_label (b : BodySpelling) : Placed b.lexemes b.label.pos := by
  refine ⟨b.label.lexeme .symbol, ?_, rfl⟩
  cases b with
  | plain l => exact List.mem_singleton_self _
  | bracket l channels pushes => exact List.mem_cons_of_mem _ List.mem_cons_self

theorem word_mem_pushLexemes {ws : List Word} {w : Word} (h : w ∈ ws) :
    w.lexeme .symbol ∈ pushLexemes ws := by
  cases ws with
  | nil => cases h
  | cons v vs =>
    rcases List.mem_cons.1 h with rfl | h
    · exact List.mem_cons_self
    · refine List.mem_cons_of_mem _ (List.mem_flatMap.2 ⟨w, h, ?_⟩)
      exact List.mem_cons_of_mem _ (List.mem_singleton_self _)

theorem BodySpelling.push_mem {b : BodySpelling} {w : Word} (h : w ∈ b.pushes) :
    w.lexeme .symbol ∈ b.lexemes := by
  cases b with
  | plain l => cases h
  | bracket l channels pushes =>
    exact List.mem_cons_of_mem _ (List.mem_cons_of_mem _
      (List.mem_append_right _ (word_mem_pushLexemes h)))

theorem BodySpelling.placed_push {b : BodySpelling} {w : Word} (h : w ∈ b.pushes) :
    Placed b.lexemes w.pos := ⟨w.lexeme .symbol, push_mem h, rfl⟩

namespace Spelling

variable {r : Spelling} {st : Statement}

theorem leg_lexemes_subset {l : Leg} (h : l ∈ r.legs) : l.lexemes ⊆ r.lexemes := fun _ hm =>
  List.mem_append_right _ (List.mem_append_left _ (List.mem_flatMap.2 ⟨l, h, hm⟩))

theorem target_lexemes_subset {l : Leg} (h : l ∈ r.legs) : l.target.lexemes ⊆ r.lexemes := fun _ hm =>
  leg_lexemes_subset h (List.mem_append_right _ hm)

theorem body_lexemes_subset {a : ArrowSpelling} (h : a ∈ r.arrows) : a.body.lexemes ⊆ r.lexemes := by
  intro m hm
  obtain ⟨l, hl, ha⟩ := List.mem_flatMap.1 h
  refine leg_lexemes_subset hl (List.mem_append_left _ (List.mem_flatMap.2 ⟨a, ha, ?_⟩))
  exact List.mem_cons_of_mem _ (List.mem_append_left _ hm)

/-- A rule begins with a lexeme. -/
theorem placed_start (r : Spelling) : Placed r.lexemes r.start := by
  refine Placed.mono ?_ (List.subset_append_left r.source.lexemes (legLexemes r.legs))
  unfold start
  cases r.source with
  | state q => exact q.placed_start
  | pattern l => exact ⟨_, List.mem_singleton_self _, rfl⟩
  | any pos => exact ⟨_, List.mem_singleton_self _, rfl⟩

theorem placed_source {part : Part} (h : r.source.Says cap part) (hp : part.pos = some p) :
    Placed r.lexemes p := by
  refine Placed.mono ?_ (List.subset_append_left r.source.lexemes (legLexemes r.legs))
  generalize r.source = source at h
  cases h with
  | state q => exact q.placed_part hp
  | pattern => exact ⟨_, List.mem_singleton_self _, hp⟩
  | any pos => exact ⟨_, List.mem_singleton_self _, hp⟩

/-- **A statement bears the places of the lexemes of its rule.** -/
theorem Says.placed (h : r.Says cap st) (hp : st.Bears p) : Placed r.lexemes p := by
  rcases hp with hp | ⟨part, hpart, hp⟩
  · rw [h.pos] at hp
    obtain rfl := Option.some.inj hp
    exact r.placed_start
  · obtain ⟨source, hsource, hparts⟩ := h.parts
    rw [hparts] at hpart
    rcases List.mem_cons.1 hpart with rfl | hpart
    · exact placed_source hsource hp
    · obtain ⟨l, hl, hpart⟩ := List.mem_flatMap.1 hpart
      rcases List.mem_append.1 hpart with hpart | hpart
      · obtain ⟨a, ha, rfl⟩ := List.mem_map.1 hpart
        obtain rfl := Option.some.inj hp
        exact a.body.placed_label.mono (body_lexemes_subset (List.mem_flatMap.2 ⟨l, hl, ha⟩))
      · obtain rfl := List.mem_singleton.1 hpart
        exact (l.target.placed_part hp).mono (target_lexemes_subset hl)

/-- A rule with a fault of its own is refused for a lexeme of it. -/
theorem Refused.refusedFor (h : r.Refused cap e) : e.RefusedFor (Placed r.lexemes) := by
  cases h with
  | @pattern l body problem place hsource hbody hpattern =>
    refine CompileError.refusedFor_of_one fun p hp => ⟨l.lexeme .regex, ?_, hp⟩
    rw [lexemes, hsource]
    exact List.mem_cons_self
  | @writtenTwice a c w ha hw hfirst =>
    refine CompileError.refusedFor_of_one fun p hp => ?_
    have hpush := BodySpelling.placed_push (List.mem_of_getElem? hw.pushed)
    exact Option.some.inj hp ▸ hpush.mono (body_lexemes_subset ha)

end Spelling

/-! ## Texts -/

theorem occupied_of_placed {source : String} {rules : List Spelling} (h : spellings source = .ok rules)
    {r : Spelling} (hr : r ∈ rules) (hp : Placed r.lexemes p) : Occupied source.toList p := by
  obtain ⟨l, hl, hp⟩ := hp
  exact (stands_of_spellings h l (List.mem_flatMap.2 ⟨r, hr, hl⟩)).occupied hp

theorem occupied_of_borne {source : String} (h : statementsOf cap source = .ok ss) (hp : Borne ss p) :
    Occupied source.toList p := by
  obtain ⟨st, hst, hbears⟩ := hp
  obtain ⟨rules, hrules, hmeant⟩ := exists_spellings_of_statementsOf h
  obtain ⟨r, hr, hmeant⟩ := exists_of_mem_right hmeant hst
  exact occupied_of_placed hrules hr (hmeant.placed hbears)

/-- A text makes no statements because it is refused, for places where something of it stands, or because
it has a pattern that cannot be kept. -/
theorem refusedFor_of_statementsOf {source : String} (h : statementsOf cap source = .error e) :
    e.RefusedFor (Occupied source.toList) ∨ ∃ failure, e = .pattern failure := by
  cases hrules : spellings source with
  | error fault =>
    rw [statementsOf, hrules] at h
    obtain rfl := Except.error.inj h
    exact Or.inl (CompileError.refusedFor_of_one fun p hp => Option.some.inj hp ▸ occupied_of_fault hrules)
  | ok rules =>
    obtain ⟨r, hr, hrefused | ⟨failure, _, rfl⟩⟩ := statementsOf_eq_error hrules h
    · exact Or.inl (hrefused.refusedFor.mono fun _ hp => occupied_of_placed hrules hr hp)
    · exact Or.inr ⟨failure, rfl⟩

/-- **A text is refused for places where something of it stands.** -/
theorem occupied_of_compile {source : String} {r : Refusal}
    (h : (compile cap settings source).result = .error (.refused r)) (hp : p ∈ r.places) :
    Occupied source.toList p := by
  cases hss : statementsOf cap source with
  | error e =>
    rw [compile, hss] at h
    obtain rfl := Except.error.inj h
    rcases refusedFor_of_statementsOf hss with ⟨_, heq, hplaces⟩ | ⟨_, heq⟩
    · obtain rfl := CompileError.refused.inj heq
      exact hplaces p hp
    · cases heq
  | ok ss =>
    rw [compile, hss] at h
    exact occupied_of_borne hss (borne_of_compileStatements h hp)

end Rule

end ArrowMachine
