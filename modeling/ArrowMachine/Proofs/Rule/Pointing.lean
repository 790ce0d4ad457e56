import ArrowMachine.Proofs.Rule.Blaming
import ArrowMachine.Proofs.Rule.Expanding
import ArrowMachine.Proofs.Rule.Laying

/-!
What places point at.

A part of a statement stands in the text at its place (`Part.Stands`): a state at its mark or at its name
behind the parenthesis, a wildcard at its pattern or star, a transition at its label. So it does because the
rule that says it is laid out there (`LaidOut.stands_part`). The places of parts are a selection of those of
the lexemes, in order (`InOrder`), and come later and later as these do. A row of a table keeps the place of
the one transition that it is written as (`WrittenAs.pos_eq`). `positions_point_at_tokens` puts this together.
-/
namespace ArrowMachine

open Rule (Layout Terminal StandsWhole LaidOut places)
open Text (ReadsAt)

/-! ## Parts in a text -/

/-- What is written at the place of a part: the mark of an initial state, the name of any other, a pattern
between slashes or the star, or the label. -/
def Part.wording : Part → String
  | state s => if s.initial then "." else s.name
  | wildcard w => w.text
  | transition t => t.label

/-- What a state has before its name: its mark and its opening parenthesis, each if it has one and with any
layout behind it. -/
def StatePart.Front (s : StatePart) (front : List Char) : Prop :=
  ∃ dot paren, front = dot ++ paren ∧
    (if s.initial then ∃ lay, Layout lay ∧ dot = '.' :: lay else dot = []) ∧
    (if s.accepting then ∃ lay, Layout lay ∧ paren = '(' :: lay else paren = [])

/-- The part stands in the text, and its place is that of its wording: of a state, behind the parenthesis. -/
inductive Part.Stands (cs : List Char) : Part → Position → Prop
  | state {s : StatePart} {before front after : List Char} (hfront : s.Front front)
      (hname : Terminal.name.Spells s.name.toList)
      (hstop : ∀ c ∈ after.head?, Rule.isNameChar c = false)
      (hcs : cs = before ++ (front ++ (s.name.toList ++ after))) :
      Stands cs (.state s) (Position.start.advance (before ++ if s.initial then [] else front))
  | wildcard {w : Wildcard} {k : Terminal} {p : Position} (hk : k = .regex ∨ k = .star)
      (h : StandsWhole cs k w.text.toList p) : Stands cs (.wildcard w) p
  | transition {t : TransitionPart} {p : Position} (h : StandsWhole cs .symbol t.label.toList p) :
      Stands cs (.transition t) p

namespace Rule

variable {cs w : List Char} {p : Position} {ls rest : List Lexeme} {q : StateSpelling} {r : Spelling}
  {st : Statement}

/-- The name of a state stands behind layout, and behind its parenthesis if it has one. -/
theorem LaidOut.named (h : LaidOut p cs (q.named ++ rest)) : ∃ lay paren after,
    cs = lay ++ (paren ++ (q.name.text.toList ++ after)) ∧ Layout lay ∧
      (if q.paren.isSome then ∃ lay, Layout lay ∧ paren = '(' :: lay else paren = []) ∧
      Terminal.name.Spells q.name.text.toList ∧ (∀ c ∈ after.head?, isNameChar c = false) ∧
      q.name.pos = p.advance (lay ++ paren) := by
  unfold StateSpelling.named at h
  cases hparen : q.paren with
  | none =>
    rw [hparen] at h
    cases h with
    | @cons _ lay w cs _ _ hlay hw hstop htext hplace _ =>
      obtain rfl := htext q.name.text rfl
      refine ⟨lay, [], cs, rfl, hlay, rfl, hw, hstop, ?_⟩
      rw [List.append_nil]
      exact hplace _ rfl
  | some o =>
    rw [hparen] at h
    cases h with
    | @cons _ lay _ _ _ _ hlay hw _ _ _ h =>
      obtain rfl := (spells_sign rfl).1 hw
      cases h with
      | @cons _ inner w cs _ _ hinner hw hstop htext hplace _ =>
        obtain rfl := htext q.name.text rfl
        refine ⟨lay, '(' :: inner, cs, by simp, hlay, ⟨inner, hinner, rfl⟩, hw, hstop, ?_⟩
        rw [hplace _ rfl, ← Position.advance_append, ← Position.advance_append]
        simp

/-- **A state that is laid out stands at the place of its part.** -/
theorem LaidOut.stands_state (h : LaidOut .start cs ls) (hq : q.lexemes <:+: ls) :
    (Part.state q.part).Stands cs (q.mark.getD q.name.pos) := by
  obtain ⟨before, after, rest, rfl, hlaid⟩ := h.drop_infix hq
  unfold StateSpelling.lexemes at hlaid
  cases hmark : q.mark with
  | none =>
    rw [hmark] at hlaid
    obtain ⟨lay, paren, behind, rfl, hlay, hparen, hname, hstop, hpos⟩ := hlaid.named
    have hinitial : q.part.initial = false := by simp [StateSpelling.part, hmark]
    have hfront : q.part.Front paren := ⟨[], paren, rfl, by rw [hinitial]; rfl, hparen⟩
    have hplace : q.name.pos = Position.start.advance (before ++ lay ++ paren) := by
      rw [hpos, ← Position.advance_append, List.append_assoc]
    have hcs : before ++ (lay ++ (paren ++ (q.name.text.toList ++ behind))) =
        before ++ lay ++ (paren ++ (q.name.text.toList ++ behind)) := (List.append_assoc _ _ _).symm
    have hstands := Part.Stands.state hfront hname hstop hcs
    rwa [hinitial, if_neg Bool.false_ne_true, ← hplace] at hstands
  | some o =>
    rw [hmark] at hlaid
    cases hlaid with
    | @cons _ lay _ _ _ _ hlay hw _ _ hplace hrest =>
      obtain rfl := (spells_sign rfl).1 hw
      obtain ⟨inner, paren, behind, rfl, hinner, hparen, hname, hstop, _⟩ := hrest.named
      have hinitial : q.part.initial = true := by simp [StateSpelling.part, hmark]
      have hfront : q.part.Front ('.' :: inner ++ paren) := by
        refine ⟨'.' :: inner, paren, rfl, ?_, hparen⟩
        rw [hinitial]
        exact ⟨inner, hinner, rfl⟩
      have hcs : before ++ (lay ++ (['.'] ++ (inner ++ (paren ++ (q.name.text.toList ++ behind))))) =
          before ++ lay ++ ('.' :: inner ++ paren ++ (q.name.text.toList ++ behind)) := by simp
      have hstands := Part.Stands.state hfront hname hstop hcs
      rwa [hinitial, if_pos rfl, List.append_nil, Position.advance_append, ← hplace o rfl] at hstands

theorem infix_flatMap {α β : Type} {f : α → List β} {as : List α} {a : α} (h : a ∈ as) :
    f a <:+: as.flatMap f :=
  List.infix_of_mem_flatten (List.mem_map_of_mem h)

namespace Spelling

theorem source_infix (r : Spelling) : r.source.lexemes <:+: r.lexemes := (List.prefix_append _ _).isInfix

theorem target_infix {l : Leg} (h : l ∈ r.legs) : l.target.lexemes <:+: r.lexemes := by
  have htarget : l.target.lexemes <:+: l.lexemes := (List.suffix_append _ _).isInfix
  have hlegs : legLexemes r.legs <:+: r.lexemes := (List.suffix_append _ _).isInfix
  exact (htarget.trans (infix_flatMap h)).trans ((List.prefix_append _ _).isInfix.trans hlegs)

theorem label_mem {a : ArrowSpelling} (h : a ∈ r.arrows) : a.body.label.lexeme .symbol ∈ r.lexemes := by
  refine body_lexemes_subset h ?_
  cases a.body with
  | plain l => exact List.mem_singleton_self _
  | bracket l channels pushes => exact List.mem_cons_of_mem _ List.mem_cons_self

end Spelling

theorem text_ofText {s : String} {p : Pattern} (h : Pattern.ofText cap s = .ok p) : p.text = s := by
  unfold Pattern.ofText at h
  split at h
  · cases h
  · cases hread : Pattern.Reading.ofText s.toList with
    | error e =>
      rw [hread] at h
      cases h
    | ok reading =>
      rw [hread] at h
      obtain rfl := Except.ok.inj h
      rfl

/-- The source of a rule that is laid out stands where its part is. -/
theorem LaidOut.stands_source (h : LaidOut .start cs ls) {source : SourceSpelling}
    (hsource : source.lexemes <:+: ls) {part : Part} (hmeant : source.Says cap part) :
    ∃ p, part.pos = some p ∧ part.Stands cs p := by
  cases hmeant with
  | state q => exact ⟨_, rfl, h.stands_state hsource⟩
  | any pos =>
    obtain ⟨w, hstands, _⟩ := h.standsWhole ((List.singleton_infix_iff _ _).1 hsource) (p := pos) rfl
    obtain rfl := (spells_sign rfl).1 hstands.1
    have hstar : (Wildcard.text ⟨none, some pos⟩).toList = ['*'] := by simp [Wildcard.text]
    exact ⟨pos, rfl, .wildcard (Or.inr rfl) (hstar ▸ hstands)⟩
  | @pattern l body p hbody hp =>
    obtain ⟨w, hstands, htext⟩ := h.standsWhole ((List.singleton_infix_iff _ _).1 hsource) (p := l.pos) rfl
    refine ⟨l.pos, rfl, .wildcard (Or.inl rfl) ?_⟩
    have hwritten : (Wildcard.text ⟨some p, some l.pos⟩).toList = w := by
      rw [← htext l.text rfl, hbody]
      simp [Wildcard.text, text_ofText hp]
    rwa [hwritten]

/-- **The parts that a rule says stand where they are said to be.** -/
theorem LaidOut.stands_part (h : LaidOut .start cs ls) (hr : r.lexemes <:+: ls) (hmeant : r.Says cap st)
    {part : Part} (hpart : part ∈ st.parts) : ∃ p, part.pos = some p ∧ part.Stands cs p := by
  obtain ⟨source, hsource, hparts⟩ := hmeant.parts
  rw [hparts] at hpart
  rcases List.mem_cons.1 hpart with rfl | hpart
  · exact h.stands_source (r.source_infix.trans hr) hsource
  · obtain ⟨l, hl, hpart⟩ := List.mem_flatMap.1 hpart
    rcases List.mem_append.1 hpart with hpart | hpart
    · obtain ⟨a, ha, rfl⟩ := List.mem_map.1 hpart
      have hlabel := Spelling.label_mem (List.mem_flatMap.2 ⟨l, hl, ha⟩)
      obtain ⟨w, hstands, htext⟩ := h.standsWhole (hr.subset hlabel) (p := a.body.label.pos) rfl
      obtain rfl := htext a.body.label.text rfl
      exact ⟨_, rfl, .transition hstands⟩
    · obtain rfl := List.mem_singleton.1 hpart
      exact ⟨_, rfl, h.stands_state ((Spelling.target_infix hl).trans hr)⟩

/-! ## Places of parts in order -/

/-- The parts have places of the lexemes, in the order of these. -/
def InOrder (ps : List Part) (ls : List Lexeme) : Prop := (ps.map Part.pos).Sublist ((places ls).map some)

variable {ps qs : List Part} {ms : List Lexeme}

theorem places_append : places (ls ++ ms) = places ls ++ places ms := List.filterMap_append

theorem InOrder.append (h : InOrder ps ls) (h' : InOrder qs ms) : InOrder (ps ++ qs) (ls ++ ms) := by
  unfold InOrder
  rw [List.map_append, places_append, List.map_append]
  exact List.Sublist.append h h'

theorem InOrder.flatMap {α : Type} {f : α → List Part} {g : α → List Lexeme} {as : List α}
    (h : ∀ a ∈ as, InOrder (f a) (g a)) : InOrder (as.flatMap f) (as.flatMap g) := by
  unfold InOrder places
  rw [List.map_flatMap, List.filterMap_flatMap, List.map_flatMap]
  exact List.Sublist.flatMap_right as h

theorem inOrder_one {part : Part} (hp : part.pos = some p) (h : Placed ls p) : InOrder [part] ls := by
  obtain ⟨l, hl, hplace⟩ := h
  refine List.singleton_sublist.2 ?_
  rw [hp]
  exact List.mem_map_of_mem (List.mem_filterMap.2 ⟨l, hl, hplace⟩)

theorem inOrder_leg (l : Leg) : InOrder l.said l.lexemes := by
  have harrow : ∀ a ∈ l.arrows, InOrder [.transition a.said] a.lexemes := fun a _ =>
    inOrder_one rfl (a.body.placed_label.mono fun _ hm =>
      List.mem_cons_of_mem _ (List.mem_append_left _ hm))
  have harrows := InOrder.flatMap harrow
  rw [← List.map_eq_flatMap] at harrows
  exact harrows.append (inOrder_one rfl (l.target.placed_part rfl))

theorem inOrder_source {source : SourceSpelling} {part : Part} (h : source.Says cap part) :
    InOrder [part] source.lexemes := by
  cases h with
  | state q => exact inOrder_one rfl (q.placed_part rfl)
  | pattern => exact inOrder_one rfl ⟨_, List.mem_singleton_self _, rfl⟩
  | any => exact inOrder_one rfl ⟨_, List.mem_singleton_self _, rfl⟩

theorem Spelling.Says.inOrder (h : r.Says cap st) : InOrder st.parts r.lexemes := by
  obtain ⟨source, hsource, hparts⟩ := h.parts
  have hlegs : InOrder (r.legs.flatMap Leg.said) (r.legs.flatMap Leg.lexemes) :=
    .flatMap fun l _ => inOrder_leg l
  have hsemicolon : InOrder [] [.sign .semicolon] := List.nil_sublist _
  have hbehind := hlegs.append hsemicolon
  rw [List.append_nil] at hbehind
  rw [hparts]
  exact (inOrder_source hsource).append hbehind

theorem inOrder_of_says {rules : List Spelling} {ss : List Statement}
    (h : List.Forall₂ (Spelling.Says cap) rules ss) :
    InOrder (ss.flatMap Statement.parts) (rules.flatMap Spelling.lexemes) := by
  induction h with
  | nil => exact List.nil_sublist _
  | cons hmeant _ ih => exact hmeant.inOrder.append ih

end Rule

/-! ## Texts -/

variable {source : String} {ss : List Statement} {cap : Capacity} {settings : Settings} {t : Compiled} {state : String}

theorem Part.Stands.readsAt {cs : List Char} {part : Part} {p : Position} (h : part.Stands cs p) :
    ReadsAt cs p part.wording.toList := by
  cases h with
  | wildcard _ h => exact h.goesOn.readsAt h.1.ne_nil h.1.no_feed
  | transition h => exact h.goesOn.readsAt h.1.ne_nil h.1.no_feed
  | @state s before front after hfront hname hstop hcs =>
    obtain ⟨dot, paren, rfl, hdot, _⟩ := hfront
    cases hinitial : s.initial with
    | false =>
      have hgoes : Rule.GoesOn cs s.name.toList (Position.start.advance (before ++ (dot ++ paren))) :=
        ⟨before ++ (dot ++ paren), after, by rw [hcs]; simp, rfl⟩
      simpa [Part.wording, hinitial] using hgoes.readsAt hname.ne_nil hname.no_feed
    | true =>
      rw [hinitial] at hdot
      obtain ⟨lay, _, rfl⟩ := hdot
      have hgoes : Rule.GoesOn cs ['.'] (Position.start.advance before) :=
        ⟨before, lay ++ (paren ++ (s.name.toList ++ after)), by rw [hcs]; simp, rfl⟩
      simpa [Part.wording, hinitial] using hgoes.readsAt (by decide) (by decide)

/-- **Every part of a statement stands where it is said to be.** -/
theorem stands_of_statementsOf (h : statementsOf cap source = .ok ss) :
    ∀ st ∈ ss, ∀ part ∈ st.parts, ∃ p, part.pos = some p ∧ part.Stands source.toList p := by
  intro st hst part hpart
  obtain ⟨rules, hrules, hmeant⟩ := Rule.exists_spellings_of_statementsOf h
  obtain ⟨r, hr, hmeant⟩ := exists_of_mem_right hmeant hst
  exact (Rule.laidOut_of_spellings hrules).stands_part (Rule.infix_flatMap hr) hmeant hpart

/-- **The places of the parts come later and later.** -/
theorem exists_places_of_statementsOf (h : statementsOf cap source = .ok ss) :
    ∃ ps : List Position, (ss.flatMap Statement.parts).map Part.pos = ps.map some ∧
      ps.Pairwise Position.Before := by
  obtain ⟨rules, hrules, hmeant⟩ := Rule.exists_spellings_of_statementsOf h
  obtain ⟨ps, hsublist, hps⟩ := List.sublist_map_iff.1 (Rule.inOrder_of_says hmeant)
  exact ⟨ps, hps, (Rule.laidOut_of_spellings hrules).ascends.1.sublist hsublist⟩

/-! ## Rows -/

/-- The row of a state is written as an arrow of a statement: the edge of that makes a row there, and it is
that row with a read for each channel of the table. -/
structure WrittenAs (ss : List Statement) (p : Program) (t : Compiled) (state : String) (row : Entry)
    (st : Statement) (a : Arrow) : Prop where
  statement : st ∈ ss
  arrow : a ∈ st.arrows
  edge : ∃ e, a.edge? = some e ∧ p.Yields state e ∧ row = e.entry.padded t.stackCount.toNat

theorem Statement.transition_mem_of_arrow {st : Statement} {a : Arrow} (h : a ∈ st.arrows) :
    .transition a.transition ∈ st.parts := by
  obtain ⟨l, hl, ha⟩ := List.mem_flatMap.1 h
  obtain ⟨_, _, htransitions⟩ := mem_links hl
  obtain ⟨u, hu, ha⟩ := List.mem_flatMap.1 ha
  obtain rfl : a.transition = u := by
    unfold Link.arrowsOf at ha
    split at ha
    · rw [List.mem_singleton.1 ha]
    · rw [List.mem_singleton.1 ha]
    · split at ha
      · rw [List.mem_singleton.1 ha]
      · rcases List.mem_pair.1 ha with rfl | rfl <;> rfl
  exact htransitions _ hu

theorem Arrow.entry_pos {a : Arrow} {e : Edge} (h : a.edge? = some e) : e.entry.pos = a.transition.pos := by
  unfold edge? at h
  split at h
  · obtain rfl := Option.some.inj h
    rfl
  · cases h

section Rows

variable {p : Program} (hrules : ss.mapM Statement.expand = .ok p.rules)
include hrules

/-- The edges of a program are those of the arrows of its statements. -/
theorem Program.mem_edges_iff_arrow {e : Edge} :
    e ∈ p.edges ↔ ∃ st ∈ ss, ∃ a ∈ st.arrows, a.edge? = some e := by
  have hedges : ∀ (st : Statement) x, st.expand = .ok x → x.edges = st.arrows.filterMap Arrow.edge? :=
    fun st x hx => (attempts_eq_map_ok_iff.1 (Statement.expand_eq_ok_iff.1 hx).attempts).2.2.symm
  constructor
  · intro he
    obtain ⟨x, hx, he⟩ := List.mem_flatMap.1 he
    obtain ⟨st, hst, hexpand⟩ := exists_of_mem_expanded hrules hx
    rw [hedges st x hexpand] at he
    exact ⟨st, hst, List.mem_filterMap.1 he⟩
  · rintro ⟨st, hst, ha⟩
    obtain ⟨x, hx, hexpand⟩ := exists_expanded_of_mem hrules hst
    refine List.mem_flatMap.2 ⟨x, hx, ?_⟩
    rw [hedges st x hexpand]
    exact List.mem_filterMap.2 ha

theorem exists_writtenAs {row : Entry} {i : Nat} (h : p.Supplies t i state row) :
    ∃ st a, WrittenAs ss p t state row st a := by
  obtain ⟨e, he, hyields, hrow⟩ := h
  obtain ⟨st, hst, a, ha, hedge⟩ := (Program.mem_edges_iff_arrow hrules).1 (Program.mem_edges.2 ⟨i, he⟩)
  exact ⟨st, a, hst, ha, e, hedge, hyields, hrow⟩

/-- **What is written as the same row is the same row,** the place included. -/
theorem WrittenAs.row_eq {initial : String} (hfit : p.Fit cap settings initial) (hisRule : ∀ s ∈ ss, s.IsRule)
    {row row' : Entry} {st st' : Statement} {a a' : Arrow} (h : WrittenAs ss p t state row st a)
    (h' : WrittenAs ss p t state row' st' a') (hkey : row.filter.key = row'.filter.key)
    (haction : row.action = row'.action) : row = row' := by
  obtain ⟨hst, ha, d, hd, hyd, rfl⟩ := h
  obtain ⟨hst', ha', e, he, hye, rfl⟩ := h'
  have hmem := (Program.mem_edges_iff_arrow hrules).2 ⟨st, hst, a, ha, hd⟩
  have hmem' := (Program.mem_edges_iff_arrow hrules).2 ⟨st', hst', a', ha', he⟩
  simp only [Entry.padded, Filter.key_padded] at hkey haction
  have hdistinct : p.edges.Pairwise fun d e => ¬ p.Doubles state d e :=
    hfit.pairwise_not_doubles hrules hisRule
  have hsymm : Std.Symm fun d e => ¬ p.Doubles state d e :=
    ⟨fun _ _ hnot h => hnot ⟨h.right, h.left, h.key.symm, h.action.symm⟩⟩
  by_contra hne
  have hno := hdistinct.forall hmem hmem' fun heq => hne (heq ▸ rfl)
  exact hno ⟨hyd, hye, hkey, haction⟩

end Rows

/-- **Places point at what they are places of.** Every part of every statement of a text has a place, and
there, in that line as line feeds number lines and from that column on as characters number columns, the text
reads the mark of an initial state, the name of any other, behind its parenthesis if it is accepting, the
label of a transition, a pattern between slashes, or the star. The places of the parts, statement by statement
and part by part, come later and later. Whatever the text compiles to, every row of a state is written as an
arrow of a statement, and it has the place of the transition of every arrow that the same row is written as. -/
theorem positions_point_at_tokens (h : statementsOf cap source = .ok ss) :
    (∀ st ∈ ss, ∀ part ∈ st.parts, ∃ p, part.pos = some p ∧ part.Stands source.toList p ∧
      ReadsAt source.toList p part.wording.toList) ∧
    (∃ ps : List Position, (ss.flatMap Statement.parts).map Part.pos = ps.map some ∧
      ps.Pairwise Position.Before) ∧
    ∀ settings t, (compile cap settings source).result = .ok t → ∃ rules, ss.mapM Statement.expand = .ok rules ∧
      ∀ state, ∀ row ∈ t.entriesFor state, (∃ st a, WrittenAs ss ⟨rules⟩ t state row st a) ∧
        ∀ st a row', WrittenAs ss ⟨rules⟩ t state row' st a → row'.filter.key = row.filter.key →
          row'.action = row.action → .transition a.transition ∈ st.parts ∧ row.pos = a.transition.pos := by
  refine ⟨fun st hst part hpart => ?_, exists_places_of_statementsOf h, fun settings t hcompiled => ?_⟩
  · obtain ⟨p, hp, hstands⟩ := stands_of_statementsOf h st hst part hpart
    exact ⟨p, hp, hstands, hstands.readsAt⟩
  · rw [compile, h] at hcompiled
    obtain ⟨rules, initial, hrules, hfit, rfl⟩ := compiled_iff.1 hcompiled
    have hisRule := isRule_of_statementsOf h
    refine ⟨rules, hrules, fun state row hrow => ?_⟩
    obtain ⟨i, hsupplies⟩ := (hfit.wellFormed hrules hisRule).supplied state row hrow
    obtain ⟨st, a, hwritten⟩ := exists_writtenAs hrules hsupplies
    refine ⟨⟨st, a, hwritten⟩, fun st' a' row' hwritten' hkey haction => ?_⟩
    obtain rfl := hwritten'.row_eq hrules hfit hisRule hwritten hkey haction
    obtain ⟨e, hedge, _, rfl⟩ := hwritten'.edge
    exact ⟨Statement.transition_mem_of_arrow hwritten'.arrow, Arrow.entry_pos hedge⟩

theorem positions_point_at_tokens_four_lines : ∃ ss,
    statementsOf .ample "# a note\n.a\t-x> ( b)\r\n\t<[y]Z- .a;\n/b/ -z> a;" = .ok ss ∧
    (ss.flatMap Statement.parts).map (fun part => (part.wording, part.pos)) =
      [(".", some ⟨2, 1⟩), ("x", some ⟨2, 5⟩), ("b", some ⟨2, 10⟩), ("y", some ⟨3, 4⟩), (".", some ⟨3, 9⟩),
        ("/b/", some ⟨4, 1⟩), ("z", some ⟨4, 6⟩), ("a", some ⟨4, 9⟩)] ∧
    ∀ st ∈ ss, ∀ part ∈ st.parts, ∃ p, part.pos = some p ∧
      ReadsAt "# a note\n.a\t-x> ( b)\r\n\t<[y]Z- .a;\n/b/ -z> a;".toList p part.wording.toList := by
  have hrun : (statementsOf .ample "# a note\n.a\t-x> ( b)\r\n\t<[y]Z- .a;\n/b/ -z> a;").map
      (fun ss => (ss.flatMap Statement.parts).map fun part => (part.wording, part.pos)) =
      .ok [(".", some ⟨2, 1⟩), ("x", some ⟨2, 5⟩), ("b", some ⟨2, 10⟩), ("y", some ⟨3, 4⟩),
        (".", some ⟨3, 9⟩), ("/b/", some ⟨4, 1⟩), ("z", some ⟨4, 6⟩), ("a", some ⟨4, 9⟩)] := by
    decide +kernel
  cases h : statementsOf .ample "# a note\n.a\t-x> ( b)\r\n\t<[y]Z- .a;\n/b/ -z> a;" with
  | error e =>
    rw [h] at hrun
    cases hrun
  | ok ss =>
    rw [h] at hrun
    refine ⟨ss, rfl, Except.ok.inj hrun, fun st hst part hpart => ?_⟩
    obtain ⟨p, hp, _, hreads⟩ := (positions_point_at_tokens h).1 st hst part hpart
    exact ⟨p, hp, hreads⟩

end ArrowMachine
