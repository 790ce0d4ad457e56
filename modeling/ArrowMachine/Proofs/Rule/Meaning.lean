import ArrowMachine.Compile
import ArrowMachine.Proofs.Rule.Channels
import ArrowMachine.Proofs.Rule.Recognition
import ArrowMachine.Proofs.Table.Edges
import ArrowMachine.Proofs.Table.Merging

/-!
What rules say, and what becomes of a text.

`Spelling.Says` relates a rule as it is written to the statement it makes, and `Spelling.Refused` names
the two faults that a rule of the grammar may still have. `reading_iff_spelled` puts together what is
known of a text: it is read if and only if it spells rules, as those rules and no others, and the
statements are what they say.
-/
namespace ArrowMachine.Rule

/-! ## What rules say -/

/-- The transition that an arrow says. -/
def ArrowSpelling.said (a : ArrowSpelling) : TransitionPart :=
  ⟨a.body.label.text, a.direction, a.body.denoted, some a.body.label.pos⟩

def Leg.said (l : Leg) : List Part :=
  l.arrows.map (fun a => .transition a.said) ++ [.state l.target.part]

def Spelling.arrows (s : Spelling) : List ArrowSpelling := s.legs.flatMap Leg.arrows

/-- A pattern is what stands between the slashes. -/
inductive SourceSpelling.Says (cap : Capacity) : SourceSpelling → Part → Prop
  | state (s : StateSpelling) : Says cap (.state s) (.state s.part)
  | pattern {l : Word} {body : List Char} {p : Pattern} (hbody : l.text.toList = '/' :: body ++ ['/'])
      (hp : Pattern.ofText cap (.ofList body) = .ok p) :
      Says cap (.pattern l) (.wildcard ⟨some p, some l.pos⟩)
  | any (pos : Position) : Says cap (.any pos) (.wildcard ⟨none, some pos⟩)

/-- The statement is what the rule says. -/
structure Spelling.Says (cap : Capacity) (s : Spelling) (st : Statement) : Prop where
  parts : ∃ source, s.source.Says cap source ∧ st.parts = source :: s.legs.flatMap Leg.said
  pos : st.pos = some s.start
  once : ∀ a ∈ s.arrows, ∀ c w, ¬ a.body.WritesTwice c w

/-- What may be wrong with a rule of the grammar: the text between the slashes is no pattern, or an
arrow writes a channel twice, which is told of the first such channel. -/
inductive Spelling.Refused (cap : Capacity) (s : Spelling) : CompileError → Prop
  | pattern {l : Word} {body : List Char} {problem : Pattern.Problem} {place : Option Nat}
      (hsource : s.source = .pattern l) (hbody : l.text.toList = '/' :: body ++ ['/'])
      (hp : Pattern.ofText cap (.ofList body) = .error (.invalid problem place)) :
      Refused cap s (.of (.badPattern l.text (Pattern.Failure.message body (.invalid problem place)))
        [some l.pos])
  | writtenTwice {a : ArrowSpelling} {c : Nat} {w : Word} (ha : a ∈ s.arrows)
      (hw : a.body.WritesTwice c w) (hfirst : ∀ d v, d < c → ¬ a.body.WritesTwice d v) :
      Refused cap s (.of (.writtenTwice c) [some w.pos])

/-- The pattern of a rule cannot be kept, although nothing is wrong with its syntax. -/
def Spelling.Unkept (cap : Capacity) (s : Spelling) (failure : Pattern.Failure) : Prop :=
  ∃ l body, s.source = .pattern l ∧ l.text.toList = '/' :: body ++ ['/'] ∧
    Pattern.ofText cap (.ofList body) = .error failure ∧
    ∀ problem place, failure ≠ .invalid problem place

variable {cap : Capacity}

/-- The transitions of a statement are what the arrows of its rule say. -/
theorem Spelling.Says.mem_transitions {s : Spelling} {st : Statement} (h : s.Says cap st)
    {u : TransitionPart} : Part.transition u ∈ st.parts ↔ ∃ a ∈ s.arrows, u = a.said := by
  obtain ⟨source, hsource, hparts⟩ := h.parts
  have hnot : Part.transition u ≠ source := by
    rintro rfl
    generalize s.source = spelled at hsource
    cases hsource
  have hleg : ∀ l : Leg, Part.transition u ∈ l.said ↔ ∃ a ∈ l.arrows, u = a.said := by
    intro l
    simp [Leg.said, eq_comm]
  simp only [hparts, List.mem_cons, hnot, false_or, List.mem_flatMap, hleg, Spelling.arrows]
  constructor
  · rintro ⟨l, hl, a, ha, rfl⟩
    exact ⟨a, ⟨l, hl, ha⟩, rfl⟩
  · rintro ⟨a, ⟨l, hl, ha⟩, rfl⟩
    exact ⟨l, hl, a, ha, rfl⟩

theorem ArrowSpelling.part_eq_ok {a : ArrowSpelling} {t : TransitionPart} (h : a.part = .ok t) :
    t = a.said ∧ ∀ c w, ¬ a.body.WritesTwice c w := by
  unfold ArrowSpelling.part at h
  split at h
  · next ops hops =>
    obtain ⟨honce, rfl⟩ := BodySpelling.ops_eq_ok_iff.1 hops
    exact ⟨(Except.ok.inj h).symm, honce⟩
  · cases h

theorem ArrowSpelling.part_eq_error {a : ArrowSpelling} {e : CompileError} (h : a.part = .error e) :
    ∃ c w, a.body.WritesTwice c w ∧ (∀ d v, d < c → ¬ a.body.WritesTwice d v) ∧
      e = .of (.writtenTwice c) [some w.pos] := by
  unfold ArrowSpelling.part at h
  split at h
  · cases h
  · next c w hops =>
    obtain ⟨hw, hfirst⟩ := BodySpelling.ops_eq_error_iff.1 hops
    exact ⟨c, w, hw, hfirst, (Except.error.inj h).symm⟩

theorem Leg.parts_eq_ok {l : Leg} {ps : List Part} (h : l.parts = .ok ps) :
    ps = l.said ∧ ∀ a ∈ l.arrows, ∀ c w, ¬ a.body.WritesTwice c w := by
  obtain ⟨ts, hts, h⟩ := bind_eq_ok h
  obtain rfl := Except.ok.inj h
  obtain ⟨rfl, honce⟩ := eq_map_of_mapM (fun _ _ => ArrowSpelling.part_eq_ok) hts
  exact ⟨by rw [Leg.said, List.map_map]; rfl, honce⟩

theorem Leg.parts_eq_error {l : Leg} {e : CompileError} (h : l.parts = .error e) :
    ∃ a ∈ l.arrows, a.part = .error e := by
  rcases bind_eq_error h with h | ⟨ts, _, h⟩
  · exact exists_of_mapM_eq_error h
  · cases h

theorem dropLast_drop_of_slashed {l : Word} {body : List Char}
    (h : l.text.toList = '/' :: body ++ ['/']) : (l.text.toList.drop 1).dropLast = body := by
  rw [h, List.cons_append, List.drop_succ_cons, List.drop_zero, List.dropLast_concat]

/-- The literal of a rule, if it has one, stands between slashes. -/
def Spelling.Slashed (s : Spelling) : Prop :=
  ∀ l, s.source = .pattern l → ∃ body, l.text.toList = '/' :: body ++ ['/']

theorem Spelling.source_eq_ok {s : Spelling} (hslashed : s.Slashed) {p : Part}
    (h : s.source.part cap = .ok p) : s.source.Says cap p := by
  cases hsource : s.source with
  | state q =>
    rw [hsource] at h
    obtain rfl := Except.ok.inj h
    exact .state q
  | any pos =>
    rw [hsource] at h
    obtain rfl := Except.ok.inj h
    exact .any pos
  | pattern l =>
    obtain ⟨body, hbody⟩ := hslashed l hsource
    rw [hsource, SourceSpelling.part, patternOf, dropLast_drop_of_slashed hbody] at h
    cases hp : Pattern.ofText cap (.ofList body) with
    | ok q =>
      rw [hp] at h
      obtain rfl := Except.ok.inj h
      exact .pattern hbody hp
    | error failure =>
      rw [hp] at h
      cases failure <;> cases h

theorem Spelling.source_eq_error {s : Spelling} (hslashed : s.Slashed) {e : CompileError}
    (h : s.source.part cap = .error e) :
    s.Refused cap e ∨ ∃ failure, s.Unkept cap failure ∧ e = .pattern failure := by
  cases hsource : s.source with
  | state q =>
    rw [hsource] at h
    cases h
  | any pos =>
    rw [hsource] at h
    cases h
  | pattern l =>
    obtain ⟨body, hbody⟩ := hslashed l hsource
    rw [hsource, SourceSpelling.part, patternOf, dropLast_drop_of_slashed hbody] at h
    cases hp : Pattern.ofText cap (.ofList body) with
    | ok q =>
      rw [hp] at h
      cases h
    | error failure =>
      rw [hp] at h
      cases failure with
      | invalid problem place =>
        obtain rfl := Except.error.inj h
        rw [String.toList_ofList]
        exact Or.inl (.pattern hsource hbody hp)
      | _ =>
        obtain rfl := Except.error.inj h
        exact Or.inr ⟨_, ⟨l, body, hsource, hbody, hp, fun _ _ => by simp⟩, rfl⟩

/-- **What becomes of a rule**: the statement that it says, or an error for one of its faults. -/
theorem Spelling.statement_eq_ok {s : Spelling} (hslashed : s.Slashed) {st : Statement}
    (h : s.statement cap = .ok st) : s.Says cap st := by
  obtain ⟨source, hsource, h⟩ := bind_eq_ok h
  obtain ⟨legs, hlegs, h⟩ := bind_eq_ok h
  obtain rfl := Except.ok.inj h
  obtain ⟨rfl, honce⟩ := eq_map_of_mapM (fun _ _ => Leg.parts_eq_ok) hlegs
  refine ⟨⟨source, Spelling.source_eq_ok hslashed hsource, ?_⟩, rfl, ?_⟩
  · rw [List.flatMap_def]
  · intro a ha
    obtain ⟨l, hl, ha⟩ := List.mem_flatMap.1 ha
    exact honce l hl a ha

theorem Spelling.statement_eq_error {s : Spelling} (hslashed : s.Slashed) {e : CompileError}
    (h : s.statement cap = .error e) :
    s.Refused cap e ∨ ∃ failure, s.Unkept cap failure ∧ e = .pattern failure := by
  rcases bind_eq_error h with h | ⟨source, _, h⟩
  · exact Spelling.source_eq_error hslashed h
  · rcases bind_eq_error h with h | ⟨legs, _, h⟩
    · obtain ⟨l, hl, h⟩ := exists_of_mapM_eq_error h
      obtain ⟨a, ha, h⟩ := Leg.parts_eq_error h
      obtain ⟨c, w, hw, hfirst, rfl⟩ := ArrowSpelling.part_eq_error h
      exact Or.inl (.writtenTwice (List.mem_flatMap.2 ⟨l, hl, ha⟩) hw hfirst)
    · cases h

theorem SourceSpelling.Says.unique {s : SourceSpelling} {p q : Part} (hp : s.Says cap p) (hq : s.Says cap q) :
    p = q := by
  cases hp with
  | state => cases hq; rfl
  | any => cases hq; rfl
  | pattern hbody hp =>
    cases hq with
    | pattern hbody' hq =>
      obtain rfl := List.append_cancel_right (List.cons.inj (hbody.symm.trans hbody')).2
      rw [hp] at hq
      rw [Except.ok.inj hq]

theorem Spelling.Says.unique {s : Spelling} {st st' : Statement} (h : s.Says cap st) (h' : s.Says cap st') :
    st = st' := by
  obtain ⟨⟨p, hp, hparts⟩, hpos, _⟩ := h
  obtain ⟨⟨q, hq, hparts'⟩, hpos', _⟩ := h'
  obtain rfl := hp.unique hq
  cases st
  cases st'
  exact congrArg₂ Statement.mk (hparts.trans hparts'.symm) (hpos.trans hpos'.symm)

/-- A rule that can be said has no fault. -/
theorem Spelling.Says.faultless {s : Spelling} {st : Statement} (h : s.Says cap st) {e : CompileError} :
    ¬ s.Refused cap e ∧ ∀ failure, ¬ s.Unkept cap failure := by
  have hread : ∀ {l body failure}, s.source = .pattern l → l.text.toList = '/' :: body ++ ['/'] →
      Pattern.ofText cap (.ofList body) ≠ .error failure := by
    intro l body failure hsource hbody hfailure
    obtain ⟨p, hp, _⟩ := h.parts
    rw [hsource] at hp
    cases hp with
    | pattern hbody' hp =>
      obtain rfl := List.append_cancel_right (List.cons.inj (hbody.symm.trans hbody')).2
      rw [hfailure] at hp
      cases hp
  constructor
  · intro hrefused
    cases hrefused with
    | pattern hsource hbody hp => exact hread hsource hbody hp
    | writtenTwice ha hw _ => exact h.once _ ha _ _ hw
  · rintro failure ⟨l, body, hsource, hbody, hp, _⟩
    exact hread hsource hbody hp

/-- **A rule makes the statement that it says.** -/
theorem Spelling.statement_eq_ok_iff {s : Spelling} (hslashed : s.Slashed) {st : Statement} :
    s.statement cap = .ok st ↔ s.Says cap st := by
  constructor
  · exact Spelling.statement_eq_ok hslashed
  · intro h
    cases hst : s.statement cap with
    | ok st' => rw [(Spelling.statement_eq_ok hslashed hst).unique h]
    | error e =>
      rcases Spelling.statement_eq_error hslashed hst with hrefused | ⟨failure, hunkept, _⟩
      · exact absurd hrefused h.faultless.1
      · exact absurd hunkept ((h.faultless (e := e)).2 failure)

/-! ## Texts -/

theorem Spelled.spells {cs : List Char} {ls : List Lexeme} (h : Spelled cs ls) {l : Lexeme}
    (hl : l ∈ ls) {s : String} (hs : s ∈ l.text) : l.kind.Spells s.toList := by
  induction h with
  | nil => cases hl
  | cons _ hw htext _ ih =>
    rcases List.mem_cons.1 hl with rfl | hl
    · rwa [htext s hs]
    · exact ih hl

/-- The literals that a text spells stand between slashes. -/
theorem Spelled.slashed {cs : List Char} {rules : List Spelling}
    (h : Spelled cs (rules.flatMap Spelling.lexemes)) {s : Spelling} (hs : s ∈ rules) : s.Slashed := by
  intro l hl
  have hmem : l.lexeme .regex ∈ rules.flatMap Spelling.lexemes := by
    refine List.mem_flatMap.2 ⟨s, hs, List.mem_append_left _ ?_⟩
    rw [hl]
    exact List.mem_singleton_self _
  obtain ⟨body, _, _, hbody⟩ := h.spells hmem (s := l.text) rfl
  exact ⟨body, hbody⟩

end ArrowMachine.Rule

namespace ArrowMachine

/-! ## Faults of other kinds -/

/-- The fault of a text that is no list of rules. -/
def CompileError.fault? : CompileError → Option Rule.SyntaxFault
  | refused ⟨.syntaxFault fault, _⟩ => some fault
  | _ => none

theorem Link.fault?_of_mem_attempts {l : Link} {e : CompileError} (h : .error e ∈ l.attempts) :
    e.fault? = none := by
  have hedge : ∀ {t : TransitionPart} {source target : Node} {e : CompileError},
      t.edge source target = .error e → e.fault? = none := by
    intro t source target e h
    cases target with
    | state => cases h
    | wildcard =>
      cases h
      rfl
  rcases Link.mem_attempts h with h | ⟨t, _, h | h⟩
  · cases h
    rfl
  · exact hedge h.symm
  · exact hedge h.symm

theorem Statement.fault?_of_expand {s : Statement} {e : CompileError} (h : s.expand = .error e) :
    e.fault? = none := by
  rcases Statement.expandWith_eq_error_iff.1 h with ⟨_, rfl⟩ | ⟨_, hcollect⟩
  · rfl
  · obtain ⟨new, a, rest, hattempts, _, ha⟩ := collect_eq_error_iff.1 hcollect
    rcases ha with rfl | ⟨d, _, _, rfl⟩
    · have hmem : .error e ∈ ((links s.parts).map (Link.renumber id)).flatMap Link.attempts := by
        rw [hattempts]
        exact List.mem_append_right _ List.mem_cons_self
      obtain ⟨l, _, hl⟩ := List.mem_flatMap.1 hmem
      exact Link.fault?_of_mem_attempts hl
    · rfl

/-- Statements are never refused for the text that they come from. -/
theorem fault?_of_compileStatements {settings : Settings} {ss : List Statement} {e : CompileError}
    (h : (compileStatements cap settings ss).result = .error e) : e.fault? = none := by
  cases hrules : ss.mapM Statement.expand with
  | error e' =>
    rw [compileStatements, hrules] at h
    obtain rfl := Except.error.inj h
    obtain ⟨s, _, hs⟩ := exists_of_mapM_eq_error hrules
    exact Statement.fault?_of_expand hs
  | ok rules =>
    rw [compileStatements_result hrules] at h
    have hmerges := (⟨rules⟩ : Program).merges cap settings
    rw [h] at hmerges
    cases hmerges with
    | explicit => rfl
    | wildcards => rfl
    | crosses => rfl
    | tooWide => rfl
    | unsettled _ _ _ hinitial =>
      unfold Program.initialState at hinitial
      split at hinitial <;> cases hinitial <;> rfl

/-! ## Texts and statements -/

/-- What a text compiles to is what its statements compile to. -/
theorem exists_statements_of_compile {settings : Settings} {source : String} {t : Compiled}
    (h : (compile cap settings source).result = .ok t) :
    ∃ ss, statementsOf cap source = .ok ss ∧ (compileStatements cap settings ss).result = .ok t := by
  unfold compile at h
  cases hss : statementsOf cap source with
  | error e =>
    rw [hss] at h
    cases h
  | ok ss =>
    rw [hss] at h
    exact ⟨ss, rfl, h⟩

namespace Rule

theorem statementsOf_eq {source : String} {rs : List Spelling} (h : spellings source = .ok rs) :
    statementsOf cap source = rs.mapM (Spelling.statement cap) := by
  rw [statementsOf, h]
  rfl

theorem statementsOf_eq_ok_iff {source : String} {rs : List Spelling}
    (h : spellings source = .ok rs) {ss : List Statement} :
    statementsOf cap source = .ok ss ↔ List.Forall₂ (Spelling.Says cap) rs ss := by
  rw [statementsOf_eq h]
  exact mapM_eq_ok_iff_forall₂ fun s hs st =>
    Spelling.statement_eq_ok_iff ((spelled_of_spellings h).slashed hs)

/-- The statements of a text are what its rules say. -/
theorem exists_spellings_of_statementsOf {source : String} {ss : List Statement}
    (h : statementsOf cap source = .ok ss) :
    ∃ rs, spellings source = .ok rs ∧ List.Forall₂ (Spelling.Says cap) rs ss := by
  cases hread : spellings source with
  | error fault =>
    rw [statementsOf, hread] at h
    cases h
  | ok rs => exact ⟨rs, rfl, (statementsOf_eq_ok_iff hread).1 h⟩

theorem statementsOf_eq_error {source : String} {rs : List Spelling}
    (h : spellings source = .ok rs) {e : CompileError} (he : statementsOf cap source = .error e) :
    ∃ s ∈ rs, s.Refused cap e ∨ ∃ failure, s.Unkept cap failure ∧ e = .pattern failure := by
  rw [statementsOf_eq h] at he
  obtain ⟨s, hs, he⟩ := exists_of_mapM_eq_error he
  exact ⟨s, hs, Spelling.statement_eq_error ((spelled_of_spellings h).slashed hs) he⟩

/-- Only the reader finds faults in a text. -/
theorem fault?_of_compile {settings : Settings} {source : String} {rs : List Spelling}
    (h : spellings source = .ok rs) {e : CompileError}
    (he : (compile cap settings source).result = .error e) : e.fault? = none := by
  unfold compile at he
  cases hss : statementsOf cap source with
  | ok ss =>
    rw [hss] at he
    exact fault?_of_compileStatements he
  | error e' =>
    rw [hss] at he
    obtain rfl := Except.error.inj he
    obtain ⟨s, _, hrefused | ⟨failure, _, rfl⟩⟩ := statementsOf_eq_error h hss
    · cases hrefused <;> rfl
    · rfl

/-- **Exactly the texts of the grammar are read, as the rules that they spell.** A text that spells rules
is read as those, wherever its layout puts them; a text that is read spells what it is read as, and then
its statements are what the rules say, unless a rule has a fault of its own. A text is faulty exactly
when it spells no rules. -/
theorem reading_iff_spelled (settings : Settings) (source : String) :
    (∀ rules : List Spelling, Spelled source.toList (rules.flatMap Spelling.lexemes) →
      ∃ rs, spellings source = .ok rs ∧ rs.map Spelling.bare = rules.map Spelling.bare) ∧
    (∀ rs, spellings source = .ok rs → Spelled source.toList (rs.flatMap Spelling.lexemes) ∧
      (∀ ss, statementsOf cap source = .ok ss ↔ List.Forall₂ (Spelling.Says cap) rs ss) ∧
      ∀ e, statementsOf cap source = .error e →
        ∃ s ∈ rs, s.Refused cap e ∨ ∃ failure, s.Unkept cap failure ∧ e = .pattern failure) ∧
    ((∃ fault : SyntaxFault, (compile cap settings source).result = .error fault.error) ↔
      ¬ ∃ rules : List Spelling, Spelled source.toList (rules.flatMap Spelling.lexemes)) := by
  refine ⟨fun rules h => exists_spellings h, fun rs h => ⟨spelled_of_spellings h,
    fun ss => statementsOf_eq_ok_iff h, fun e he => statementsOf_eq_error h he⟩, ?_⟩
  rw [← spellings_eq_error_iff]
  constructor
  · rintro ⟨fault, hfault⟩
    cases h : spellings source with
    | error fault => exact ⟨fault, rfl⟩
    | ok rs =>
      have hnone := fault?_of_compile h hfault
      cases hnone
  · rintro ⟨fault, hfault⟩
    refine ⟨fault, ?_⟩
    have hstatements : statementsOf cap source = .error fault.error := by
      rw [statementsOf, hfault]
    rw [compile, hstatements]

/-- A rule whose pattern repeats a letter more often than can be kept. -/
def overflowing : List Spelling :=
  [⟨.pattern ⟨"/a\x7b4294967295\x7d/", ⟨1, 1⟩⟩,
    ⟨⟨.right, .plain ⟨"f", ⟨1, 18⟩⟩⟩, [], ⟨none, none, ⟨"b", ⟨1, 21⟩⟩⟩⟩, []⟩]

/-- A text may spell rules and yet be neither read as statements nor refused. -/
theorem overflowing_unkept :
    Spelled "/a\x7b4294967295\x7d/ -f> b;".toList (overflowing.flatMap Spelling.lexemes) ∧
      statementsOf .ample "/a\x7b4294967295\x7d/ -f> b;" = .error (.pattern .countTooLarge) := by
  have hread : spellings "/a\x7b4294967295\x7d/ -f> b;" = .ok overflowing := by decide +kernel
  refine ⟨spelled_of_spellings hread, ?_⟩
  rw [statementsOf_eq hread]
  have hfails : ((overflowing.mapM (Spelling.statement .ample)).map fun _ => ()) =
      .error (.pattern .countTooLarge) := by decide +kernel
  cases hss : overflowing.mapM (Spelling.statement .ample) with
  | ok ss =>
    rw [hss] at hfails
    cases hfails
  | error e =>
    rw [hss] at hfails
    rw [Except.error.inj hfails]

end Rule

end ArrowMachine
