import ArrowMachine.Proofs.Rule.Meaning

/-!
Brackets and push lists by their words.

A channel is written by a word of the bracket or of the push list unless that word is `epsilon`. So a
channel is doubled if neither of its two words is (`Doubled`), which is the only thing that may be wrong with
a bracket, and the last word of the push list that is not `epsilon` says how many channels the list
addresses. `bracket_combines` says in these terms what becomes of a bracket with a push list, and of a text
that is read up to it (`Reaches`).
-/
namespace ArrowMachine.Rule

variable {channels : List ChannelSpelling} {pushes : List Word} {label w : Word} {c : Nat} {s : String}

/-! ## Words of channels -/

/-- The word that a channel is read by. -/
def ChannelSpelling.readWord? : ChannelSpelling → Option Word
  | read r => some r
  | readWrite r _ => some r
  | write _ => none

/-- The word that a channel is written by. -/
def ChannelSpelling.writeWord? : ChannelSpelling → Option Word
  | read _ => none
  | readWrite _ w => some w
  | write w => some w

theorem ChannelSpelling.op_eq (ch : ChannelSpelling) :
    ch.op = ⟨ch.readWord?.map (·.text), ch.writeWord?.bind writeValue⟩ := by
  cases ch <;> rfl

theorem writeValue_eq_some_iff : writeValue w = some s ↔ w.text = s ∧ s ≠ epsilon := by
  unfold writeValue
  by_cases hw : w.text = epsilon
  · rw [if_pos hw, hw]
    simp [eq_comm]
  · rw [if_neg hw, Option.some_inj]
    constructor
    · intro h
      exact ⟨h, h ▸ hw⟩
    · exact And.left

theorem writeValue_ne_none_iff : writeValue w ≠ none ↔ w.text ≠ epsilon := by
  unfold writeValue
  split <;> simp [*]

/-- What a bracket reads from a channel is the word of the channel there. -/
theorem bracketRead_eq_some_iff : (BodySpelling.bracket label channels pushes).bracketRead c = some s ↔
    ∃ ch ∈ channels[c]?, ∃ r ∈ ch.readWord?, r.text = s := by
  simp only [BodySpelling.bracketRead, BodySpelling.channels, ChannelSpelling.op_eq,
    Option.bind_eq_some_iff, Option.map_eq_some_iff, Option.mem_def]

theorem bracketWrite_eq_some_iff : (BodySpelling.bracket label channels pushes).bracketWrite c = some s ↔
    ∃ ch ∈ channels[c]?, ∃ w ∈ ch.writeWord?, w.text = s ∧ s ≠ epsilon := by
  simp only [BodySpelling.bracketWrite, BodySpelling.channels, ChannelSpelling.op_eq,
    Option.bind_eq_some_iff, writeValue_eq_some_iff, Option.mem_def]

theorem pushAt_eq_some_iff : pushAt pushes c = some s ↔ ∃ p ∈ pushes[c]?, p.text = s ∧ s ≠ epsilon := by
  simp only [pushAt, Option.bind_eq_some_iff, writeValue_eq_some_iff, Option.mem_def]

/-- The bracket and the push list both write a channel, the push list by the word `p`. -/
structure Doubled (channels : List ChannelSpelling) (pushes : List Word) (c : Nat) (p : Word) : Prop where
  bracket : ∃ ch ∈ channels[c]?, ∃ w ∈ ch.writeWord?, w.text ≠ epsilon
  pushed : pushes[c]? = some p
  symbol : p.text ≠ epsilon

theorem doubled_iff_writesTwice {p : Word} :
    Doubled channels pushes c p ↔ (BodySpelling.bracket label channels pushes).WritesTwice c p := by
  have hbracket : (BodySpelling.bracket label channels pushes).bracketWrite c ≠ none ↔
      ∃ ch ∈ channels[c]?, ∃ w ∈ ch.writeWord?, w.text ≠ epsilon := by
    rw [Option.ne_none_iff_exists']
    simp only [bracketWrite_eq_some_iff]
    constructor
    · intro h
      obtain ⟨s, ch, hch, w, hw, rfl, hs⟩ := h
      exact ⟨ch, hch, w, hw, hs⟩
    · intro h
      obtain ⟨ch, hch, w, hw, hs⟩ := h
      exact ⟨w.text, ch, hch, w, hw, rfl, hs⟩
  constructor
  · intro h
    exact ⟨hbracket.2 h.bracket, h.pushed, writeValue_ne_none_iff.2 h.symbol⟩
  · intro h
    exact ⟨hbracket.1 h.bracket, h.pushed, writeValue_ne_none_iff.1 h.symbol⟩

/-- Only channels of both the bracket and the push list are doubled. -/
theorem Doubled.lt_min {p : Word} (h : Doubled channels pushes c p) :
    c < min channels.length pushes.length := by
  obtain ⟨ch, hch, _⟩ := h.bracket
  have hchannel := (List.getElem?_eq_some_iff.1 hch).1
  have hpush := (List.getElem?_eq_some_iff.1 h.pushed).1
  omega

/-! ## How far push lists reach -/

theorem pushCount_eq_zero (h : ∀ p ∈ pushes, p.text = epsilon) : pushCount pushes = 0 := by
  by_contra hcount
  obtain ⟨d, _, hd⟩ := lt_pushCount_iff.1 (Nat.pos_of_ne_zero hcount)
  obtain ⟨s, hs⟩ := Option.ne_none_iff_exists'.1 hd
  obtain ⟨p, hp, rfl, hne⟩ := pushAt_eq_some_iff.1 hs
  exact hne (h p (List.mem_of_getElem? hp))

/-- The last word that is not epsilon says how far a push list reaches. -/
theorem pushCount_eq_succ {p : Word} (hp : pushes[c]? = some p) (hne : p.text ≠ epsilon)
    (hlast : ∀ d q, c < d → pushes[d]? = some q → q.text = epsilon) : pushCount pushes = c + 1 := by
  have hpush : pushAt pushes c ≠ none := by
    rw [pushAt_eq_some_iff.2 ⟨p, hp, rfl, hne⟩]
    exact Option.some_ne_none _
  have hlt : c < pushCount pushes := lt_pushCount_iff.2 ⟨c, Nat.le_refl c, hpush⟩
  have hge : ¬ c + 1 < pushCount pushes := by
    intro hmore
    obtain ⟨d, hd, hpush⟩ := lt_pushCount_iff.1 hmore
    obtain ⟨s, hs⟩ := Option.ne_none_iff_exists'.1 hpush
    obtain ⟨q, hq, rfl, hsymbol⟩ := pushAt_eq_some_iff.1 hs
    exact hsymbol (hlast d q hd hq)
  omega

/-! ## Channels of both -/

/-- What a bracket and the push list behind it come to: as many channels as the bracket has, or as the push
list needs for its last word that is not `epsilon`, each of which is read by the word of the bracket and
written by the word of either, unless that is `epsilon`. -/
structure Combined (channels : List ChannelSpelling) (pushes : List Word) (ops : List ChannelOp) : Prop where
  length_of_idle : (∀ p ∈ pushes, p.text = epsilon) → ops.length = channels.length
  length_of_last : ∀ (c : Nat) (p : Word), pushes[c]? = some p → p.text ≠ epsilon →
    (∀ (d : Nat) (q : Word), c < d → pushes[d]? = some q → q.text = epsilon) →
      ops.length = max channels.length (c + 1)
  read : ∀ (c : Nat) (op : ChannelOp), ops[c]? = some op → ∀ s, op.read = some s ↔
    ∃ ch ∈ channels[c]?, ∃ r ∈ ch.readWord?, r.text = s
  write : ∀ (c : Nat) (op : ChannelOp), ops[c]? = some op → ∀ s, op.write = some s ↔
    s ≠ epsilon ∧ ((∃ ch ∈ channels[c]?, ∃ w ∈ ch.writeWord?, w.text = s) ∨ ∃ p ∈ pushes[c]?, p.text = s)

/-- Where no channel is doubled, a symbol is written if either of the two words says so. -/
theorem write_eq_some_iff (h : ∀ p, ¬ Doubled channels pushes c p) :
    ((BodySpelling.bracket label channels pushes).bracketWrite c).or (pushAt pushes c) = some s ↔
      s ≠ epsilon ∧
        ((∃ ch ∈ channels[c]?, ∃ w ∈ ch.writeWord?, w.text = s) ∨ ∃ p ∈ pushes[c]?, p.text = s) := by
  rw [Option.or_eq_some_iff]
  constructor
  · intro hwrite
    rcases hwrite with hbracket | ⟨_, hpush⟩
    · obtain ⟨ch, hch, w, hw, hs, hne⟩ := bracketWrite_eq_some_iff.1 hbracket
      exact ⟨hne, Or.inl ⟨ch, hch, w, hw, hs⟩⟩
    · obtain ⟨p, hp, hs, hne⟩ := pushAt_eq_some_iff.1 hpush
      exact ⟨hne, Or.inr ⟨p, hp, hs⟩⟩
  · intro hwrite
    obtain ⟨hne, ⟨ch, hch, w, hw, hs⟩ | ⟨p, hp, hs⟩⟩ := hwrite
    · exact Or.inl (bracketWrite_eq_some_iff.2 ⟨ch, hch, w, hw, hs, hne⟩)
    · refine Or.inr ⟨?_, pushAt_eq_some_iff.2 ⟨p, hp, hs, hne⟩⟩
      by_contra hbracket
      have hsymbol : writeValue p ≠ none := writeValue_ne_none_iff.2 (hs ▸ hne)
      exact h p (doubled_iff_writesTwice.2 ⟨hbracket, hp, hsymbol⟩)

theorem combined_denoted (label : Word) (h : ∀ c p, ¬ Doubled channels pushes c p) :
    Combined channels pushes (BodySpelling.bracket label channels pushes).denoted := by
  have hlength : (BodySpelling.bracket label channels pushes).denoted.length =
      max channels.length (pushCount pushes) := by
    simp [BodySpelling.denoted, BodySpelling.channels, BodySpelling.pushes]
  have hop {c : Nat} {op : ChannelOp}
      (hc : (BodySpelling.bracket label channels pushes).denoted[c]? = some op) :
      op = ⟨(BodySpelling.bracket label channels pushes).bracketRead c,
        ((BodySpelling.bracket label channels pushes).bracketWrite c).or (pushAt pushes c)⟩ := by
    rw [BodySpelling.getElem?_denoted] at hc
    split at hc
    · exact (Option.some.inj hc).symm
    · cases hc
  refine ⟨fun hidle => ?_, fun c p hp hne hlast => ?_, fun c op hc s => ?_, fun c op hc s => ?_⟩
  · rw [hlength, pushCount_eq_zero hidle, Nat.max_zero]
  · rw [hlength, pushCount_eq_succ hp hne hlast]
  · rw [hop hc]
    exact bracketRead_eq_some_iff
  · rw [hop hc]
    exact write_eq_some_iff (h c)

theorem part_eq_error_iff {direction : Direction} {e : CompileError} :
    (⟨direction, .bracket label channels pushes⟩ : ArrowSpelling).part = .error e ↔
      ∃ c p, Doubled channels pushes c p ∧ (∀ d q, d < c → ¬ Doubled channels pushes d q) ∧
        e = .of (.writtenTwice c) [some p.pos] := by
  constructor
  · intro h
    obtain ⟨c, p, hp, hfirst, rfl⟩ := ArrowSpelling.part_eq_error h
    exact ⟨c, p, doubled_iff_writesTwice.2 hp,
      fun d q hd hq => hfirst d q hd (doubled_iff_writesTwice.1 hq), rfl⟩
  · intro h
    obtain ⟨c, p, hp, hfirst, rfl⟩ := h
    have hops : (BodySpelling.bracket label channels pushes).ops = .error (c, p) :=
      BodySpelling.ops_eq_error_iff.2 ⟨doubled_iff_writesTwice.1 hp,
        fun d q hd hq => hfirst d q hd (doubled_iff_writesTwice.2 hq)⟩
    rw [ArrowSpelling.part, hops]

/-! ## Texts that are read up to an arrow -/

/-- Legs fail with the error of the first arrow that does. -/
theorem mapM_parts_eq_error {legs : List Leg} {e : CompileError}
    (h : (legs.flatMap Leg.arrows).mapM ArrowSpelling.part = .error e) :
    legs.mapM Leg.parts = .error e := by
  induction legs with
  | nil => cases h
  | cons l legs ih =>
    rw [List.flatMap_cons, List.mapM_append] at h
    rw [List.mapM_cons, Leg.parts]
    rcases bind_eq_error h with harrows | ⟨ts, hts, h⟩
    · rw [harrows]
      rfl
    · rcases bind_eq_error h with hlegs | ⟨us, _, h⟩
      · rw [hts, ih hlegs]
        rfl
      · cases h

/-- Reading the statements of a text gets as far as an arrow: nothing before it is at fault. -/
def Reaches (cap : Capacity) (source : String) (a : ArrowSpelling) : Prop :=
  ∃ front rule back before after, spellings source = .ok (front ++ rule :: back) ∧
    (∀ r ∈ front, ∃ st, r.statement cap = .ok st) ∧ (∃ p, rule.source.part cap = .ok p) ∧
    rule.arrows = before ++ a :: after ∧ ∀ b ∈ before, ∃ t, b.part = .ok t

theorem Reaches.statementsOf_eq_error {cap : Capacity} {source : String} {a : ArrowSpelling} {e : CompileError}
    (h : Reaches cap source a) (ha : a.part = .error e) : statementsOf cap source = .error e := by
  obtain ⟨front, rule, back, before, after, hread, hfront, ⟨p, hp⟩, harrows, hbefore⟩ := h
  have hlegs : rule.legs.mapM Leg.parts = .error e :=
    mapM_parts_eq_error (mapM_eq_error_iff.2 ⟨before, a, after, harrows, hbefore, ha⟩)
  have hrule : rule.statement cap = .error e := by
    rw [Spelling.statement, hp, hlegs]
    rfl
  rw [statementsOf_eq hread]
  exact mapM_eq_error_iff.2 ⟨front, rule, back, rfl, hfront, hrule⟩

theorem Reaches.exists_transition {cap : Capacity} {source : String} {a : ArrowSpelling} {ss : List Statement}
    (h : Reaches cap source a) (hss : statementsOf cap source = .ok ss) :
    ∃ st ∈ ss, .transition a.said ∈ st.parts := by
  obtain ⟨front, rule, back, before, after, hread, _, _, harrows, _⟩ := h
  have hslashed : rule.Slashed := (spelled_of_spellings hread).slashed (by simp)
  rw [statementsOf_eq hread] at hss
  obtain ⟨_, _, _, hrest, rfl⟩ := mapM_append_eq_ok.1 hss
  obtain ⟨st, _, hst, _, rfl⟩ := mapM_cons_eq_ok.1 hrest
  obtain ⟨source, _, hparts⟩ := (Spelling.statement_eq_ok hslashed hst).parts
  have ha : a ∈ rule.legs.flatMap Leg.arrows := by
    rw [← Spelling.arrows, harrows]
    exact List.mem_append_right _ List.mem_cons_self
  obtain ⟨l, hl, ha⟩ := List.mem_flatMap.1 ha
  have hsaid : .transition a.said ∈ l.said :=
    List.mem_append_left _ (List.mem_map.2 ⟨a, ha, rfl⟩)
  refine ⟨st, by simp, ?_⟩
  rw [hparts]
  exact List.mem_cons_of_mem _ (List.mem_flatMap.2 ⟨l, hl, hsaid⟩)

/-- **Brackets and push lists combine channel by channel.** A bracket is refused exactly if some channel of
both it and the push list is doubled, and then for the word of the push list at the first such channel.
Otherwise it says a transition whose channels are those of both. This is what becomes of every text that is
read up to an arrow with that bracket. -/
theorem bracket_combines {cap : Capacity} (direction : Direction) (label : Word) (channels : List ChannelSpelling)
    (pushes : List Word) :
    let a : ArrowSpelling := ⟨direction, .bracket label channels pushes⟩
    ((∃ e, a.part = .error e) ↔
      ∃ c p, c < min channels.length pushes.length ∧ Doubled channels pushes c p) ∧
    (∀ c p, Doubled channels pushes c p → (∀ d q, d < c → ¬ Doubled channels pushes d q) →
      a.part = .error (.of (.writtenTwice c) [some p.pos])) ∧
    (∀ t, a.part = .ok t →
      t.label = label.text ∧ t.direction = direction ∧ Combined channels pushes t.ops) ∧
    ∀ source, Reaches cap source a →
      (∀ e, a.part = .error e → statementsOf cap source = .error e) ∧
      ∀ ss, statementsOf cap source = .ok ss →
        ∃ st ∈ ss, ∃ t, a.part = .ok t ∧ Part.transition t ∈ st.parts := by
  intro a
  refine ⟨⟨?_, ?_⟩, ?_, ?_, ?_⟩
  · intro herror
    obtain ⟨e, he⟩ := herror
    obtain ⟨c, p, hp, _⟩ := part_eq_error_iff.1 he
    exact ⟨c, p, hp.lt_min, hp⟩
  · intro hdoubled
    obtain ⟨c, p, _, hp⟩ := hdoubled
    cases hpart : a.part with
    | error e => exact ⟨e, rfl⟩
    | ok t => exact absurd (doubled_iff_writesTwice.1 hp) ((ArrowSpelling.part_eq_ok hpart).2 c p)
  · intro c p hp hfirst
    exact part_eq_error_iff.2 ⟨c, p, hp, hfirst, rfl⟩
  · intro t ht
    obtain ⟨rfl, honce⟩ := ArrowSpelling.part_eq_ok ht
    exact ⟨rfl, rfl, combined_denoted label fun c p hp => honce c p (doubled_iff_writesTwice.1 hp)⟩
  · intro source hreaches
    refine ⟨fun e he => hreaches.statementsOf_eq_error he, fun ss hss => ?_⟩
    cases hpart : a.part with
    | error e =>
      rw [hreaches.statementsOf_eq_error hpart] at hss
      cases hss
    | ok t =>
      obtain ⟨st, hst, hsaid⟩ := hreaches.exists_transition hss
      rw [← (ArrowSpelling.part_eq_ok hpart).1] at hsaid
      exact ⟨st, hst, t, rfl, hsaid⟩

/-- An arrow whose bracket and push list both write the first channel. -/
def overwriting : ArrowSpelling :=
  ⟨.right, .bracket ⟨"f", ⟨1, 5⟩⟩ [.write ⟨"x", ⟨1, 8⟩⟩] [⟨"y", ⟨1, 10⟩⟩]⟩

theorem overwriting_refused : Reaches .ample "a -[f,:x]y> b;" overwriting ∧
    statementsOf .ample "a -[f,:x]y> b;" = .error (.refused ⟨.writtenTwice 0, [⟨1, 10⟩]⟩) := by
  have hread : spellings "a -[f,:x]y> b;" = .ok [⟨.state ⟨none, none, ⟨"a", ⟨1, 1⟩⟩⟩,
      ⟨overwriting, [], ⟨none, none, ⟨"b", ⟨1, 13⟩⟩⟩⟩, []⟩] := by decide +kernel
  have hreaches : Reaches .ample "a -[f,:x]y> b;" overwriting :=
    ⟨[], _, [], [], [], hread, nofun, ⟨_, rfl⟩, rfl, nofun⟩
  have hdoubled : Doubled [.write ⟨"x", ⟨1, 8⟩⟩] [⟨"y", ⟨1, 10⟩⟩] 0 ⟨"y", ⟨1, 10⟩⟩ :=
    ⟨⟨_, rfl, _, rfl, by decide⟩, rfl, by decide⟩
  obtain ⟨_, hfirst, _, htext⟩ := bracket_combines .right ⟨"f", ⟨1, 5⟩⟩ [.write ⟨"x", ⟨1, 8⟩⟩]
    [⟨"y", ⟨1, 10⟩⟩]
  have hpart := hfirst 0 _ hdoubled fun d q hd => absurd hd (Nat.not_lt_zero d)
  exact ⟨hreaches, (htext _ hreaches).1 _ hpart⟩

end ArrowMachine.Rule
