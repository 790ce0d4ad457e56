import ArrowMachine.Proofs.Rule.Recognition

/-!
Where in a text its rules stand, and where it goes wrong.

A cursor that is in a text stays in it as tokens are taken, so every lexeme that is read stands in the text
at its place (`stands_of_spellings`). A reader that fails does so at a token or at a character of which no
token can be made, and tells of a place that is occupied (`occupied_of_fault`).
-/
namespace ArrowMachine.Rule

open ArrowMachine.Text

/-- The text goes on with `w` at the place. -/
def GoesOn (cs w : List Char) (p : Position) : Prop :=
  ∃ before after, cs = before ++ (w ++ after) ∧ p = Position.start.advance before

/-- A character that is no layout stands at the place. -/
def Occupied (cs : List Char) (p : Position) : Prop := ∃ c, GoesOn cs [c] p ∧ isLayout c = false

/-- The lexeme stands in the text, at its place if it has one. -/
def Lexeme.StandsIn (cs : List Char) (l : Lexeme) : Prop :=
  ∃ w p, GoesOn cs w p ∧ l.kind.Spells w ∧ (∀ s ∈ l.text, s.toList = w) ∧ ∀ q ∈ l.place, q = p

variable {cs : List Char} {c d : Cursor} {t : Token} {p : Position}

/-- A word is no layout. -/
theorem GoesOn.occupied {w : List Char} {k : Terminal} (h : GoesOn cs w p) (hw : k.Spells w) :
    Occupied cs p := by
  obtain ⟨a, w, rfl, hopen⟩ := opens_of_spells hw
  obtain ⟨before, after, hcs, hp⟩ := h
  exact ⟨a, ⟨before, w ++ after, hcs, hp⟩, (opens_layout hopen).1⟩

theorem Lexeme.StandsIn.occupied {l : Lexeme} (h : l.StandsIn cs) (hp : p ∈ l.place) :
    Occupied cs p := by
  obtain ⟨w, q, hgoes, hspells, _, hplace⟩ := h
  rw [hplace p hp]
  exact hgoes.occupied hspells

/-! ## Cursors in a text -/

/-- The text goes on at the place of the cursor with what it has left. -/
def Cursor.In (cs : List Char) (c : Cursor) : Prop :=
  ∃ before, cs = before ++ c.rest ∧ c.pos = Position.start.advance before

theorem Cursor.in_ofText (cs : List Char) : (Cursor.ofText cs).In cs := ⟨[], rfl, rfl⟩

theorem Cursor.In.skip (h : c.In cs) : c.skip.In cs := by
  obtain ⟨before, hcs, hp⟩ := h
  obtain ⟨lay, hrest, hpos, _⟩ := exists_skipped false c.rest c.pos
  refine ⟨before ++ lay, ?_, ?_⟩
  · rw [hcs, List.append_assoc]
    exact congrArg (before ++ ·) hrest
  · rw [Position.advance_append, ← hp]
    exact hpos

theorem Cursor.In.takes (h : c.In cs) (ht : c.Takes t d) : GoesOn cs t.text.toList t.pos ∧ d.In cs := by
  obtain ⟨before, hcs, hp⟩ := h.skip
  obtain ⟨_, hrest, _⟩ := munch?_eq_some_iff.1 ht.munched
  rw [hrest] at hcs
  refine ⟨⟨before, d.rest, hcs, ht.place.trans hp⟩, before ++ t.text.toList, ?_, ?_⟩
  · rw [hcs, List.append_assoc]
  · rw [ht.behind, ht.place, hp, Position.advance_append]

/-- **What a cursor reads in a text stands there.** -/
theorem Cursor.Reads.stands {ls : List Lexeme} (h : c.Reads ls d) (hc : c.In cs) :
    (∀ l ∈ ls, l.StandsIn cs) ∧ d.In cs := by
  induction h with
  | nil => exact ⟨fun l hl => (nomatch hl), hc⟩
  | @cons c e d t l ls ht hfits _ ih =>
    obtain ⟨hgoes, he⟩ := hc.takes ht
    obtain ⟨hrest, hd⟩ := ih he
    have hspells := (munch?_eq_some_iff.1 ht.munched).1
    refine ⟨List.forall_mem_cons.2 ⟨⟨_, _, hgoes, hfits.kind ▸ hspells, fun s hs => ?_, fun q hq =>
      (hfits.place q hq).symm⟩, hrest⟩, hd⟩
    rw [hfits.text s hs]

/-- **The lexemes of rules that are read stand in the text.** -/
theorem stands_of_spellings {source : String} {rules : List Spelling}
    (h : spellings source = .ok rules) :
    ∀ l ∈ rules.flatMap Spelling.lexemes, l.StandsIn source.toList := by
  obtain ⟨d, hreads, _⟩ := readSpellings_sound h
  exact (hreads.stands (Cursor.in_ofText _)).1

/-! ## Faults -/

/-- Layout does not stand behind layout that is skipped. -/
theorem head_skipLayout {inComment : Bool} {a : Char}
    (h : a ∈ (skipLayout inComment cs p).1.head?) : isLayout a = false := by
  induction cs generalizing inComment p with
  | nil => cases h
  | cons b cs ih =>
    rw [skipLayout] at h
    split at h
    · exact ih h
    · split at h
      · exact ih h
      · split at h
        · exact ih h
        · next hblank _ =>
          cases h
          simpa using hblank

theorem Cursor.head_skip {a : Char} (h : a ∈ c.skip.rest.head?) : isLayout a = false :=
  head_skipLayout h

theorem strayFault_pos (a : Char) (rest : List Char) (p : Position) :
    (strayFault a rest p).pos = p := by
  unfold strayFault
  cases hstray : strayToken? (a :: rest) p with
  | none => rfl
  | some t =>
    unfold strayToken? at hstray
    split at hstray
    · obtain rfl := Option.some.inj hstray
      rfl
    · obtain ⟨r, _, rfl⟩ := Option.map_eq_some_iff.1 hstray
      rfl

/-- A cursor from which tokens may be taken: it is in the text, the place of its last token is occupied,
and if there was none, more than layout is left. -/
structure Cursor.Ready (cs : List Char) (c : Cursor) : Prop where
  within : c.In cs
  last : ∀ p ∈ c.last, Occupied cs p
  begun : c.last = none → c.atEnd = false

/-- A reader stays in the text, and if it fails, it tells of a place that is occupied. -/
structure Sited {α : Type} {n : Nat} (cs : List Char) (x : Except SyntaxFault (Read α n)) : Prop where
  ok : ∀ r, x = .ok r → r.after.Ready cs
  error : ∀ fault, x = .error fault → Occupied cs fault.pos

namespace Sited

variable {α β : Type} {m n : Nat}

theorem pure {r : Read α n} (h : r.after.Ready cs) : Sited cs (.ok r) :=
  ⟨fun _ heq => Except.ok.inj heq ▸ h, fun _ heq => (nomatch heq)⟩

theorem bind {x : Except SyntaxFault (Read α m)} {f : Read α m → Except SyntaxFault (Read β n)}
    (hx : Sited cs x) (hf : ∀ r, r.after.Ready cs → Sited cs (f r)) : Sited cs (x >>= f) := by
  cases x with
  | ok r => exact hf r (hx.ok r rfl)
  | error fault => exact ⟨fun _ h => (nomatch h), fun e h => hx.error e (by cases h; rfl)⟩

/-- **A token is taken from its place, or else something stands there that is not expected.** At the end of
the text that is told of the last token. -/
theorem take (h : c.Ready cs) (expected : List Terminal) : Sited cs (c.take expected) := by
  constructor
  · intro r hr
    obtain ⟨_, htakes⟩ := take_sound hr
    obtain ⟨hgoes, hin⟩ := h.within.takes htakes
    have hspells := (munch?_eq_some_iff.1 htakes.munched).1
    refine ⟨hin, fun p hp => ?_, fun hnone => ?_⟩
    · rw [htakes.last] at hp
      obtain rfl := Option.some.inj hp
      exact hgoes.occupied hspells
    · rw [htakes.last] at hnone
      cases hnone
  · intro fault hfault
    unfold Cursor.take at hfault
    split at hfault
    · cases hfault
    · split at hfault
      · next hend =>
        obtain rfl := Except.error.inj hfault
        cases hlast : c.last with
        | none =>
          have hmore := h.begun hlast
          rw [atEnd_iff.2 hend] at hmore
          cases hmore
        | some p =>
          have hpos : (SyntaxFault.unexpectedToken c.finish).pos = p := by
            rw [SyntaxFault.pos, Cursor.finish, hlast]
            rfl
          rw [hpos]
          exact h.last p hlast
      · next a rest hrest =>
        obtain rfl := Except.error.inj hfault
        obtain ⟨before, hcs, hp⟩ := h.within.skip
        rw [hrest] at hcs
        refine ⟨a, ⟨before, rest, hcs, (strayFault_pos a rest _).trans hp⟩, ?_⟩
        exact Cursor.head_skip (by rw [hrest]; rfl)

/-! ## Readers stay in the text -/

theorem readNamed (h : c.Ready cs) (mark : Option Position) : Sited cs (readNamed mark c) := by
  refine (take h _).bind fun t ht => ?_
  split
  · exact (take ht _).bind fun n hn => (take hn _).bind fun r hr => .pure hr
  · exact .pure ht

theorem readStateFrom (h : c.Ready cs) (t : Token) : Sited cs (readStateFrom t c) := by
  unfold Rule.readStateFrom
  split
  · exact (readNamed h _).bind fun s hs => .pure hs
  · split
    · exact (take h _).bind fun n hn => (take hn _).bind fun r hr => .pure hr
    · exact .pure h

theorem readChannels (separator : Terminal) (h : c.Ready cs) (done : List ChannelSpelling) :
    Sited cs (readChannels separator c done) := by
  induction separator, c, done using Rule.readChannels.induct with
  | case1 c done ih1 ih2 ih3 =>
    rw [Rule.readChannels, if_pos rfl]
    refine (take h _).bind fun t ht => ?_
    split
    · refine (take ht _).bind fun w hw => (take hw _).bind fun s hs => ?_
      exact (ih1 t w s hs).bind fun r hr => .pure hr
    · refine (take ht _).bind fun s hs => ?_
      split
      · refine (take hs _).bind fun w hw => (take hw _).bind fun s' hs' => ?_
        exact (ih2 t s w s' hs').bind fun r hr => .pure hr
      · exact (ih3 t s hs).bind fun r hr => .pure hr
  | case2 separator c done hcomma =>
    rw [Rule.readChannels, if_neg hcomma]
    exact .pure h

theorem readPushes (opener : Terminal) (h : c.Ready cs) (done : List Word) :
    Sited cs (readPushes opener c done) := by
  induction c, done using Rule.readPushes.induct with
  | case1 c done ih =>
    rw [Rule.readPushes]
    refine (take h _).bind fun t ht => ?_
    split
    · refine (take ht _).bind fun w hw => ?_
      exact (ih t w hw).bind fun r hr => .pure hr
    · exact .pure ht

theorem readArrow (opener : Terminal) (h : c.Ready cs) : Sited cs (readArrow opener c) := by
  refine (take h _).bind fun t ht => ?_
  split
  · refine (take ht _).bind fun l hl => (take hl _).bind fun s hs => ?_
    refine (readChannels _ hs _).bind fun chans hchans => (take hchans _).bind fun p hp => ?_
    dsimp only
    split
    · exact (readPushes _ hp _).bind fun r hr => .pure hr
    · exact .pure hp
  · exact (take ht _).bind fun e he => .pure he

theorem readArrows (h : c.Ready cs) (done : List ArrowSpelling) : Sited cs (readArrows c done) := by
  induction c, done using Rule.readArrows.induct with
  | case1 c done ih =>
    rw [Rule.readArrows]
    refine (take h _).bind fun t ht => ?_
    split
    · refine (readArrow _ ht).bind fun a ha => ?_
      exact (ih t a ha).bind fun r hr => .pure hr
    · exact (readStateFrom ht _).bind fun s hs => .pure hs

theorem readLeg (opener : Terminal) (h : c.Ready cs) : Sited cs (readLeg opener c) :=
  (readArrow opener h).bind fun _ ha => (readArrows ha _).bind fun _ hr => .pure hr

theorem readLegs (h : c.Ready cs) (done : List Leg) : Sited cs (readLegs c done) := by
  induction c, done using Rule.readLegs.induct with
  | case1 c done ih =>
    rw [Rule.readLegs]
    refine (take h _).bind fun t ht => ?_
    split
    · exact .pure ht
    · refine (readLeg _ ht).bind fun l hl => ?_
      exact (ih t l hl).bind fun r hr => .pure hr

theorem readSource (h : c.Ready cs) : Sited cs (readSource c) := by
  refine (take h _).bind fun t ht => ?_
  split
  · exact .pure ht
  · split
    · exact .pure ht
    · exact (readStateFrom ht _).bind fun s hs => .pure hs

theorem readSpelling (h : c.Ready cs) : Sited cs (readSpelling c) :=
  (readSource h).bind fun _ hs => (take hs _).bind fun _ ht => (readLeg _ ht).bind fun _ hl =>
    (readLegs hl _).bind fun _ hr => .pure hr

end Sited

/-- Rules are read from one place of the text after the other. -/
theorem occupied_of_readSpellings {fault : SyntaxFault} (hin : c.In cs)
    (hlast : ∀ p ∈ c.last, Occupied cs p) (h : readSpellings c = .error fault) :
    Occupied cs fault.pos := by
  induction c using readSpellings.induct with
  | case1 c hend =>
    rw [readSpellings, if_pos hend] at h
    cases h
  | case2 c hend ih =>
    rw [readSpellings, if_neg hend] at h
    have hready : c.Ready cs := ⟨hin, hlast, fun _ => by simpa using hend⟩
    have hsited := Sited.readSpelling hready
    rcases bind_eq_error h with h | ⟨r, hr, h⟩
    · exact hsited.error fault h
    · have hafter := hsited.ok r hr
      rcases bind_eq_error h with h | ⟨rest, _, h⟩
      · exact ih r hafter.within hafter.last h
      · cases h

/-- **A text that is no list of rules goes wrong where something stands.** -/
theorem occupied_of_fault {source : String} {fault : SyntaxFault} (h : spellings source = .error fault) :
    Occupied source.toList fault.pos :=
  occupied_of_readSpellings (Cursor.in_ofText _) (fun _ hp => (nomatch hp)) h

end ArrowMachine.Rule
