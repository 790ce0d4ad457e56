import ArrowMachine.Proofs.Rule.Lexeme
import ArrowMachine.Rule.Syntax

/-!
The grammar of rules, as the words and signs that each part of a rule is written with.

`Spelling.lexemes` lists them in order, and `Spelled` says which texts consist of given ones with
layout before, between and behind them. A name or symbol always has a sign behind it that ends it
(`Parted`), so the words of a text are found again even where no layout parts them
(`Spelled.exists_reads`), and what a cursor reads up to the end is such a text (`Cursor.Reads.spelled`).
-/
namespace ArrowMachine.Rule

open ArrowMachine.Text

/-- A word or sign of a rule: its kind, its text where the kind leaves a choice, and its place where
one is kept. -/
structure Lexeme where
  kind : Terminal
  text : Option String
  place : Option Position

/-- A sign, which its kind tells. -/
def Lexeme.sign (k : Terminal) (place : Option Position := none) : Lexeme := ⟨k, none, place⟩

/-- A lexeme wherever it stands. -/
def Lexeme.bare (l : Lexeme) : Lexeme := { l with place := none }

structure Token.Fits (t : Token) (l : Lexeme) : Prop where
  kind : t.kind = l.kind
  text : ∀ s ∈ l.text, t.text = s
  place : ∀ p ∈ l.place, t.pos = p

@[simp] theorem Token.fits_bare_sign {t : Token} {k : Terminal} {place : Option Position} :
    t.Fits (Lexeme.sign k place).bare ↔ t.kind = k :=
  ⟨fun h => h.kind, fun h => ⟨h, fun _ hs => (nomatch hs), fun _ hp => (nomatch hp)⟩⟩

/-! ## How rules are written -/

def Word.lexeme (k : Terminal) (w : Word) : Lexeme := ⟨k, some w.text, some w.pos⟩

@[simp] theorem Token.fits_bare_word {t : Token} {k : Terminal} {w : Word} :
    t.Fits (w.lexeme k).bare ↔ t.kind = k ∧ t.text = w.text :=
  ⟨fun h => ⟨h.kind, h.text w.text rfl⟩,
    fun h => ⟨h.1, fun _ hs => h.2.trans (Option.some.inj hs), fun _ hp => (nomatch hp)⟩⟩

/-- The name of a state, perhaps in parentheses. -/
def StateSpelling.named (s : StateSpelling) : List Lexeme :=
  match s.paren with
  | none => [s.name.lexeme .name]
  | some p => [.sign .lpar p, s.name.lexeme .name, .sign .rpar]

def StateSpelling.lexemes (s : StateSpelling) : List Lexeme :=
  match s.mark with
  | none => s.named
  | some p => .sign .mark p :: s.named

def SourceSpelling.lexemes : SourceSpelling → List Lexeme
  | state s => s.lexemes
  | pattern l => [l.lexeme .regex]
  | any p => [.sign .star p]

def ChannelSpelling.lexemes : ChannelSpelling → List Lexeme
  | read r => [r.lexeme .symbol]
  | readWrite r w => [r.lexeme .symbol, .sign .colon, w.lexeme .symbol]
  | write w => [.sign .colon, w.lexeme .symbol]

/-- The channels of a bracket with the commas before them, and the end of the bracket. -/
def channelLexemes (channels : List ChannelSpelling) : List Lexeme :=
  channels.flatMap (fun c => .sign .comma :: c.lexemes) ++ [.sign .rsqb]

/-- Further symbols of a push list, with the commas before them. -/
def furtherPushes (pushes : List Word) : List Lexeme :=
  pushes.flatMap fun w => [.sign .comma, w.lexeme .symbol]

def pushLexemes : List Word → List Lexeme
  | [] => []
  | w :: ws => w.lexeme .symbol :: furtherPushes ws

def BodySpelling.lexemes : BodySpelling → List Lexeme
  | plain l => [l.lexeme .symbol]
  | bracket l channels pushes =>
    .sign .lsqb :: l.lexeme .symbol :: (channelLexemes channels ++ pushLexemes pushes)

def Direction.opener : Direction → Terminal
  | right => .minus
  | left | both => .less

def Direction.closer : Direction → Terminal
  | right | both => .more
  | left => .minus

/-- An arrow behind the sign that opens it. -/
def ArrowSpelling.shaft (a : ArrowSpelling) : List Lexeme :=
  a.body.lexemes ++ [.sign a.direction.closer]

def ArrowSpelling.lexemes (a : ArrowSpelling) : List Lexeme :=
  .sign a.direction.opener :: a.shaft

/-- Arrows and the state they lead to. -/
def arrowLexemes (arrows : List ArrowSpelling) (target : StateSpelling) : List Lexeme :=
  arrows.flatMap ArrowSpelling.lexemes ++ target.lexemes

def Leg.lexemes (l : Leg) : List Lexeme := arrowLexemes l.arrows l.target

/-- Legs and the semicolon behind them. -/
def legLexemes (legs : List Leg) : List Lexeme :=
  legs.flatMap Leg.lexemes ++ [.sign .semicolon]

def Spelling.lexemes (s : Spelling) : List Lexeme := s.source.lexemes ++ legLexemes s.legs

/-! ## Rules wherever they stand -/

def Word.bare (w : Word) : Word := ⟨w.text, .start⟩

theorem Token.word_bare {t : Token} {w : Word} (h : t.text = w.text) : t.word.bare = w.bare := by
  unfold Word.bare
  rw [← h]
  rfl

/-- A state with its places forgotten, as are those of all that follows. -/
def StateSpelling.bare (s : StateSpelling) : StateSpelling :=
  ⟨s.mark.map fun _ => .start, s.paren.map fun _ => .start, s.name.bare⟩

def SourceSpelling.bare : SourceSpelling → SourceSpelling
  | state s => .state s.bare
  | pattern l => .pattern l.bare
  | any _ => .any .start

def ChannelSpelling.bare : ChannelSpelling → ChannelSpelling
  | read r => .read r.bare
  | readWrite r w => .readWrite r.bare w.bare
  | write w => .write w.bare

def BodySpelling.bare : BodySpelling → BodySpelling
  | plain l => .plain l.bare
  | bracket l channels pushes =>
    .bracket l.bare (channels.map ChannelSpelling.bare) (pushes.map Word.bare)

def ArrowSpelling.bare (a : ArrowSpelling) : ArrowSpelling := ⟨a.direction, a.body.bare⟩

def Leg.bare (l : Leg) : Leg := ⟨l.arrow.bare, l.moreArrows.map ArrowSpelling.bare, l.target.bare⟩

def Spelling.bare (s : Spelling) : Spelling := ⟨s.source.bare, s.leg.bare, s.moreLegs.map Leg.bare⟩

/-! ## Texts that consist of given lexemes -/

/-- **The text spells the lexemes**: each as a word of its kind, with any layout before, between and
behind them. -/
inductive Spelled : List Char → List Lexeme → Prop
  | nil {cs : List Char} (hlast : LastLayout cs) : Spelled cs []
  | cons {lay w cs : List Char} {l : Lexeme} {ls : List Lexeme} (hlay : Layout lay)
      (hw : l.kind.Spells w) (htext : ∀ s ∈ l.text, s.toList = w) (h : Spelled cs ls) :
      Spelled (lay ++ (w ++ cs)) (l :: ls)

/-- Behind every name and symbol stands a sign that ends it. -/
def Parted : List Lexeme → Prop
  | [] => True
  | l :: ls =>
    (l.kind = .name ∨ l.kind = .symbol → ∃ m ∈ ls.head?, m.kind ∈ Terminal.cutters) ∧ Parted ls

theorem Parted.append {ls ms : List Lexeme} (hl : Parted ls) (hm : Parted ms) :
    Parted (ls ++ ms) := by
  induction ls with
  | nil => exact hm
  | cons l ls ih =>
    refine ⟨fun hrun => ?_, ih hl.2⟩
    obtain ⟨m, hm, hcut⟩ := hl.1 hrun
    obtain ⟨tail, rfl⟩ := List.head?_eq_some_iff.1 hm
    exact ⟨m, rfl, hcut⟩

/-- Text that goes on with a cutting sign, as it does behind every state and every push list. -/
structure Cuts (ls : List Lexeme) : Prop where
  head : ∃ m ∈ ls.head?, m.kind ∈ Terminal.cutters
  parted : Parted ls

theorem Cuts.sign {k : Terminal} {place : Option Position} {ls : List Lexeme}
    (hk : k ∈ Terminal.cutters) (h : Parted ls) : Cuts (⟨k, none, place⟩ :: ls) := by
  refine ⟨⟨_, rfl, hk⟩, fun hrun => ?_, h⟩
  rcases hrun with rfl | rfl <;> exact absurd hk (by decide)

theorem Cuts.behind_word {ls : List Lexeme} (h : Cuts ls) (k : Terminal) (w : Word) :
    Parted (w.lexeme k :: ls) := ⟨fun _ => h.head, h.parted⟩

theorem StateSpelling.parted_named (s : StateSpelling) {ls : List Lexeme} (h : Cuts ls) :
    Parted (s.named ++ ls) := by
  unfold StateSpelling.named
  cases s.paren with
  | none => exact h.behind_word .name s.name
  | some p =>
    have hclose : Cuts (.sign .rpar :: ls) := .sign (by decide) h.parted
    exact (Cuts.sign (by decide) (hclose.behind_word .name s.name)).parted

theorem StateSpelling.parted (s : StateSpelling) {ls : List Lexeme} (h : Cuts ls) :
    Parted (s.lexemes ++ ls) := by
  unfold StateSpelling.lexemes
  cases s.mark with
  | none => exact s.parted_named h
  | some p => exact ⟨by simp [Lexeme.sign], s.parted_named h⟩

theorem ChannelSpelling.parted (c : ChannelSpelling) {ls : List Lexeme} (h : Cuts ls) :
    Parted (c.lexemes ++ ls) := by
  have hcolon : ∀ w : Word, Cuts (.sign .colon :: w.lexeme .symbol :: ls) := fun w =>
    .sign (by decide) (h.behind_word .symbol w)
  cases c with
  | read r => exact h.behind_word .symbol r
  | readWrite r w => exact (hcolon w).behind_word .symbol r
  | write w => exact (hcolon w).parted

theorem cuts_channelLexemes (channels : List ChannelSpelling) {ls : List Lexeme} (h : Parted ls) :
    Cuts (channelLexemes channels ++ ls) := by
  induction channels with
  | nil => exact .sign (by decide) h
  | cons c channels ih =>
    have hc := c.parted ih
    simp only [channelLexemes, List.flatMap_cons, List.cons_append, List.append_assoc] at hc ⊢
    exact .sign (by decide) hc

theorem cuts_furtherPushes (pushes : List Word) {ls : List Lexeme} (h : Cuts ls) :
    Cuts (furtherPushes pushes ++ ls) := by
  induction pushes with
  | nil => exact h
  | cons w pushes ih => exact .sign (by decide) (ih.behind_word .symbol w)

theorem parted_pushLexemes (pushes : List Word) {ls : List Lexeme} (h : Cuts ls) :
    Parted (pushLexemes pushes ++ ls) := by
  cases pushes with
  | nil => exact h.parted
  | cons w pushes => exact (cuts_furtherPushes pushes h).behind_word .symbol w

theorem BodySpelling.parted (b : BodySpelling) {ls : List Lexeme} (h : Cuts ls) :
    Parted (b.lexemes ++ ls) := by
  cases b with
  | plain l => exact h.behind_word .symbol l
  | bracket l channels pushes =>
    have hbehind := cuts_channelLexemes channels (parted_pushLexemes pushes h)
    rw [← List.append_assoc] at hbehind
    exact (Cuts.sign (by decide) (hbehind.behind_word .symbol l)).parted

theorem ArrowSpelling.cuts (a : ArrowSpelling) {ls : List Lexeme} (h : Parted ls) :
    Cuts (a.lexemes ++ ls) := by
  have hcloser : a.direction.closer ∈ Terminal.cutters := by cases a.direction <;> decide
  have hopener : a.direction.opener ∈ Terminal.cutters := by cases a.direction <;> decide
  have hend : Cuts (.sign a.direction.closer :: ls) := .sign hcloser h
  have hbody := a.body.parted hend
  simp only [ArrowSpelling.lexemes, ArrowSpelling.shaft, List.cons_append, List.append_assoc]
  exact .sign hopener hbody

theorem parted_arrowLexemes (arrows : List ArrowSpelling) (target : StateSpelling)
    {ls : List Lexeme} (h : Cuts ls) : Parted (arrowLexemes arrows target ++ ls) := by
  induction arrows with
  | nil => exact target.parted h
  | cons a arrows ih =>
    simp only [arrowLexemes, List.flatMap_cons, List.append_assoc] at ih ⊢
    exact (a.cuts ih).parted

theorem Leg.cuts (l : Leg) {ls : List Lexeme} (h : Cuts ls) : Cuts (l.lexemes ++ ls) := by
  have hrest := l.arrow.cuts (parted_arrowLexemes l.moreArrows l.target h)
  simpa only [Leg.lexemes, Leg.arrows, arrowLexemes, List.flatMap_cons, List.append_assoc] using hrest

theorem cuts_legLexemes (legs : List Leg) {ls : List Lexeme} (h : Parted ls) :
    Cuts (legLexemes legs ++ ls) := by
  induction legs with
  | nil => exact .sign (by decide) h
  | cons l legs ih =>
    have hrest := l.cuts ih
    simpa only [legLexemes, List.flatMap_cons, List.append_assoc] using hrest

theorem SourceSpelling.parted (s : SourceSpelling) {ls : List Lexeme} (h : Cuts ls) :
    Parted (s.lexemes ++ ls) := by
  cases s with
  | state s => exact s.parted h
  | pattern l => exact h.behind_word .regex l
  | any p => exact ⟨by simp [Lexeme.sign], h.parted⟩

/-- **The names and symbols of rules are parted by signs.** -/
theorem parted_rules (rules : List Spelling) : Parted (rules.flatMap Spelling.lexemes) := by
  induction rules with
  | nil => trivial
  | cons s rules ih =>
    rw [List.flatMap_cons, Spelling.lexemes, List.append_assoc]
    exact s.source.parted (cuts_legLexemes s.legs ih)

/-! ## Reading lexemes -/

/-- The lexemes that stand between two places of a cursor. -/
inductive Cursor.Reads : Cursor → List Lexeme → Cursor → Prop
  | nil {c : Cursor} : Reads c [] c
  | cons {c e d : Cursor} {t : Token} {l : Lexeme} {ls : List Lexeme} (ht : c.Takes t e)
      (hfits : t.Fits l) (h : Reads e ls d) : Reads c (l :: ls) d

@[simp] theorem Cursor.reads_nil {c d : Cursor} : c.Reads [] d ↔ c = d := by
  constructor
  · intro h
    cases h
    rfl
  · rintro rfl
    exact .nil

@[simp] theorem Cursor.reads_cons {c d : Cursor} {l : Lexeme} {ls : List Lexeme} :
    c.Reads (l :: ls) d ↔ ∃ t e, c.Takes t e ∧ t.Fits l ∧ e.Reads ls d := by
  constructor
  · intro h
    cases h with
    | cons ht hfits h => exact ⟨_, _, ht, hfits, h⟩
  · rintro ⟨t, e, ht, hfits, h⟩
    exact .cons ht hfits h

@[simp] theorem Cursor.reads_append {c d : Cursor} {ls ms : List Lexeme} :
    c.Reads (ls ++ ms) d ↔ ∃ e, c.Reads ls e ∧ e.Reads ms d := by
  induction ls generalizing c with
  | nil => simp
  | cons l ls ih =>
    simp only [List.cons_append, Cursor.reads_cons, ih]
    constructor
    · rintro ⟨t, e, ht, hfits, e', hl, hm⟩
      exact ⟨e', ⟨t, e, ht, hfits, hl⟩, hm⟩
    · rintro ⟨e', ⟨t, e, ht, hfits, hl⟩, hm⟩
      exact ⟨t, e, ht, hfits, e', hl, hm⟩

/-- A text that spells lexemes begins with layout, a comment or the first of them. -/
theorem Spelled.head {cs : List Char} {ls : List Lexeme} (h : Spelled cs ls) {a : Char}
    (ha : a ∈ cs.head?) :
    isLayout a = true ∨ a = '#' ∨ ∃ l ∈ ls.head?, l.kind.opens a = true := by
  have hlayout : ∀ {lay : List Char}, Layout lay → a ∈ lay.head? → isLayout a = true ∨ a = '#' := by
    intro lay hlay ha
    cases hlay with
    | nil => cases ha
    | blank hc _ =>
      cases ha
      exact Or.inl hc
    | comment _ _ =>
      cases ha
      exact Or.inr rfl
  cases h with
  | nil hlast =>
    rcases hlast with hlay | ⟨front, body, hfront, _, rfl⟩
    · exact (hlayout hlay ha).imp_right Or.inl
    · cases hfront with
      | nil =>
        cases ha
        exact Or.inr (Or.inl rfl)
      | blank hc hrest => exact (hlayout (.blank hc hrest) ha).imp_right Or.inl
      | comment hline hrest => exact (hlayout (.comment hline hrest) ha).imp_right Or.inl
  | @cons lay w cs l ls hlay hw _ _ =>
    cases hlay with
    | nil =>
      obtain ⟨b, w, rfl, hopen⟩ := opens_of_spells hw
      cases ha
      exact Or.inr (Or.inr ⟨l, rfl, hopen⟩)
    | blank hc hrest => exact (hlayout (.blank hc hrest) ha).imp_right Or.inl
    | comment hline hrest => exact (hlayout (.comment hline hrest) ha).imp_right Or.inl

/-- Layout, a comment or a cutting sign ends every word. -/
theorem goesOn_eq_false {k : Terminal} {a : Char}
    (h : isLayout a = true ∨ a = '#' ∨ ∃ m ∈ Terminal.cutters, m.opens a = true) :
    k.goesOn a = false := by
  have hword : ∀ k : Terminal, k = .name ∨ k = .symbol → k.goesOn a = k.opens a := by
    rintro k (rfl | rfl) <;> rfl
  by_cases hk : k = .name ∨ k = .symbol
  · cases hopen : k.goesOn a with
    | false => rfl
    | true =>
      rw [hword k hk] at hopen
      obtain ⟨hblank, hsign⟩ := opens_layout hopen
      rcases h with h | h | ⟨m, hm, hcut⟩
      · rw [h] at hblank
        cases hblank
      · exact absurd h hsign
      · rcases hk with rfl | rfl
        · rw [← hopen]
          exact (isNameChar_of_opens_cutter hm hcut)
        · rw [← hopen]
          exact (isSymbolChar_of_opens_cutter hm hcut)
  · rw [not_or] at hk
    cases k <;> first | rfl | exact absurd rfl hk.1 | exact absurd rfl hk.2

theorem atEnd_iff {c : Cursor} : c.atEnd = true ↔ c.skip.rest = [] := List.isEmpty_iff

/-- **The lexemes of a text are found again.** -/
theorem Spelled.exists_reads {cs : List Char} {ls : List Lexeme} (h : Spelled cs ls)
    (hparted : Parted ls) {c : Cursor} (hc : c.rest = cs) :
    ∃ d, c.Reads (ls.map Lexeme.bare) d ∧ d.atEnd = true := by
  induction h generalizing c with
  | nil hlast =>
    subst hc
    exact ⟨c, .nil, atEnd_iff.2 (skipLayout_of_last hlast c.pos)⟩
  | @cons lay w cs l ls hlay hw htext h ih =>
    obtain ⟨a, w', rfl, hopen⟩ := opens_of_spells hw
    -- The word stands first behind the layout, and nothing goes on with it.
    have hskip : c.skip.rest = a :: w' ++ cs := by
      have hhead : skipLayout false (a :: w' ++ cs) (c.pos.advance lay) = (a :: w' ++ cs, _) :=
        skipLayout_of_head _ fun b hb => by
          cases hb
          exact opens_layout hopen
      rw [Cursor.skip, hc, skipLayout_append hlay, hhead]
    have hstop : ∀ b ∈ cs.head?, l.kind.goesOn b = false := by
      intro b hb
      by_cases hrun : l.kind = .name ∨ l.kind = .symbol
      · obtain ⟨m, hm, hcut⟩ := hparted.1 hrun
        refine goesOn_eq_false ((h.head hb).imp_right fun h => h.imp_right ?_)
        rintro ⟨m', hm', hopen'⟩
        rw [Option.mem_unique hm hm'] at hcut
        exact ⟨m'.kind, hcut, hopen'⟩
      · rw [not_or] at hrun
        revert hrun
        cases l.kind <;> simp [Terminal.goesOn]
    have htaken : munch? l.kind c.skip.rest = some (a :: w', cs) :=
      munch?_eq_some_iff.2 ⟨hw, hskip, hstop⟩
    obtain ⟨d, hreads, hend⟩ := ih hparted.2
      (c := ⟨cs, c.skip.pos.advance (a :: w'), some c.skip.pos⟩) rfl
    refine ⟨d, .cons (t := ⟨l.kind, String.ofList (a :: w'), c.skip.pos⟩) ⟨?_, rfl, ?_, rfl⟩
      ⟨rfl, ?_, fun p hp => by cases hp⟩ hreads, hend⟩
    · rw [htaken, String.toList_ofList]
    · rw [String.toList_ofList]
    · intro s hs
      rw [← htext s hs, String.ofList_toList]

/-- **What is read up to the end of a text spells it.** -/
theorem Cursor.Reads.spelled {c d : Cursor} {ls : List Lexeme} (h : c.Reads ls d)
    (hend : d.atEnd = true) : Spelled c.rest ls := by
  induction h with
  | @nil c =>
    obtain ⟨lay, hrest, _, hlay⟩ := exists_skipped false c.rest c.pos
    have hnil : (skipLayout false c.rest c.pos).1 = [] := atEnd_iff.1 hend
    rw [hnil, List.append_nil] at hrest
    rw [hrest]
    exact .nil (hlay.elim Or.inl fun h => h.2)
  | @cons c e d t l ls ht hfits h ih =>
    obtain ⟨hspells, hcs, _⟩ := munch?_eq_some_iff.1 ht.munched
    obtain ⟨lay, hrest, _, hlay⟩ := exists_skipped false c.rest c.pos
    have hskip : (skipLayout false c.rest c.pos).1 = t.text.toList ++ e.rest := hcs
    rw [hskip] at hrest hlay
    rw [hrest]
    have hlayout : Layout lay := by
      refine hlay.elim id fun hnil => ?_
      obtain ⟨a, w, hw, _⟩ := opens_of_spells hspells
      rw [hw] at hnil
      cases hnil.1
    refine .cons hlayout (hfits.kind ▸ hspells) (fun s hs => ?_) (ih hend)
    rw [hfits.text s hs]

end ArrowMachine.Rule
