import ArrowMachine.Proofs.Rule.Placing
import ArrowMachine.Proofs.Text.Lines
import Mathlib.Data.List.Infix

/-!
How a text is laid out, place by place.

`LaidOut p cs ls` says that a text that begins at `p` is the lexemes with layout between them, each at its
place: the place behind all that stands before it, which is how `Spelled` goes on when places count. What is
read is laid out so (`laidOut_of_spellings`). The lexemes of a part of a rule stand one after the other
behind some of the text (`LaidOut.drop`), a word can be read at the line and column of its place
(`GoesOn.readsAt`), and places come later and later (`LaidOut.ascends`).
-/
namespace ArrowMachine

/-! ## The order of places -/

/-- A place comes before another: in an earlier line, or in an earlier column of the same line. -/
def Position.Before (p q : Position) : Prop := p.line < q.line ∨ p.line = q.line ∧ p.column < q.column

namespace Position

variable {p q r : Position} {w : List Char}

theorem Before.trans (h : p.Before q) (h' : q.Before r) : p.Before r := by
  unfold Before at *
  omega

theorem before_next (p : Position) (c : Char) : p.Before (p.next c) := by
  unfold next
  split
  · exact Or.inl (Nat.lt_succ_self _)
  · exact Or.inr ⟨rfl, Nat.lt_succ_self _⟩

/-- Behind a text is a later place, unless the text is empty. -/
theorem before_advance (p : Position) (hw : w ≠ []) : p.Before (p.advance w) := by
  induction w generalizing p with
  | nil => exact absurd rfl hw
  | cons c w ih =>
    change p.Before ((p.next c).advance w)
    cases w with
    | nil => exact p.before_next c
    | cons d w => exact (p.before_next c).trans (ih _ (List.cons_ne_nil d w))

theorem eq_or_before_advance (p : Position) (w : List Char) : p = p.advance w ∨ p.Before (p.advance w) := by
  cases w with
  | nil => exact Or.inl rfl
  | cons c w => exact Or.inr (p.before_advance (List.cons_ne_nil c w))

/-- Along a line the column counts characters. -/
theorem advance_of_no_feed (p : Position) (hw : '\n' ∉ w) :
    p.advance w = ⟨p.line, p.column + w.length⟩ := by
  induction w generalizing p with
  | nil => rfl
  | cons c w ih =>
    obtain ⟨hc, hw⟩ := List.ne_and_not_mem_of_not_mem_cons hw
    change (p.next c).advance w = _
    rw [ih _ hw, next, if_neg (Ne.symm hc), List.length_cons]
    simp only [mk.injEq, true_and]
    omega

end Position

/-! ## Reading at a place -/

/-- In the line of that number, as line feeds number lines, the text goes on with `w` from that column. -/
def Text.ReadsAt (cs : List Char) (p : Position) (w : List Char) : Prop :=
  0 < p.line ∧ 0 < p.column ∧
    ∃ line, (Text.fedLines cs)[p.line - 1]? = some line ∧ w <+: line.drop (p.column - 1)

namespace Rule

open ArrowMachine.Text

variable {cs w : List Char} {p : Position} {c d : Cursor} {l : Lexeme} {ls ms : List Lexeme}

/-- Each character of a word within a line stands in the line of the word, as many columns further. -/
theorem exists_fedLine_of_word (before after : List Char) (hfeed : '\n' ∉ w) {i : Nat} (hi : i < w.length) :
    ∃ cs, (fedLines (before ++ (w ++ after)))[(Position.start.advance before).line - 1]? = some cs ∧
      cs[(Position.start.advance before).column + i - 1]? = some w[i] := by
  have hsplit : before ++ (w ++ after) = before ++ w.take i ++ w[i] :: (w.drop (i + 1) ++ after) := by
    rw [List.append_assoc, ← List.cons_append, List.getElem_cons_drop, ← List.append_assoc (w.take i),
      List.take_append_drop]
  have hplace : Position.start.advance (before ++ w.take i) =
      ⟨(Position.start.advance before).line, (Position.start.advance before).column + i⟩ := by
    rw [Position.advance_append, Position.advance_of_no_feed _ fun hmem => hfeed (List.mem_of_mem_take hmem),
      List.length_take, Nat.min_eq_left (Nat.le_of_lt hi)]
  have hchar : w[i] ≠ '\n' := fun heq => hfeed (heq ▸ List.getElem_mem hi)
  obtain ⟨_, _, line, hl, hat⟩ := exists_fedLine (before ++ w.take i) (w.drop (i + 1) ++ after) hchar rfl
  rw [hplace] at hl hat
  exact ⟨line, hsplit ▸ hl, hat⟩

/-- **What a text goes on with at a place is read there,** in that line and from that column on. -/
theorem GoesOn.readsAt (h : GoesOn cs w p) (hne : w ≠ []) (hfeed : '\n' ∉ w) : ReadsAt cs p w := by
  obtain ⟨before, after, rfl, rfl⟩ := h
  obtain ⟨a, w, rfl⟩ := List.exists_cons_of_ne_nil hne
  have ha : a ≠ '\n' := fun heq => hfeed (heq ▸ List.mem_cons_self)
  obtain ⟨hline, hcolumn, line, hl, _⟩ := exists_fedLine before (w ++ after) ha rfl
  refine ⟨hline, hcolumn, line, hl, List.prefix_iff_getElem?.2 fun i hi => ?_⟩
  obtain ⟨line', hl', hat⟩ := exists_fedLine_of_word before after hfeed hi
  obtain rfl : line = line' := Option.some.inj (hl.symm.trans hl')
  rwa [List.getElem?_drop, ← Nat.sub_add_comm hcolumn]

theorem Terminal.Spells.ne_nil {k : Terminal} (h : k.Spells w) : w ≠ [] := by
  obtain ⟨a, w, rfl, _⟩ := opens_of_spells h
  exact List.cons_ne_nil a w

theorem PatternBody.no_feed (h : PatternBody w) : '\n' ∉ w := by
  induction h with
  | nil => exact List.not_mem_nil
  | plain _ _ hline _ ih => simp [Ne.symm hline, ih]
  | escaped hline _ ih => simp [Ne.symm hline, ih]

/-- No word goes over the end of a line. -/
theorem Terminal.Spells.no_feed {k : Terminal} (h : k.Spells w) : '\n' ∉ w := by
  cases hk : k.char? with
  | some a =>
    obtain rfl := (spells_sign hk).1 h
    cases k <;> cases hk <;> decide
  | none =>
    cases k with
    | name => exact fun hmem => absurd (h.2 _ hmem) (by decide)
    | symbol => exact fun hmem => absurd (h.2 _ hmem) (by decide)
    | regex =>
      obtain ⟨body, _, hbody, rfl⟩ := h
      simp [hbody.no_feed]
    | finish =>
      obtain ⟨_, hc, _⟩ := h
      cases hc
    | _ => cases hk

/-! ## Texts laid out -/

/-- **The text is laid out as the lexemes** from the place `p` on: each is a word of its kind that is not read
on, at its place if it keeps one, with any layout before, between and behind them. -/
inductive LaidOut : Position → List Char → List Lexeme → Prop
  | nil {p : Position} {cs : List Char} (hlast : LastLayout cs) : LaidOut p cs []
  | cons {p : Position} {lay w cs : List Char} {l : Lexeme} {ls : List Lexeme} (hlay : Layout lay)
      (hw : l.kind.Spells w) (hstop : ∀ c ∈ cs.head?, l.kind.goesOn c = false)
      (htext : ∀ s ∈ l.text, s.toList = w) (hplace : ∀ q ∈ l.place, q = p.advance lay)
      (h : LaidOut ((p.advance lay).advance w) cs ls) : LaidOut p (lay ++ (w ++ cs)) (l :: ls)

/-- **What is read up to the end of a text is how it is laid out.** -/
theorem Cursor.Reads.laidOut (h : c.Reads ls d) (hend : d.atEnd = true) : LaidOut c.pos c.rest ls := by
  induction h with
  | @nil c =>
    obtain ⟨lay, hrest, _, hlay⟩ := exists_skipped false c.rest c.pos
    have hnil : (skipLayout false c.rest c.pos).1 = [] := atEnd_iff.1 hend
    rw [hnil, List.append_nil] at hrest
    rw [hrest]
    exact .nil (hlay.elim Or.inl fun h => h.2)
  | @cons c e d t l ls ht hfits h ih =>
    obtain ⟨hspells, hcs, hstop⟩ := munch?_eq_some_iff.1 ht.munched
    obtain ⟨lay, hrest, hpos, hlay⟩ := exists_skipped false c.rest c.pos
    have hskip : (skipLayout false c.rest c.pos).1 = t.text.toList ++ e.rest := hcs
    have hplace : t.pos = c.pos.advance lay := ht.place.trans hpos
    rw [hskip] at hrest hlay
    rw [hrest]
    have hlayout : Layout lay := by
      refine hlay.elim id fun hnil => ?_
      exact absurd (List.append_eq_nil_iff.1 hnil.1).1 hspells.ne_nil
    have hih := ih hend
    rw [ht.behind, hplace] at hih
    refine .cons hlayout (hfits.kind ▸ hspells) (hfits.kind ▸ hstop) (fun s hs => ?_) (fun q hq => ?_) hih
    · rw [hfits.text s hs]
    · rw [← hplace, hfits.place q hq]

/-- **A text is laid out as the rules that it is read as.** -/
theorem laidOut_of_spellings {source : String} {rules : List Spelling} (h : spellings source = .ok rules) :
    LaidOut .start source.toList (rules.flatMap Spelling.lexemes) := by
  obtain ⟨d, hreads, hend⟩ := readSpellings_sound h
  exact hreads.laidOut hend

/-- Further lexemes are laid out behind some of the text, from the place to which that advances. -/
theorem LaidOut.drop (h : LaidOut p cs (ls ++ ms)) :
    ∃ before after, cs = before ++ after ∧ LaidOut (p.advance before) after ms := by
  induction ls generalizing p cs with
  | nil => exact ⟨[], cs, rfl, h⟩
  | cons l ls ih =>
    cases h with
    | @cons _ lay w cs _ _ _ _ _ _ _ h =>
      obtain ⟨before, after, rfl, hrest⟩ := ih h
      refine ⟨lay ++ (w ++ before), after, by simp, ?_⟩
      rwa [Position.advance_append, Position.advance_append]

theorem LaidOut.drop_infix (h : LaidOut p cs ls) (hslice : ms <:+: ls) :
    ∃ before after rest, cs = before ++ after ∧ LaidOut (p.advance before) after (ms ++ rest) := by
  obtain ⟨front, rest, rfl⟩ := hslice
  rw [List.append_assoc] at h
  obtain ⟨before, after, hcs, hrest⟩ := h.drop
  exact ⟨before, after, rest, hcs, hrest⟩

/-- The text goes on at the place with a word of the kind, and that is not read on. -/
def StandsWhole (cs : List Char) (k : Terminal) (w : List Char) (p : Position) : Prop :=
  k.Spells w ∧ ∃ before after, cs = before ++ (w ++ after) ∧ p = Position.start.advance before ∧
    ∀ c ∈ after.head?, k.goesOn c = false

theorem StandsWhole.goesOn {k : Terminal} (h : StandsWhole cs k w p) : GoesOn cs w p := by
  obtain ⟨_, before, after, hcs, hp, _⟩ := h
  exact ⟨before, after, hcs, hp⟩

/-- **A lexeme that is laid out stands at its place as a whole.** -/
theorem LaidOut.standsWhole (h : LaidOut .start cs ls) (hl : l ∈ ls) (hp : p ∈ l.place) :
    ∃ w, StandsWhole cs l.kind w p ∧ ∀ s ∈ l.text, s.toList = w := by
  obtain ⟨before, after, rest, rfl, hrest⟩ := h.drop_infix ((List.singleton_infix_iff _ _).2 hl)
  cases hrest with
  | @cons _ lay w cs _ _ _ hw hstop htext hplace _ =>
    refine ⟨w, ⟨hw, before ++ lay, cs, by simp, ?_, hstop⟩, htext⟩
    rw [Position.advance_append]
    exact hplace p hp

/-! ## Places in order -/

/-- The places of the lexemes that keep one. -/
def places (ls : List Lexeme) : List Position := ls.filterMap Lexeme.place

/-- **Places come later and later,** and none before the text begins. -/
theorem LaidOut.ascends (h : LaidOut p cs ls) :
    (places ls).Pairwise Position.Before ∧ ∀ q ∈ places ls, p = q ∨ p.Before q := by
  induction h with
  | nil => exact ⟨.nil, fun _ hq => (nomatch hq)⟩
  | @cons p lay w cs l ls _ hw _ _ hplace _ ih =>
    obtain ⟨hpairwise, hbehind⟩ := ih
    have hlate : ∀ q ∈ places ls, (p.advance lay).Before q := by
      intro q hq
      rcases hbehind q hq with rfl | hq
      · exact Position.before_advance _ hw.ne_nil
      · exact (Position.before_advance _ hw.ne_nil).trans hq
    have hfirst : ∀ q, (p.advance lay = q ∨ (p.advance lay).Before q) → p = q ∨ p.Before q := by
      rintro q (rfl | hq)
      · exact p.eq_or_before_advance lay
      · rcases p.eq_or_before_advance lay with heq | hbefore
        · rw [← heq] at hq
          exact Or.inr hq
        · exact Or.inr (hbefore.trans hq)
    cases hl : l.place with
    | none =>
      rw [places, List.filterMap_cons_none hl]
      exact ⟨hpairwise, fun q hq => hfirst q (Or.inr (hlate q hq))⟩
    | some q =>
      obtain rfl := hplace q hl
      rw [places, List.filterMap_cons_some hl]
      refine ⟨List.pairwise_cons.2 ⟨hlate, hpairwise⟩, List.forall_mem_cons.2 ⟨hfirst _ (Or.inl rfl), ?_⟩⟩
      exact fun q hq => hfirst q (Or.inr (hlate q hq))

end Rule

end ArrowMachine
