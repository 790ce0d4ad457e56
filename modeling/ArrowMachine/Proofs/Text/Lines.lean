import ArrowMachine.Diagnostic
import Mathlib.Data.List.Basic

/-!
Two ways to number the lines of a text.

A position counts line feeds, and a message quotes the lines of `Text.lines`, which end at other characters
as well. `fedLines` are the lines that positions count: what stands at a position is found in the line of
that number and in that column (`exists_fedLine`). The two numberings agree as far as no other line break
comes between (`take_keptLines`), and there a place is shown with the line that it is in and a caret under
its character (`exists_quotes`).
-/
namespace ArrowMachine.Text

/-! ## Lines that line feeds end -/

/-- The lines of a text as line feeds end them, each with its end. -/
def fedLines : List Char → List (List Char)
  | [] => []
  | c :: cs =>
    if c = '\n' then [c] :: fedLines cs
    else match fedLines cs with
      | [] => [[c]]
      | l :: ls => (c :: l) :: ls

/-- A line without its end, which is a line feed, perhaps with a carriage return before it. -/
def unended : List Char → List Char
  | [] => []
  | ['\n'] => []
  | ['\r', '\n'] => []
  | c :: cs => c :: unended cs

/-- Nothing breaks the line but its end. -/
def Whole (l : List Char) : Prop := ∀ c ∈ unended l, isLineBreak c = false

instance (l : List Char) : Decidable (Whole l) := inferInstanceAs (Decidable (∀ c ∈ unended l, _))

variable {cs l : List Char} {c : Char} {n : Nat}

theorem endsLine_feed (cs : List Char) : endsLine '\n' cs = true := rfl

theorem fedLines_feed (cs : List Char) : fedLines ('\n' :: cs) = ['\n'] :: fedLines cs := rfl

theorem fedLines_cons (hc : c ≠ '\n') (cs : List Char) :
    fedLines (c :: cs) = (c :: (fedLines cs).headD []) :: (fedLines cs).tail := by
  rw [fedLines, if_neg hc]
  cases fedLines cs <;> rfl

theorem flatten_fedLines (cs : List Char) : (fedLines cs).flatten = cs := by
  induction cs with
  | nil => rfl
  | cons c cs ih =>
    by_cases hc : c = '\n'
    · rw [hc, fedLines_feed, List.flatten_cons, ih]
      rfl
    · rw [fedLines_cons hc, List.flatten_cons, List.cons_append]
      congr 1
      cases hcs : fedLines cs with
      | nil => rw [hcs] at ih; exact ih
      | cons l ls => rw [hcs] at ih; exact ih

/-- Every line of `fedLines` ends a line of `keptLines`, too. -/
theorem length_fedLines_le (cs : List Char) : (fedLines cs).length ≤ (keptLines cs).length := by
  induction cs with
  | nil => exact Nat.le_refl _
  | cons c cs ih =>
    have hkept : (keptLines cs).length ≤ (keptLines (c :: cs)).length ∧ 0 < (keptLines (c :: cs)).length := by
      rw [keptLines]
      split
      · simp
      · cases keptLines cs <;> simp
    by_cases hc : c = '\n'
    · subst hc
      rw [fedLines_feed, keptLines, if_pos (endsLine_feed cs), List.length_cons, List.length_cons]
      omega
    · rw [fedLines_cons hc, List.length_cons, List.length_tail]
      omega

/-! ## Ends of lines -/

theorem unended_cons (hfeed : c :: l ≠ ['\n']) (hreturn : c :: l ≠ ['\r', '\n']) :
    unended (c :: l) = c :: unended l := by
  rw [unended]
  · rintro rfl rfl
    exact hfeed rfl
  · rintro rfl rfl
    exact hreturn rfl

/-- A line is what it is without its end, and then its end. -/
theorem exists_end (l : List Char) :
    ∃ e, l = unended l ++ e ∧ (e = [] ∨ e = ['\n'] ∨ e = ['\r', '\n']) := by
  induction l with
  | nil => exact ⟨[], rfl, Or.inl rfl⟩
  | cons c l ih =>
    by_cases hfeed : c :: l = ['\n']
    · exact ⟨['\n'], by rw [hfeed]; rfl, Or.inr (Or.inl rfl)⟩
    · by_cases hreturn : c :: l = ['\r', '\n']
      · exact ⟨['\r', '\n'], by rw [hreturn]; rfl, Or.inr (Or.inr rfl)⟩
      · obtain ⟨e, he, hends⟩ := ih
        exact ⟨e, by rw [unended_cons hfeed hreturn, List.cons_append, ← he], hends⟩

/-- A whole line up to its first break is the line without its end. -/
theorem Whole.takeWhile_eq (h : Whole l) : l.takeWhile (!isLineBreak ·) = unended l := by
  obtain ⟨e, he, hends⟩ := exists_end l
  have hbreaks : e.takeWhile (!isLineBreak ·) = [] := by
    rcases hends with rfl | rfl | rfl <;> decide
  conv_lhs => rw [he]
  rw [List.takeWhile_append_of_pos fun c hc => by simp [h c hc], hbreaks, List.append_nil]

/-- What stands in a line and is no part of a line end stands in the line without its end. -/
theorem getElem?_unended (h : l[n]? = some c) (hfeed : c ≠ '\n') (hreturn : c ≠ '\r') :
    (unended l)[n]? = some c := by
  obtain ⟨e, he, hends⟩ := exists_end l
  rw [he, List.getElem?_append] at h
  split at h
  · exact h
  · have hmem : c ∈ e := List.mem_of_getElem? h
    rcases hends with rfl | rfl | rfl <;> simp [hfeed, hreturn] at hmem

/-- A character before a whole line that makes a whole line with it ends no line. -/
theorem Whole.of_cons (h : Whole (c :: l)) (hc : c ≠ '\n') (ls : List (List Char)) :
    Whole l ∧ endsLine c (l ++ ls.flatten) = false := by
  by_cases hreturn : c :: l = ['\r', '\n']
  · obtain ⟨rfl, rfl⟩ := List.cons.inj hreturn
    exact ⟨fun _ hc => absurd hc List.not_mem_nil, rfl⟩
  · have hfeed : c :: l ≠ ['\n'] := fun heq => hc (List.cons.inj heq).1
    rw [Whole, unended_cons hfeed hreturn, List.forall_mem_cons] at h
    exact ⟨h.2, by rw [endsLine, h.1, Bool.false_and]⟩

/-- **Up to a line break of another kind, both numberings are the same.** -/
theorem take_keptLines (h : ∀ l ∈ (fedLines cs).take n, Whole l) :
    (keptLines cs).take n = (fedLines cs).take n := by
  induction cs generalizing n with
  | nil => rfl
  | cons c cs ih =>
    cases n with
    | zero => rfl
    | succ n =>
      by_cases hc : c = '\n'
      · subst hc
        rw [fedLines_feed, List.take_succ_cons, List.forall_mem_cons] at h
        rw [fedLines_feed, keptLines, if_pos (endsLine_feed cs), List.take_succ_cons,
          List.take_succ_cons, ih h.2]
      · rw [fedLines, if_neg hc] at h ⊢
        have hflat := flatten_fedLines cs
        cases hfed : fedLines cs with
        | nil =>
          rw [hfed] at hflat
          subst hflat
          rw [keptLines]
          split <;> rfl
        | cons l ls =>
          rw [hfed] at h hflat
          simp only [List.take_succ_cons, List.forall_mem_cons] at h
          obtain ⟨hwhole, hends⟩ := h.1.of_cons hc ls
          rw [List.flatten_cons] at hflat
          rw [hflat] at hends
          have hrest := ih (n := n + 1) (by
            rw [hfed, List.take_succ_cons, List.forall_mem_cons]
            exact ⟨hwhole, h.2⟩)
          rw [hfed] at hrest
          rw [keptLines, hends, if_neg Bool.false_ne_true]
          cases hkept : keptLines cs with
          | nil =>
            rw [hkept] at hrest
            cases hrest
          | cons k ks =>
            rw [hkept, List.take_succ_cons, List.take_succ_cons] at hrest
            obtain ⟨rfl, hks⟩ := List.cons.inj hrest
            rw [List.take_succ_cons, List.take_succ_cons, hks]

/-- A line that all lines up to it are whole with is quoted without its end. -/
theorem getElem?_lines (h : ∀ k ∈ (fedLines cs).take (n + 1), Whole k) (hl : (fedLines cs)[n]? = some l) :
    (lines cs)[n]? = some (unended l) := by
  have htake : ∀ ls : List (List Char), ls[n]? = (ls.take (n + 1))[n]? := fun ls => by
    rw [List.getElem?_take, if_pos (Nat.lt_succ_self n)]
  have hwhole : Whole l := by
    refine h l (List.mem_of_getElem? (i := n) ?_)
    rwa [← htake]
  rw [lines, List.getElem?_map, htake, take_keptLines h, ← htake, hl, Option.map_some,
    hwhole.takeWhile_eq]

/-! ## What stands at a position -/

/-- What stands behind `before`, which began at `q`, is found as many lines further as there are line feeds
between, in the column of its position; the first line has lost the columns in front of `q`. -/
theorem exists_fedLine_from (q : Position) (before after : List Char) (hc : c ≠ '\n') :
    ∃ k l s, (q.advance before).line = q.line + k ∧ (s = if k = 0 then q.column else 1) ∧
      s ≤ (q.advance before).column ∧ (fedLines (before ++ c :: after))[k]? = some l ∧
      l[(q.advance before).column - s]? = some c := by
  induction before generalizing q with
  | nil =>
    refine ⟨0, c :: (fedLines after).headD [], q.column, rfl, rfl, Nat.le_refl _, ?_, ?_⟩
    · rw [List.nil_append, fedLines_cons hc]
      rfl
    · rw [Position.advance_nil, Nat.sub_self]
      rfl
  | cons b before ih =>
    obtain ⟨k, l, s, hline, hs, hle, hl, hat⟩ := ih (q.next b)
    rw [show q.advance (b :: before) = (q.next b).advance before from rfl]
    by_cases hb : b = '\n'
    · subst hb
      have hone : s = 1 := by
        rw [hs]
        split <;> rfl
      rw [hone] at hle hat
      refine ⟨k + 1, l, 1, ?_, rfl, hle, ?_, hat⟩
      · rw [hline]
        change q.line + 1 + k = q.line + (k + 1)
        omega
      · rw [List.cons_append, fedLines_feed]
        exact hl
    · have hnext : q.next b = ⟨q.line, q.column + 1⟩ := if_neg hb
      rw [hnext] at hline hs hle hat ⊢
      rw [List.cons_append, fedLines_cons hb]
      cases k with
      | zero =>
        obtain rfl : s = q.column + 1 := hs
        refine ⟨0, b :: l, q.column, hline, rfl, Nat.le_of_succ_le hle, ?_, ?_⟩
        · rw [List.headD_eq_head?_getD, List.head?_eq_getElem?, hl]
          rfl
        · have hcolumn : (Position.advance ⟨q.line, q.column + 1⟩ before).column - q.column =
              (Position.advance ⟨q.line, q.column + 1⟩ before).column - (q.column + 1) + 1 := by omega
          rw [hcolumn]
          exact hat
      | succ k =>
        refine ⟨k + 1, l, s, hline, hs, hle, ?_, hat⟩
        rw [List.getElem?_cons_succ, List.getElem?_tail]
        exact hl

/-- **What stands at a position is in the line of its number**, and there in its column. -/
theorem exists_fedLine (before after : List Char) (hc : c ≠ '\n') {p : Position}
    (hp : p = Position.start.advance before) :
    0 < p.line ∧ 0 < p.column ∧ ∃ l, (fedLines (before ++ c :: after))[p.line - 1]? = some l ∧
      l[p.column - 1]? = some c := by
  obtain ⟨k, l, s, hline, hs, hle, hl, hat⟩ := exists_fedLine_from .start before after hc
  have hone : s = 1 := by
    rw [hs]
    split <;> rfl
  subst hp
  rw [hone] at hle hat
  have hk : (Position.start.advance before).line - 1 = k := by
    rw [hline]
    change 1 + k - 1 = k
    omega
  refine ⟨?_, hle, l, hk ▸ hl, hat⟩
  rw [hline]
  change 0 < 1 + k
  omega

end ArrowMachine.Text

namespace ArrowMachine

/-! ## What is shown of a place -/

namespace Diagnostic

open Text (lines fedLines unended Whole)

/-- A place as it is shown with a line of the source. -/
def quote (p : Position) (line : List Char) : String :=
  "- line " ++ toString p.line ++ ":\n" ++ String.ofList line ++ "\n" ++
    String.ofList (marker line p.column)

/-- The place is shown with its line of the text, as line feeds number lines and without its end, and with
a caret under its character: as many blanks before it as there are characters before the place, where a tab
stays a tab. -/
def Quotes (cs : List Char) (p : Position) (shown : String) : Prop :=
  ∃ line blanks, (fedLines cs)[p.line - 1]? = some line ∧
    p.column ≤ (unended line).length ∧ blanks.length = p.column - 1 ∧
    blanks = ((unended line).take (p.column - 1)).map (fun c => if c = '\t' then '\t' else ' ') ∧
    shown = "- line " ++ toString p.line ++ ":\n" ++ String.ofList (unended line) ++ "\n" ++
      String.ofList (blanks ++ ['^'])

variable {d : Diagnostic} {source : String} {p : Position} {line : List Char}

/-- A place is shown with its line in one way only. -/
theorem Quotes.unique {cs : List Char} {shown other : String} (h : Quotes cs p shown)
    (h' : Quotes cs p other) : shown = other := by
  obtain ⟨line, _, hline, _, _, rfl, rfl⟩ := h
  obtain ⟨line', _, hline', _, _, rfl, rfl⟩ := h'
  rw [Option.some.inj (hline.symm.trans hline')]

/-- A place whose line is a line of the source is shown with that. -/
theorem placeText?_of_line (hline : 0 < p.line) (hcolumn : 0 < p.column)
    (h : (lines source.toList)[p.line - 1]? = some line) :
    (d.attach source).placeText? p.place = some (quote p line) := by
  have hsource : (d.attach source).sourceLine? (some (p.line : Int)) = some line := by
    have hindex : ((p.line : Int) - 1).toNat = p.line - 1 := by omega
    unfold sourceLine? attach
    simp only [hindex, h]
    exact if_pos (by omega)
  rw [placeText?, Position.place]
  simp only [hsource]
  rw [if_neg (by omega), if_pos (by omega)]
  rfl

/-- Under a character of the line or behind its last one, the marker has a blank or a tab for each character
before. -/
theorem marker_of_le (h : p.column ≤ line.length + 1) : marker line p.column =
    (line.take (p.column - 1)).map (fun c => if c = '\t' then '\t' else ' ') ++ ['^'] := by
  have hlength : ((line.take (p.column - 1)).map fun c => if c = '\t' then '\t' else ' ').length =
      p.column - 1 := by
    rw [List.length_map, List.length_take]
    omega
  rw [marker]
  simp only [hlength, Nat.sub_self, List.replicate_zero, List.append_nil]

/-- **A place is shown with a line of the source**, wherever in the source it is. -/
theorem exists_quote (d : Diagnostic) {before after : List Char} {c : Char}
    (hsource : source.toList = before ++ c :: after) (hp : p = Position.start.advance before)
    (hfeed : c ≠ '\n') : ∃ line ∈ lines source.toList,
      (d.attach source).placeText? p.place = some (quote p line) := by
  obtain ⟨hline, hcolumn, l, hl, _⟩ := Text.exists_fedLine before after hfeed hp
  rw [← hsource] at hl
  have hshort : p.line - 1 < (lines source.toList).length := by
    have hfed := (List.getElem?_eq_some_iff.1 hl).1
    have hle := Text.length_fedLines_le source.toList
    rw [lines, List.length_map]
    omega
  have hquoted : (lines source.toList)[p.line - 1]? = some _ := List.getElem?_eq_getElem hshort
  exact ⟨_, List.mem_of_getElem? hquoted, placeText?_of_line hline hcolumn hquoted⟩

/-- **A place is shown with its own line**, if up to the end of that nothing but line ends breaks lines. -/
theorem exists_quotes (d : Diagnostic) {before after : List Char} {c : Char}
    (hsource : source.toList = before ++ c :: after) (hp : p = Position.start.advance before)
    (hfeed : c ≠ '\n') (hreturn : c ≠ '\r') (hwhole : ∀ l ∈ (fedLines source.toList).take p.line, Whole l) :
    ∃ shown, (d.attach source).placeText? p.place = some shown ∧ Quotes source.toList p shown := by
  obtain ⟨hline, hcolumn, l, hl, hat⟩ := Text.exists_fedLine before after hfeed hp
  rw [← hsource] at hl
  have hpred : p.line = p.line - 1 + 1 := by omega
  rw [hpred] at hwhole
  have hwithin : p.column ≤ (unended l).length := by
    have hlt := (List.getElem?_eq_some_iff.1 (Text.getElem?_unended hat hfeed hreturn)).1
    omega
  refine ⟨_, placeText?_of_line hline hcolumn (Text.getElem?_lines hwhole hl), l, _, hl, hwithin, ?_,
    rfl, ?_⟩
  · rw [List.length_map, List.length_take]
    omega
  · rw [quote, marker_of_le (Nat.le_succ_of_le hwithin)]

end Diagnostic

end ArrowMachine
