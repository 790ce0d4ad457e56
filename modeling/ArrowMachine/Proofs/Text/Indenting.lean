import ArrowMachine.Text.Page
import Mathlib.Data.List.Basic

/-!
Indentation composes.

A text that is indented has the lines that it had, each of them moved or, if it is blank, left alone
(`keptLines_indented`): a margin breaks no line, and a line feed that stays at the beginning of a line still
ends no carriage return. So two indents come to their sum (`indented_indented`).

Pieces that fill whole lines (`Filling`) write a text that ends with a line feed, so that what follows them
begins a line. Moving that text is the same as writing the pieces further right
(`Filling.indented_writeAll`), however deep their blocks are.
-/
namespace ArrowMachine.Text

variable {c : Char} {cs ds l : List Char} {ls : List (List Char)}

/-! ## Lines of a text -/

theorem ne_nil_of_mem_keptLines (h : l ∈ keptLines cs) : l ≠ [] := by
  induction cs generalizing l with
  | nil => cases h
  | cons c cs ih =>
    rw [keptLines] at h
    split at h
    · rcases List.mem_cons.1 h with rfl | h
      · exact List.cons_ne_nil c []
      · exact ih h
    · split at h
      · rw [List.mem_singleton.1 h]
        exact List.cons_ne_nil c []
      · next hrest =>
        rcases List.mem_cons.1 h with rfl | h
        · exact List.cons_ne_nil c _
        · exact ih (hrest ▸ List.mem_cons_of_mem _ h)

theorem keptLines_singleton (c : Char) : keptLines [c] = [[c]] := by
  rw [keptLines]
  split <;> rfl

theorem keptLines_cons_of_ends (h : endsLine c cs = true) : keptLines (c :: cs) = [c] :: keptLines cs := by
  rw [keptLines, if_pos h]

theorem keptLines_cons_of_goes_on (h : endsLine c cs = false) :
    keptLines (c :: cs) = (c :: (keptLines cs).headD []) :: (keptLines cs).tail := by
  rw [keptLines, h, if_neg Bool.false_ne_true]
  cases keptLines cs <;> rfl

/-- Behind a line feed begins a line. -/
theorem keptLines_append_of_feed (h : cs.getLast? = some '\n') (ds : List Char) :
    keptLines (cs ++ ds) = keptLines cs ++ keptLines ds := by
  induction cs with
  | nil => cases h
  | cons c cs ih =>
    cases cs with
    | nil =>
      obtain rfl : c = '\n' := Option.some.inj h
      rfl
    | cons b cs =>
      have hrest := ih h
      have hends : endsLine c (b :: cs ++ ds) = endsLine c (b :: cs) := rfl
      cases hc : endsLine c (b :: cs) with
      | true =>
        rw [List.cons_append, keptLines_cons_of_ends (hends.trans hc), hrest, keptLines_cons_of_ends hc]
        rfl
      | false =>
        have hne : keptLines (b :: cs) ≠ [] := keptLines_ne_nil (List.cons_ne_nil b cs)
        rw [List.cons_append, keptLines_cons_of_goes_on (hends.trans hc), hrest,
          keptLines_cons_of_goes_on hc]
        cases hkept : keptLines (b :: cs) with
        | nil => exact absurd hkept hne
        | cons l ls => rfl

/-- A text that is empty or ends with a line feed. -/
def Ended (cs : List Char) : Prop := cs = [] ∨ cs.getLast? = some '\n'

theorem ended_snoc (cs : List Char) : Ended (cs ++ ['\n']) := Or.inr List.getLast?_concat

theorem Ended.append (h : Ended cs) (h' : Ended ds) : Ended (cs ++ ds) := by
  obtain rfl | h' := h'
  · rwa [List.append_nil]
  · exact Or.inr (by rw [List.getLast?_append, h', Option.some_or])

theorem Ended.keptLines_append (h : Ended cs) (ds : List Char) :
    keptLines (cs ++ ds) = keptLines cs ++ keptLines ds := by
  obtain rfl | h := h
  · rfl
  · exact keptLines_append_of_feed h ds

/-- What a row writes is one line. -/
theorem keptLines_row (h : ∀ c ∈ l, isLineBreak c = false) : keptLines (l ++ ['\n']) = [l ++ ['\n']] := by
  induction l with
  | nil => rfl
  | cons c l ih =>
    obtain ⟨hc, hl⟩ := List.forall_mem_cons.1 h
    have hends : endsLine c (l ++ ['\n']) = false := by rw [endsLine, hc, Bool.false_and]
    rw [List.cons_append, keptLines_cons_of_goes_on hends, ih hl]
    rfl

/-- What is left behind the first line has the other lines. -/
theorem keptLines_flatten_tail (h : keptLines cs = l :: ls) : keptLines ls.flatten = ls := by
  induction cs generalizing l with
  | nil => cases h
  | cons c cs ih =>
    cases hc : endsLine c cs with
    | true =>
      rw [keptLines_cons_of_ends hc] at h
      obtain ⟨-, rfl⟩ := List.cons.inj h
      rw [flatten_keptLines]
    | false =>
      rw [keptLines_cons_of_goes_on hc] at h
      obtain ⟨-, hls⟩ := List.cons.inj h
      cases hkept : keptLines cs with
      | nil =>
        rw [← hls, hkept]
        rfl
      | cons k ks =>
        rw [hkept] at hls
        obtain rfl : ks = ls := hls
        exact ih hkept

/-- A first line stays one when something else stands behind it, unless that begins with a line feed that
would join a carriage return. -/
theorem keptLines_line_congr {rest rest' : List Char} (hl : l ≠ [])
    (h : keptLines (l ++ rest) = l :: keptLines rest) (hempty : rest = [] → rest' = [])
    (hfeed : rest'.head? = some '\n' → rest.head? = some '\n') :
    keptLines (l ++ rest') = l :: keptLines rest' := by
  induction l with
  | nil => exact absurd rfl hl
  | cons c l ih =>
    cases l with
    | nil =>
      rw [List.singleton_append] at h ⊢
      cases hc : endsLine c rest with
      | true =>
        have hends : endsLine c rest' = true := by
          simp only [endsLine, Bool.and_eq_true, Bool.not_eq_true', Bool.and_eq_false_imp, decide_eq_true_eq,
            decide_eq_false_iff_not] at hc ⊢
          exact ⟨hc.1, fun hreturn hhead => hc.2 hreturn (hfeed hhead)⟩
        exact keptLines_cons_of_ends hends
      | false =>
        rw [keptLines_cons_of_goes_on hc] at h
        cases hkept : keptLines rest with
        | nil =>
          obtain rfl : rest = [] := by rw [← flatten_keptLines rest, hkept]; rfl
          rw [hempty rfl]
          exact keptLines_singleton c
        | cons k ks =>
          rw [hkept] at h
          exact absurd (List.cons.inj (List.cons.inj h).1).2
            (ne_nil_of_mem_keptLines (hkept ▸ List.mem_cons_self))
    | cons b l =>
      have hsame : endsLine c (b :: l ++ rest') = endsLine c (b :: l ++ rest) := rfl
      obtain ⟨k, ks, hkept⟩ := List.exists_cons_of_ne_nil
        (keptLines_ne_nil (List.cons_ne_nil b (l ++ rest)))
      cases hc : endsLine c (b :: l ++ rest) with
      | true =>
        rw [List.cons_append, keptLines_cons_of_ends hc] at h
        cases (List.cons.inj h).1
      | false =>
        rw [List.cons_append, keptLines_cons_of_goes_on hc, List.cons_append, hkept] at h
        obtain ⟨hk, hks⟩ := List.cons.inj h
        have hfirst := ih (List.cons_ne_nil b l)
          (by rw [List.cons_append, hkept, ← hks, show k = b :: l from (List.cons.inj hk).2]; rfl)
        rw [List.cons_append, keptLines_cons_of_goes_on (hsame.trans hc), hfirst]
        rfl

namespace Page

/-! ## Texts that are moved -/

/-- A line that is moved right, if it is not blank. -/
def moved (i : Int) (l : List Char) : List Char := if l.all isBlank then l else margin i ++ l

variable {i j : Int}

theorem moved_of_blank (h : l.all isBlank = true) (i : Int) : moved i l = l := if_pos h

theorem moved_of_not_blank (h : l.all isBlank = false) (i : Int) : moved i l = margin i ++ l := by
  rw [moved, h, if_neg Bool.false_ne_true]

theorem indented_eq_flatMap (i : Int) (cs : List Char) : indented i cs = (keptLines cs).flatMap (moved i) := rfl

theorem indented_append (h : Ended cs) (i : Int) (ds : List Char) :
    indented i (cs ++ ds) = indented i cs ++ indented i ds := by
  rw [indented_eq_flatMap, h.keptLines_append, List.flatMap_append]
  rfl

theorem all_isBlank_margin (i : Int) : (margin i).all isBlank = true := by
  rw [List.all_eq_true]
  intro c hc
  rw [List.eq_of_mem_replicate hc]
  decide

/-- A line stays blank when it is moved, or not blank. -/
theorem all_isBlank_moved (i : Int) (l : List Char) : (moved i l).all isBlank = l.all isBlank := by
  cases h : l.all isBlank with
  | true => rw [moved_of_blank h, h]
  | false => rw [moved_of_not_blank h, List.all_append, all_isBlank_margin, h, Bool.true_and]

theorem margin_add (hi : 0 ≤ i) (hj : 0 ≤ j) : margin (i + j) = margin i ++ margin j := by
  unfold margin
  rw [List.replicate_append_replicate, Int.toNat_add hi hj]

/-- Two moves come to one by the sum. -/
theorem moved_moved (hi : 0 ≤ i) (hj : 0 ≤ j) (l : List Char) : moved i (moved j l) = moved (i + j) l := by
  cases h : l.all isBlank with
  | true => rw [moved_of_blank h, moved_of_blank h, moved_of_blank h]
  | false =>
    rw [moved_of_not_blank ((all_isBlank_moved j l).trans h), moved_of_not_blank h, moved_of_not_blank h,
      margin_add hi hj, List.append_assoc]

theorem head?_moved (h : (moved i l).head? = some '\n') : l.head? = some '\n' := by
  cases hblank : l.all isBlank with
  | true => rwa [moved_of_blank hblank] at h
  | false =>
    rw [moved_of_not_blank hblank, margin] at h
    cases hn : i.toNat with
    | zero => rwa [hn] at h
    | succ n =>
      rw [hn, List.replicate_succ] at h
      cases h

theorem getLast?_moved (hl : l ≠ []) (i : Int) : (moved i l).getLast? = l.getLast? := by
  cases hblank : l.all isBlank with
  | true => rw [moved_of_blank hblank]
  | false => rw [moved_of_not_blank hblank, List.getLast?_append_of_ne_nil _ hl]

theorem moved_ne_nil (hl : l ≠ []) (i : Int) : moved i l ≠ [] := by
  intro h
  have hlast := getLast?_moved hl i
  rw [h] at hlast
  exact hl (List.getLast?_eq_none_iff.1 hlast.symm)

/-- A margin before a line breaks no line. -/
theorem keptLines_margin_append {rest : List Char} (h : keptLines (l ++ rest) = l :: keptLines rest)
    (i : Int) : keptLines (margin i ++ l ++ rest) = (margin i ++ l) :: keptLines rest := by
  unfold margin
  induction i.toNat with
  | zero => exact h
  | succ n ih =>
    have hblank : endsLine ' ' (List.replicate n ' ' ++ l ++ rest) = false := rfl
    rw [List.replicate_succ, List.cons_append, List.cons_append, keptLines_cons_of_goes_on hblank, ih]
    rfl

/-- Lines that are moved are the lines of what they make up. -/
theorem keptLines_flatMap_moved (h : keptLines ls.flatten = ls) (i : Int) :
    keptLines (ls.flatMap (moved i)) = ls.map (moved i) := by
  induction ls with
  | nil => rfl
  | cons l ls ih =>
    have hrest : keptLines ls.flatten = ls := keptLines_flatten_tail h
    have hl : l ≠ [] := ne_nil_of_mem_keptLines (h ▸ List.mem_cons_self)
    have hempty : ls.flatten = [] → ls.flatMap (moved i) = [] := by
      intro hflatten
      rw [hflatten] at hrest
      rw [← hrest]
      rfl
    have hfeed : (ls.flatMap (moved i)).head? = some '\n' → ls.flatten.head? = some '\n' := by
      intro hhead
      cases ls with
      | nil => cases hhead
      | cons k ks =>
        have hk : k ≠ [] := ne_nil_of_mem_keptLines (hrest ▸ List.mem_cons_self)
        rw [List.flatMap_cons, List.head?_append_of_ne_nil _ (moved_ne_nil hk i)] at hhead
        rw [List.flatten_cons, List.head?_append_of_ne_nil _ hk]
        exact head?_moved hhead
    have hline : keptLines (l ++ ls.flatMap (moved i)) = l :: keptLines (ls.flatMap (moved i)) :=
      keptLines_line_congr hl (by rw [← List.flatten_cons, h, hrest]) hempty hfeed
    rw [List.flatMap_cons, List.map_cons, ← ih hrest]
    cases hblank : l.all isBlank with
    | true => rw [moved_of_blank hblank, hline]
    | false => rw [moved_of_not_blank hblank, keptLines_margin_append hline]

/-- **An indented text has the lines of the text**, moved if they are not blank. -/
theorem keptLines_indented (i : Int) (cs : List Char) :
    keptLines (indented i cs) = (keptLines cs).map (moved i) :=
  keptLines_flatMap_moved (congrArg keptLines (flatten_keptLines cs)) i

/-- **Two indents come to their sum.** -/
theorem indented_indented (hi : 0 ≤ i) (hj : 0 ≤ j) (cs : List Char) :
    indented i (indented j cs) = indented (i + j) cs := by
  have hmoved : (keptLines cs).map (fun l => moved i (moved j l)) = (keptLines cs).map (moved (i + j)) :=
    List.map_congr_left fun l _ => moved_moved hi hj l
  rw [indented_eq_flatMap, keptLines_indented, List.flatMap_map, indented_eq_flatMap, List.flatMap_def,
    List.flatMap_def, hmoved]

/-- A text that is indented ends like the text. -/
theorem getLast?_indented (i : Int) (cs : List Char) : (indented i cs).getLast? = cs.getLast? := by
  have hlines : ∀ ls : List (List Char), (∀ l ∈ ls, l ≠ []) →
      (ls.flatMap (moved i)).getLast? = ls.flatten.getLast? := by
    intro ls hls
    induction ls with
    | nil => rfl
    | cons l ls ih =>
      obtain ⟨hl, hrest⟩ := List.forall_mem_cons.1 hls
      rw [List.flatMap_cons, List.flatten_cons, List.getLast?_append, List.getLast?_append, ih hrest,
        getLast?_moved hl]
  rw [indented_eq_flatMap, hlines _ fun l hl => ne_nil_of_mem_keptLines hl, flatten_keptLines]

/-! ## Pieces that fill whole lines -/

/-- Rows of one line that is not blank, texts that end with a line feed, and blocks of such pieces. -/
inductive Filling : List Piece → Prop
  | nil : Filling []
  | row {words : List String} {ps : List Piece}
      (hone : ∀ c ∈ (" ".intercalate words).toList, isLineBreak c = false)
      (hfilled : (" ".intercalate words).toList.all isBlank = false) (hrest : Filling ps) :
      Filling (.row words :: ps)
  | text {s : String} {ps : List Piece} (hends : s.toList.getLast? = some '\n') (hrest : Filling ps) :
      Filling (.text s :: ps)
  | block {ps qs : List Piece} (hblock : Filling ps) (hrest : Filling qs) : Filling (.block ps :: qs)

variable {ps : List Piece}

/-- What filling pieces write ends with a line feed, if it is anything. -/
theorem Filling.ended_writeAll (h : Filling ps) (i : Int) : Ended (writeAll i ps) := by
  induction h generalizing i with
  | nil => exact Or.inl rfl
  | @row words ps _ _ _ ih =>
    rw [writeAll, Piece.write, Page.row]
    exact (ended_snoc _).append (ih i)
  | @text s ps hends _ ih =>
    have htext : Ended (indented i s.toList) := Or.inr ((getLast?_indented i s.toList).trans hends)
    rw [writeAll, Piece.write]
    exact htext.append (ih i)
  | block _ _ ihblock ih =>
    rw [writeAll, Piece.write]
    exact (ihblock _).append (ih i)

/-- A row that is not blank is one line and is moved. -/
theorem indented_row {words : List String} (hone : ∀ c ∈ (" ".intercalate words).toList, isLineBreak c = false)
    (hfilled : (" ".intercalate words).toList.all isBlank = false) (hi : 0 ≤ i) (hj : 0 ≤ j) :
    indented i (row j words) = row (i + j) words := by
  have hmargin : ∀ c ∈ margin j ++ (" ".intercalate words).toList, isLineBreak c = false := by
    intro c hc
    rcases List.mem_append.1 hc with hc | hc
    · rw [List.eq_of_mem_replicate hc]
      decide
    · exact hone c hc
  have hblank : (margin j ++ (" ".intercalate words).toList ++ ['\n']).all isBlank = false := by
    rw [List.all_append, List.all_append, hfilled, Bool.and_false, Bool.false_and]
  rw [row, row, indented_eq_flatMap, keptLines_row hmargin, List.flatMap_singleton,
    moved_of_not_blank hblank, margin_add hi hj, List.append_assoc, List.append_assoc, List.append_assoc]

/-- **Moving what filling pieces have written is writing them further right.** -/
theorem Filling.indented_writeAll (h : Filling ps) (hi : 0 ≤ i) (hj : 0 ≤ j) :
    indented i (writeAll j ps) = writeAll (i + j) ps := by
  induction h generalizing j with
  | nil => rfl
  | @row words ps hone hfilled _ ih =>
    have hended : Ended (Page.row j words) := ended_snoc _
    rw [writeAll, writeAll, Piece.write, Piece.write, indented_append hended, ih hj,
      indented_row hone hfilled hi hj]
  | @text s ps hends _ ih =>
    have hended : Ended (indented j s.toList) := Or.inr ((getLast?_indented j s.toList).trans hends)
    rw [writeAll, writeAll, Piece.write, Piece.write, indented_append hended, ih hj,
      indented_indented hi hj]
  | @block ps qs hblock _ ihblock ih =>
    have hdeeper : 0 ≤ j + (blockWidth : Int) := Int.add_nonneg hj (by decide)
    rw [writeAll, writeAll, Piece.write, Piece.write, indented_append (hblock.ended_writeAll _), ih hj,
      ihblock hdeeper, Int.add_assoc]

theorem toList_render_text (s : String) (i : Int) : (render [.text s] i).toList = indented i s.toList := by
  rw [render, String.toList_ofList, writeAll, writeAll, List.append_nil, Piece.write]

/-- **Indentation composes.** Pieces that fill whole lines and are written with no indent make up a text; adding
it to a page with any indent gives what the pieces give when they are written there. And a text that goes
through two indents, or through the indent of a page and that of a block on it, keeps its lines: each that
is not blank is moved by both together, and the blank ones stay as they are. -/
theorem indents_compose :
    (∀ ps : List Piece, Filling ps → ∀ k : Nat, render [.text (render ps 0)] k = render ps k) ∧
    ∀ (s : String) (i j : Nat),
      keptLines (render [.text (render [.text s] i)] j).toList = (keptLines s.toList).map (fun l =>
        if l.all isBlank then l else List.replicate (j + i) ' ' ++ l) ∧
      keptLines (render [.block [.text s]] j).toList = (keptLines s.toList).map (fun l =>
        if l.all isBlank then l else List.replicate (j + blockWidth) ' ' ++ l) := by
  refine ⟨fun ps hps k => ?_, fun s i j => ⟨?_, ?_⟩⟩
  · have hmoved := hps.indented_writeAll (Int.natCast_nonneg k) (Int.le_refl 0)
    rw [Int.add_zero] at hmoved
    rw [← String.toList_inj, toList_render_text, render, String.toList_ofList, hmoved, render,
      String.toList_ofList]
  · rw [toList_render_text, toList_render_text,
      indented_indented (Int.natCast_nonneg j) (Int.natCast_nonneg i), keptLines_indented]
    rfl
  · rw [render, String.toList_ofList, writeAll, writeAll, List.append_nil, Piece.write, writeAll, writeAll,
      List.append_nil, Piece.write, keptLines_indented]
    rfl

/-- A row, a block with a text that has a blank line, an empty block and a text whose lines end in several ways. -/
def mixed : List Piece :=
  [.row ["var", "x"], .block [.text "a\r\n \n  b\n", .block []], .text "c\rd\u2028\n"]

/-- They come out with three columns more when they are moved by three columns; the blank lines do not. -/
theorem mixed_composes : Filling mixed ∧ render [.text (render mixed 0)] 3 = render mixed 3 ∧
    render mixed 3 = "   var x\n       a\r\n \n         b\n   c\r   d\u2028\n" := by
  have hall : (" ".intercalate ["var", "x"]).toList.all (!isLineBreak ·) = true := by decide
  have hone : ∀ c ∈ (" ".intercalate ["var", "x"]).toList, isLineBreak c = false :=
    fun c hc => by simpa using List.all_eq_true.1 hall c hc
  have hfilling : Filling mixed :=
    .row hone (by decide) (.block (.text (by decide) (.block .nil .nil)) (.text (by decide) .nil))
  exact ⟨hfilling, indents_compose.1 mixed hfilling 3, by decide⟩

end Page

end ArrowMachine.Text
