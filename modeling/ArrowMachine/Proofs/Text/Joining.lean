import ArrowMachine.Proofs.Text.Readable
import ArrowMachine.Text.Blank

/-!
Words that are joined, and lines that are printed.

Words that are joined with a separator between them can be told from what they are joined to, as long as none
of them holds the character that the separator begins with (`intercalate_inj`); so can lines that are printed,
as long as none of them holds a line feed (`printed_inj`). A text without blanks is `Solid`: it can stand
between spaces, in a line.
-/
namespace ArrowMachine.Text

variable {s t sep : String} {c : Char} {w : List Char} {ss ts : List String}

/-- Words can be told from what they are joined to, if the separator begins with a character that none of them
holds, nor the rest of the separator. -/
theorem intercalate_inj (hsep : sep.toList = c :: w) (hw : c ∉ w) (hs : ∀ s ∈ ss, c ∉ s.toList)
    (ht : ∀ t ∈ ts, c ∉ t.toList) (hss : ss ≠ []) (hts : ts ≠ [])
    (h : sep.intercalate ss = sep.intercalate ts) : ss = ts := by
  have hjoined : ∀ (l : List Char) (ss : List String),
      l ++ ss.flatMap (fun t => sep.toList ++ t.toList) = [c].intercalate (l :: ss.map (w ++ ·.toList)) := by
    intro l ss
    induction ss generalizing l with
    | nil => simp
    | cons t ss ih =>
      rw [List.map_cons, List.intercalate_cons_cons, ← ih, List.flatMap_cons, hsep]
      simp
  -- Cut at that character, every word but the first has the rest of the separator in front.
  have hcut : ∀ (s : String) (ss : List String), (∀ t ∈ s :: ss, c ∉ t.toList) →
      (sep.intercalate (s :: ss)).toList.splitOn c = s.toList :: ss.map (w ++ ·.toList) := by
    intro s ss hwords
    obtain ⟨hs, hss⟩ := List.forall_mem_cons.1 hwords
    rw [toList_intercalate_cons, hjoined, List.splitOn_intercalate c ?_ (List.cons_ne_nil _ _)]
    refine List.forall_mem_cons.2 ⟨hs, fun l hl => ?_⟩
    obtain ⟨t, ht, rfl⟩ := List.mem_map.1 hl
    simpa using ⟨hw, hss t ht⟩
  obtain ⟨s, ss, rfl⟩ := List.exists_cons_of_ne_nil hss
  obtain ⟨t, ts, rfl⟩ := List.exists_cons_of_ne_nil hts
  have hpieces := congrArg (fun text : String => text.toList.splitOn c) h
  simp only [hcut s ss hs, hcut t ts ht] at hpieces
  obtain ⟨hhead, htail⟩ := List.cons.inj hpieces
  have hinjective : Function.Injective fun t : String => w ++ t.toList := fun _ _ heq =>
    String.toList_inj.1 (List.append_cancel_left heq)
  rw [String.toList_inj.1 hhead, List.map_injective_iff.2 hinjective htail]

/-! ## Texts without blanks -/

/-- No blank stands in the text. -/
def Solid (s : String) : Prop := ∀ c ∈ s.toList, isBlank c = false

theorem Solid.not_mem (h : Solid s) (hc : isBlank c = true) : c ∉ s.toList := by
  intro hmem
  rw [h c hmem] at hc
  cases hc

theorem solid_of_all (h : s.toList.all (!isBlank ·) = true) : Solid s := by
  simpa [Solid, List.all_eq_true] using h

theorem solid_append (hs : Solid s) (ht : Solid t) : Solid (s ++ t) := by
  intro c hc
  rw [String.toList_append] at hc
  exact (List.mem_append.1 hc).elim (hs c) (ht c)

/-- A character that is in no word, and not in the separator, is not in what the words are joined to. -/
theorem not_mem_intercalate (hsep : c ∉ sep.toList) (h : ∀ s ∈ ss, c ∉ s.toList) :
    c ∉ (sep.intercalate ss).toList := by
  cases ss with
  | nil => simp
  | cons s ss =>
    obtain ⟨hs, hss⟩ := List.forall_mem_cons.1 h
    rw [toList_intercalate_cons, List.mem_append, List.mem_flatMap]
    rintro (hc | ⟨t, ht, hc⟩)
    · exact hs hc
    · exact (List.mem_append.1 hc).elim hsep (hss t ht)

theorem solid_intercalate (hsep : Solid sep) (h : ∀ s ∈ ss, Solid s) : Solid (sep.intercalate ss) := by
  intro c hc
  by_contra hblank
  rw [Bool.not_eq_false] at hblank
  exact not_mem_intercalate (hsep.not_mem hblank) (fun s hs => (h s hs).not_mem hblank) hc

theorem solid_int (n : Int) : Solid (toString n) := by
  intro c hc
  rcases isDigit_or_minus_of_mem_int hc with hdigit | rfl
  · have hdigits : ∀ n < 58, 48 ≤ n → isBlank (Char.ofNat n) = false := by decide
    rw [Char.isDigit_iff_toNat] at hdigit
    have hblank := hdigits c.toNat (Nat.lt_succ_of_le hdigit.2) hdigit.1
    rwa [Char.ofNat_toNat] at hblank
  · decide

/-! ## Lines -/

/-- The text that lines are printed as. -/
def printed (lines : List String) : String := String.join (lines.map (· ++ "\n"))

theorem printed_eq (lines : List String) : printed lines = "\n".intercalate (lines ++ [""]) := by
  refine String.toList_inj.1 ?_
  unfold printed
  induction lines with
  | nil => simp
  | cons l lines ih =>
    rw [List.cons_append, String.intercalate_cons_of_ne_nil (List.concat_ne_nil _ _), String.toList_append, ← ih]
    simp

/-- Lines can be told from what they are printed as. -/
theorem printed_inj (hs : ∀ s ∈ ss, '\n' ∉ s.toList) (ht : ∀ t ∈ ts, '\n' ∉ t.toList)
    (h : printed ss = printed ts) : ss = ts := by
  have hends : ∀ ls : List String, (∀ l ∈ ls, '\n' ∉ l.toList) → ∀ l ∈ ls ++ [""], '\n' ∉ l.toList := by
    intro ls hls l hl
    rcases List.mem_append.1 hl with hl | hl
    · exact hls l hl
    · simp [List.mem_singleton.1 hl]
  rw [printed_eq, printed_eq] at h
  exact List.append_cancel_right (intercalate_inj (c := '\n') rfl List.not_mem_nil (hends ss hs) (hends ts ht)
    (List.concat_ne_nil _ _) (List.concat_ne_nil _ _) h)

end ArrowMachine.Text
