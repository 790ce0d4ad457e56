import ArrowMachine.Proofs.Text.Lines
import Mathlib.Data.List.TakeWhile

/-!
How a caret stands under a line with tabs.

A line is displayed with its tabs going on to the next tab stop. What comes before a place takes up as many
columns as blanks and tabs in its stead do, whatever the distance of the stops (`displayFrom_blanked`). So a
caret behind such blanks and tabs stands in the column where the line goes on (`caret_under_character`).
-/
namespace ArrowMachine.Text

/-- How many columns a tab takes up in a column, when there is a tab stop every `width` columns: those up to
the next stop, and none if there are no stops. -/
def tabRoom (width column : Nat) : Nat := width - column % width

/-- A line as it is displayed from a column on, with blanks for its tabs. Every other character takes up one
column. -/
def displayFrom (width column : Nat) : List Char → List Char
  | [] => []
  | c :: cs =>
    if c = '\t' then
      List.replicate (tabRoom width column) ' ' ++ displayFrom width (column + tabRoom width column) cs
    else c :: displayFrom width (column + 1) cs

/-- A whole line as it is displayed. -/
def display (width : Nat) (l : List Char) : List Char := displayFrom width 0 l

/-- How many columns the characters before place `i` of a line take up: the column that the line goes on in
from there. -/
def displayColumn (width : Nat) (l : List Char) (i : Nat) : Nat := (display width (l.take i)).length

/-- A tab, or a blank for any other character. -/
def blanked (c : Char) : Char := if c = '\t' then '\t' else ' '

variable {width : Nat} {c : Char} {l : List Char} {i : Nat}

theorem displayFrom_tab (width column : Nat) (cs : List Char) : displayFrom width column ('\t' :: cs) =
    List.replicate (tabRoom width column) ' ' ++ displayFrom width (column + tabRoom width column) cs := if_pos rfl

theorem displayFrom_cons (hc : c ≠ '\t') (width column : Nat) (cs : List Char) :
    displayFrom width column (c :: cs) = c :: displayFrom width (column + 1) cs := if_neg hc

theorem displayFrom_append (width column : Nat) (cs ds : List Char) :
    displayFrom width column (cs ++ ds) = displayFrom width column cs ++
      displayFrom width (column + (displayFrom width column cs).length) ds := by
  induction cs generalizing column with
  | nil => rfl
  | cons c cs ih =>
    by_cases hc : c = '\t'
    · subst hc
      rw [List.cons_append, displayFrom_tab, displayFrom_tab, ih, List.append_assoc, List.length_append,
        List.length_replicate, Nat.add_assoc]
    · rw [List.cons_append, displayFrom_cons hc, displayFrom_cons hc, ih, List.cons_append, List.length_cons,
        Nat.add_right_comm, Nat.add_assoc]

/-- **Blanks and tabs in the stead of characters take up the columns that those do.** -/
theorem displayFrom_blanked (width column : Nat) (cs : List Char) :
    displayFrom width column (cs.map blanked) =
      List.replicate (displayFrom width column cs).length ' ' := by
  induction cs generalizing column with
  | nil => rfl
  | cons c cs ih =>
    by_cases hc : c = '\t'
    · subst hc
      rw [List.map_cons, show blanked '\t' = '\t' from rfl, displayFrom_tab, displayFrom_tab, ih,
        List.replicate_append_replicate, List.length_append, List.length_replicate]
    · rw [List.map_cons, show blanked c = ' ' from if_neg hc, displayFrom_cons (by decide),
        displayFrom_cons hc, ih, List.length_cons, List.replicate_succ]

/-- From place `i` on, a line goes on in its display column. -/
theorem display_eq_append (width : Nat) (l : List Char) (i : Nat) :
    display width l = display width (l.take i) ++
      displayFrom width (displayColumn width l i) (l.drop i) := by
  have happend := displayFrom_append width 0 (l.take i) (l.drop i)
  rwa [List.take_append_drop, Nat.zero_add] at happend

/-- Any character but a tab is displayed in its display column, and behind the last one nothing is. -/
theorem getElem?_display (h : l[i]? ≠ some '\t') :
    (display width l)[displayColumn width l i]? = l[i]? := by
  rw [display_eq_append width l i, displayColumn, List.getElem?_append_right (Nat.le_refl _),
    Nat.sub_self, ← List.head?_eq_getElem?, ← List.head?_drop]
  cases hdrop : l.drop i with
  | nil => rfl
  | cons c cs =>
    have hc : c ≠ '\t' := by
      rintro rfl
      rw [← List.head?_drop, hdrop] at h
      exact h rfl
    rw [displayFrom_cons hc]
    rfl

theorem isLineBreak_of_mem_lines {cs : List Char} (h : l ∈ lines cs) :
    ∀ c ∈ l, isLineBreak c = false := by
  obtain ⟨l, -, rfl⟩ := List.mem_map.1 h
  intro c hc
  simpa using List.mem_takeWhile_imp hc

end ArrowMachine.Text

namespace ArrowMachine.Diagnostic

open Text (lines isLineBreak display displayFrom displayColumn blanked)

/-- **The caret lines up under tabs.** A place in a line of the source or just past its end is shown with the
line and a caret line below it, both without line breaks. Whatever the distance of tab stops, the caret is
displayed in the column that the line goes on in from the place: under its character if that is no tab,
where its blanks begin if it is one, and just past the end of a line that ends there. -/
theorem caret_under_character (d : Diagnostic) {source : String} {p : Position} {l : List Char}
    (hline : 0 < p.line) (h : (lines source.toList)[p.line - 1]? = some l)
    (hcolumn : 0 < p.column) (hwithin : p.column ≤ l.length + 1) :
    ∃ caret, (d.attach source).placeText? p.place = some ("- line " ++ toString p.line ++ ":\n" ++
        String.ofList l ++ "\n" ++ String.ofList caret) ∧
      (∀ c ∈ l ++ caret, isLineBreak c = false) ∧
      ∀ width, display width caret =
          List.replicate (displayColumn width l (p.column - 1)) ' ' ++ ['^'] ∧
        display width l = display width (l.take (p.column - 1)) ++
          displayFrom width (displayColumn width l (p.column - 1)) (l.drop (p.column - 1)) ∧
        (l[p.column - 1]? ≠ some '\t' →
          (display width l)[displayColumn width l (p.column - 1)]? = l[p.column - 1]?) := by
  refine ⟨(l.take (p.column - 1)).map blanked ++ ['^'], ?_, fun c hc => ?_, fun width => ⟨?_, ?_, ?_⟩⟩
  · rw [placeText?_of_line hline hcolumn h, quote, marker_of_le hwithin]
    rfl
  · rcases List.mem_append.1 hc with hc | hc
    · exact Text.isLineBreak_of_mem_lines (List.mem_of_getElem? h) c hc
    · rcases List.mem_append.1 hc with hc | hc
      · obtain ⟨b, -, rfl⟩ := List.mem_map.1 hc
        unfold blanked
        split <;> decide
      · rw [List.mem_singleton.1 hc]
        decide
  · rw [display, Text.displayFrom_append, Text.displayFrom_blanked]
    rfl
  · exact Text.display_eq_append width l (p.column - 1)
  · exact Text.getElem?_display

/-- In a line with tabs, a caret for its fifth character. With a tab stop every four columns, both are displayed
in the eighth column. -/
theorem caret_behind_tabs :
    let source := "\tab\tq -x> r"
    let d : Diagnostic := ⟨some "stray", [⟨some 1, some 5⟩], none⟩
    (0 < 1 ∧ (lines source.toList)[1 - 1]? = some source.toList ∧ 0 < 5 ∧ 5 ≤ source.toList.length + 1) ∧
    ∃ caret, (d.attach source).placeText? ⟨some 1, some 5⟩ =
        some ("- line 1:\n" ++ source ++ "\n" ++ String.ofList caret) ∧
      display 4 caret = "        ^".toList ∧ (display 4 source.toList)[8]? = some 'q' := by
  intro source d
  have hline : (lines source.toList)[(⟨1, 5⟩ : Position).line - 1]? = some source.toList := by decide
  have hwithin : (⟨1, 5⟩ : Position).column ≤ source.toList.length + 1 := by decide
  obtain ⟨caret, hshown, -, haligned⟩ :=
    caret_under_character d (p := ⟨1, 5⟩) (by decide) hline (by decide) hwithin
  obtain ⟨hcaret, -, hcharacter⟩ := haligned 4
  have hcolumn : displayColumn 4 source.toList ((⟨1, 5⟩ : Position).column - 1) = 8 := by decide
  rw [hcolumn] at hcaret hcharacter
  rw [String.ofList_toList] at hshown
  exact ⟨⟨by decide, hline, by decide, hwithin⟩, caret, hshown, hcaret,
    (hcharacter (by decide)).trans (by decide)⟩

end ArrowMachine.Diagnostic
