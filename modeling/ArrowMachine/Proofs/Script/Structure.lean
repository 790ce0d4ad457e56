import ArrowMachine.Proofs.Script.Composing
import Mathlib

/-!
Data cannot break the structure of a script.

A script is made of rows that are neat one after the other (`sheet_flat`): tidy pieces are, wherever they
stand (`Tidy.sheet`). Hence it is nested, prints, and closes its literals line by line
(`generate_structured`).
-/
namespace ArrowMachine.Script

open Text (Mode outside Nested Neat neat_of_plain neat_nil scan scan_append scan_cons scanStep_of_plain
  outside_append nested_of_scan)
open Text.Page (Piece margin writeAll render blockWidth)

variable {before behind further : List Char}

/-! ## Rows -/

/-- A text made of neat rows. Its brackets come to have `behind` to be closed when there was `before`. -/
inductive Sheet : (cs before behind : List Char) → Prop
  | nil (awaited : List Char) : Sheet [] awaited awaited
  | row {l cs before behind further : List Char} (hrow : Neat l before behind)
      (hrest : Sheet cs behind further) : Sheet (l ++ '\n' :: cs) before further

theorem Sheet.append {cs ds : List Char} (h : Sheet cs before behind) (h' : Sheet ds behind further) :
    Sheet (cs ++ ds) before further := by
  induction h with
  | nil => exact h'
  | row hrow _ ih =>
    rw [List.append_assoc, List.cons_append]
    exact .row hrow (ih h')

theorem not_mem_of_neat {l : List Char} (h : Neat l before behind) : '\n' ∉ l := by
  intro hmem
  have hprints := (h.prints '\n' hmem).1
  revert hprints
  decide

theorem Sheet.prints {cs : List Char} (h : Sheet cs before behind) :
    ∀ c ∈ cs, c = '\n' ∨ ' ' ≤ c ∧ c ≤ '~' := by
  induction h with
  | nil => exact fun _ hc => (nomatch hc)
  | row hrow _ ih =>
    intro c hc
    rcases List.mem_append.1 hc with hc | hc
    · exact Or.inr (hrow.prints c hc)
    · exact (List.mem_cons.1 hc).elim Or.inl (ih c)

/-- Every line is read from code to code. -/
theorem Sheet.lines_closed {cs : List Char} (h : Sheet cs before behind) :
    ∀ l ∈ cs.splitOn '\n', l.foldl Mode.next .code = .code := by
  induction h with
  | nil => simp
  | row hrow _ ih =>
    rw [List.splitOn_append_cons_self_of_not_mem (not_mem_of_neat hrow)]
    exact List.forall_mem_cons.2 ⟨hrow.closed, ih⟩

theorem Sheet.scanned {cs : List Char} (h : Sheet cs before behind) :
    scan before (outside .code cs) = some behind := by
  induction h with
  | nil => rfl
  | @row l cs before behind further hrow _ ih =>
    have hbreak : outside .code ('\n' :: cs) = '\n' :: outside .code cs := rfl
    rw [outside_append, hrow.closed, hbreak]
    exact scan_append hrow.scanned (scan_cons.2 ⟨behind, scanStep_of_plain rfl rfl behind, ih⟩)

theorem neat_margin (i : Int) (awaited : List Char) : Neat (margin i) awaited awaited := by
  refine neat_of_plain (fun c hc => ?_) awaited
  rw [List.eq_of_mem_replicate hc]
  decide

theorem Tidy.sheet (h : Tidy ps before behind) (i : Int) : Sheet (writeAll i ps) before behind := by
  induction h generalizing i with
  | nil awaited => exact .nil awaited
  | line hrow _ _ ih =>
    rw [writeAll, write_line, List.append_assoc]
    exact .row ((neat_margin i _).append hrow) (ih i)
  | block _ _ hblock ih =>
    rw [writeAll]
    exact (hblock (i + blockWidth)).append (ih i)

/-! ## Scripts -/

section Scripts

variable {name : String} (hname : ∀ awaited, Neat name.toList awaited awaited)

include hname

/-- The rows of a script that say what it is. -/
theorem tidy_heading : Tidy [
    line ("// ============================" ++ String.ofList (List.replicate name.length '=')),
    line ("// source file for nfsm machine " ++ name),
    line ("// ============================" ++ String.ofList (List.replicate name.length '='))] [] [] := by
  have hrule : Neat (String.ofList (List.replicate name.length '=')).toList [] [] := by
    rw [String.toList_ofList]
    refine neat_of_plain (fun c hc => ?_) []
    rw [List.eq_of_mem_replicate hc]
    decide
  have hrow := (neat_fixed "// ============================" [] [] (by decide) []).append hrule
  have hsource :=
    (neat_fixed "// source file for nfsm machine " [] [] (by decide) []).append (hname [])
  rw [← String.toList_append] at hrow hsource
  exact .line hrow (by simp [isFilled]) (.line hsource (by simp [isFilled])
    (.line hrow (by simp [isFilled]) (.nil [])))

theorem tidy_body (m : Compiled) (s : Settings) : Tidy [
    line ("var " ++ name ++ " = \x7b"),
    .block (settings m s ++ [line "transitions: \x7b", .block (table m), line "\x7d,"] ++
      engine.map line),
    line "\x7d;",
    line (name ++ ".reset();")] [] [] := by
  have hvar := neat_between "var " " = \x7b" [] [] ['\x7d'] (by decide) (by decide) [] hname
  have hclose := neat_fixed "\x7d;" ['\x7d'] [] (by decide) []
  have hreset := (hname []).append (neat_fixed ".reset();" [] [] (by decide) [])
  rw [← String.toList_append] at hreset
  have hopen := neat_fixed "transitions: \x7b" [] ['\x7d'] (by decide) ['\x7d']
  have hend := neat_fixed "\x7d," ['\x7d'] [] (by decide) ['\x7d']
  have htable : Tidy [line "transitions: \x7b", .block (table m), line "\x7d,"] ['\x7d'] ['\x7d'] :=
    .line hopen (by decide) (.block (tidy_table m _) (.line hend (by decide) (.nil _)))
  have hinner := ((tidy_settings m s ['\x7d']).append htable).append (tidy_engine ['\x7d'])
  exact .line hvar (by simp [isFilled]) (.block hinner
    (.line hclose (by decide) (.line hreset (by simp [isFilled]) (.nil []))))

theorem sheet_flat (m : Compiled) (s : Settings) (host : Host) (globalName : String) :
    Sheet (writeAll 0 (flat m s host name globalName)) [] [] := by
  have hgap : ∀ {ps : List Piece}, Sheet (writeAll 0 ps) [] [] → Sheet (writeAll 0 (.row [] :: ps)) [] [] :=
    fun h => .row (neat_nil []) h
  have hdirective : Tidy (if s.isOn .useStrictDirective then [line "\"use strict\";"] else []) [] [] := by
    split
    · exact .line (neat_fixed "\"use strict\";" [] [] (by decide) []) (by decide) (.nil [])
    · exact .nil []
  have hend := (tidy_body hname m s).sheet 0 |>.append (hgap ((tidy_export hname host globalName).sheet 0))
  rw [← writeAll_append] at hend
  unfold flat
  rw [writeAll_append, writeAll_append]
  exact (((tidy_heading hname).sheet 0).append (hdirective.sheet 0)).append (hgap hend)

end Scripts

/-- **Data cannot break the structure of a script.** Whatever strings and numbers stand in a table and in the
settings, and whatever the names, a script consists of line feeds and printing ASCII; every line that is
read from its beginning ends outside of string literals, so a literal closes on the line where it opens;
and outside of literals braces, brackets and parentheses are nested properly and all closed. -/
theorem generate_structured {m : Compiled} {s : Settings} {name text : String}
    {target globalName : Option String} (h : generate m s name target globalName = .ok text) :
    (∀ c ∈ text.toList, c = '\n' ∨ ' ' ≤ c ∧ c ≤ '~') ∧
    (∀ l ∈ text.toList.splitOn '\n', l.foldl Mode.next .code = .code) ∧
    Nested (outside .code text.toList) := by
  obtain ⟨host, _, rfl⟩ := generate_eq_ok h
  rw [render, String.toList_ofList]
  have hsheet := sheet_flat (neat_sanitize name) m s host (globalName.getD s.globalName)
  exact ⟨hsheet.prints, hsheet.lines_closed, nested_of_scan hsheet.scanned⟩

/-- A table with quotes, brackets, a backslash and line ends in its names, and with a negative channel. -/
def bracketing : Compiled where
  initial := "\"\x7b"
  transitions := [("\"\x7b", [⟨"\\", ⟨"]\n", [some "(\u2028"]⟩,
    ⟨"a", [.consume, .pop (-1), .push 0 "\\\"[", .set "a"]⟩, some ⟨1, 1⟩⟩])]
  accepting := ["a", ")\r"]
  stackCount := 1
  states := ["\"\x7b", "a"]
  labels := ["\\"]

/-- Nothing in `bracketing` breaks its script. -/
theorem bracketing_script : ∃ text, generate bracketing {} "(m" (some "browser") (some "\"]") = .ok text ∧
    (∀ c ∈ text.toList, c = '\n' ∨ ' ' ≤ c ∧ c ≤ '~') ∧
    (∀ l ∈ text.toList.splitOn '\n', l.foldl Mode.next .code = .code) ∧
    Nested (outside .code text.toList) := by
  obtain ⟨text, htext⟩ : ∃ text,
      generate bracketing {} "(m" (some "browser") (some "\"]") = .ok text := ⟨_, rfl⟩
  exact ⟨text, htext, generate_structured htext⟩

end ArrowMachine.Script
