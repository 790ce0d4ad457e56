import ArrowMachine.Proofs.Text.Indenting
import ArrowMachine.Proofs.Text.Nesting
import ArrowMachine.Script.Generator
import Mathlib

/-!
Composing a script of parts that have been written beforehand.

The settings, the table, the engine and the last row of a script are written as texts first and then moved in
to where they stand. Whatever strings stand in a table, they are written as literals, names are cleaned and
numbers have digits only, so every row of a script is neat (`neat_literal`, `neat_statement`). `Tidy` says
that pieces are rows that are neat one after the other, and filled, as those of entries, states, settings and
the engine are (`tidy_entry`, `tidy_table`, `tidy_settings`, `tidy_engine`). As no row of them holds a line
end and none is blank, a script is what it would be with every part written in its place
(`render_pieces`).
-/
namespace ArrowMachine.Script

open Text (literal literalOrNull outside Neat isNeat neat_of_isNeat neat_of_plain neat_nil neat_literal
  neat_literalOrNull neat_int isPlain scan isBlank isLineBreak toList_intercalate_cons)
open Text.Page (Piece Filling margin writeAll render indented blockWidth)

variable {before behind further : List Char}

/-! ## Pieces one after the other -/

theorem write_line (i : Int) (s : String) : (line s).write i = margin i ++ s.toList ++ ['\n'] := by
  rw [line, Piece.write, Text.Page.row, String.intercalate_singleton]

theorem writeAll_append (i : Int) (ps qs : List Piece) :
    writeAll i (ps ++ qs) = writeAll i ps ++ writeAll i qs := by
  induction ps with
  | nil => rfl
  | cons p ps ih => rw [List.cons_append, writeAll, writeAll, ih, List.append_assoc]

/-! ## Words of a row -/

theorem isPlain_of_isNameChar {start : Bool} {c : Char} (h : isNameChar start c = true) :
    isPlain c = true := by
  have hall : ∀ n < 123, isNameChar false (Char.ofNat n) = true → isPlain (Char.ofNat n) = true := by
    decide
  have hname : isNameChar false c = true := by
    simp only [isNameChar, Bool.or_eq_true, Bool.and_eq_true] at h ⊢
    exact h.imp_right fun hdigit => ⟨rfl, hdigit.2⟩
  have hlt : c.toNat < 123 := by
    simp only [isNameChar, Char.isAlpha, Char.isUpper, Char.isLower, Char.isDigit, Bool.or_eq_true,
      Bool.and_eq_true, decide_eq_true_eq, ge_iff_le, UInt32.le_iff_toNat_le] at hname
    change ((((65 ≤ c.toNat ∧ c.toNat ≤ 90) ∨ 97 ≤ c.toNat ∧ c.toNat ≤ 122) ∨ c = '_') ∨
      _ ∧ 48 ≤ c.toNat ∧ c.toNat ≤ 57) at hname
    rcases hname with ((hupper | hlower) | rfl) | hdigit
    · omega
    · omega
    · decide
    · omega
  have hplain := hall c.toNat hlt
  rw [Char.ofNat_toNat] at hplain
  exact hplain hname

theorem plain_sanitizeChars (start : Bool) (cs : List Char) :
    ∀ c ∈ sanitizeChars start cs, isPlain c = true := by
  induction cs generalizing start with
  | nil => simp [sanitizeChars]
  | cons c cs ih =>
    refine List.forall_mem_cons.2 ⟨?_, ih false⟩
    split
    · next hname => exact isPlain_of_isNameChar hname
    · decide

theorem neat_sanitize (name : String) (awaited : List Char) :
    Neat (sanitize name).toList awaited awaited := by
  rw [sanitize, String.toList_ofList]
  exact neat_of_plain (plain_sanitizeChars true name.toList) awaited

theorem neat_bool (b : Bool) (awaited : List Char) : Neat (bool b).toList awaited awaited := by
  cases b with
  | false => exact neat_of_plain (List.all_eq_true.1 (by decide)) awaited
  | true => exact neat_of_plain (List.all_eq_true.1 (by decide)) awaited

/-- A row that is always the same, wherever it stands. -/
theorem neat_fixed (row : String) (before behind : List Char)
    (h : isNeat row.toList before behind = true) (outer : List Char) :
    Neat row.toList (before ++ outer) (behind ++ outer) := neat_of_isNeat before behind h outer

/-- A text between two others that are always the same. -/
theorem neat_between (opening closing : String) {text : String} (before behind further : List Char)
    (hopening : isNeat opening.toList before behind = true)
    (hclosing : isNeat closing.toList behind further = true) (outer : List Char)
    (h : ∀ awaited, Neat text.toList awaited awaited) :
    Neat (opening ++ text ++ closing).toList (before ++ outer) (further ++ outer) := by
  rw [String.toList_append, String.toList_append]
  exact ((neat_fixed opening before behind hopening outer).append (h _)).append
    (neat_fixed closing behind further hclosing outer)

theorem neat_list {items : List String}
    (h : ∀ item ∈ items, ∀ awaited, Neat item.toList awaited awaited) (awaited : List Char) :
    Neat (list items).toList awaited awaited := by
  refine neat_between "[" "]" [] [']'] [] (by decide) (by decide) awaited fun awaited => ?_
  cases items with
  | nil => exact neat_nil awaited
  | cons item items =>
    obtain ⟨hitem, hitems⟩ := List.forall_mem_cons.1 h
    rw [toList_intercalate_cons]
    refine (hitem awaited).append ?_
    clear h hitem
    induction items with
    | nil => exact neat_nil awaited
    | cons next items ih =>
      obtain ⟨hnext, hrest⟩ := List.forall_mem_cons.1 hitems
      rw [List.flatMap_cons]
      exact ((neat_of_plain (List.all_eq_true.1 (by decide)) awaited).append (hnext awaited)).append (ih hrest)

theorem neat_statement (op : Op) (awaited : List Char) :
    Neat (statement op).toList awaited awaited := by
  cases op with
  | consume => exact neat_fixed "if (consumeInput) this.input.shift();" [] [] (by decide) awaited
  | pop channel =>
    exact neat_between "this.stacks[" "].pop();" [] [']'] [] (by decide) (by decide) awaited
      (neat_int channel)
  | push channel value =>
    have hchannel := neat_between "this.stacks[" "].push(" [] [']'] [')'] (by decide) (by decide)
      awaited (neat_int channel)
    have hclose := neat_fixed ");" [')'] [] (by decide) awaited
    rw [statement, String.toList_append, String.toList_append]
    exact (hchannel.append (neat_literal value _)).append hclose
  | set state =>
    exact neat_between "this.state = " ";" [] [] [] (by decide) (by decide) awaited
      (neat_literal state)

/-! ## Tidy pieces -/

/-- A row that is not empty and does not consist of spaces. -/
def isFilled (s : String) : Bool := s.toList.any fun c => c ≠ ' '

theorem isFilled_append {s t : String} (h : isFilled s = true) : isFilled (s ++ t) = true := by
  unfold isFilled at h ⊢
  rw [String.toList_append, List.any_append, h, Bool.true_or]

/-- Pieces that are rows, each of them filled and one neat after the other. -/
inductive Tidy : (ps : List Piece) → (before behind : List Char) → Prop
  | nil (awaited : List Char) : Tidy [] awaited awaited
  | line {s : String} {ps : List Piece} {before behind further : List Char}
      (hrow : Neat s.toList before behind) (hfilled : isFilled s = true) (hrest : Tidy ps behind further) :
      Tidy (line s :: ps) before further
  | block {ps qs : List Piece} {before behind further : List Char} (hblock : Tidy ps before behind)
      (hrest : Tidy qs behind further) : Tidy (.block ps :: qs) before further

variable {ps qs : List Piece}

theorem Tidy.append (h : Tidy ps before behind) (h' : Tidy qs behind further) :
    Tidy (ps ++ qs) before further := by
  induction h with
  | nil => exact h'
  | line hrow hfilled _ ih => exact .line hrow hfilled (ih h')
  | block hblock _ _ ih => exact .block hblock (ih h')

theorem tidy_flatMap {α : Type} {f : α → List Piece} {awaited : List Char} (as : List α)
    (h : ∀ a ∈ as, Tidy (f a) awaited awaited) : Tidy (as.flatMap f) awaited awaited := by
  induction as with
  | nil => exact .nil awaited
  | cons a as ih =>
    obtain ⟨ha, has⟩ := List.forall_mem_cons.1 h
    rw [List.flatMap_cons]
    exact ha.append (ih has)

theorem isLineBreak_of_prints {c : Char} (h : ' ' ≤ c ∧ c ≤ '~') :
    isLineBreak c = false ∧ (c ≠ ' ' → isBlank c = false) := by
  have hall : ∀ n < 127, 32 ≤ n → isLineBreak (Char.ofNat n) = false ∧
      (Char.ofNat n ≠ ' ' → isBlank (Char.ofNat n) = false) := by
    decide
  have hcode := hall c.toNat (Nat.lt_succ_of_le (UInt32.le_iff_toNat_le.1 h.2))
    (UInt32.le_iff_toNat_le.1 h.1)
  rwa [Char.ofNat_toNat] at hcode

/-- Tidy pieces fill whole lines. -/
theorem Tidy.filling {ps : List Piece} (h : Tidy ps before behind) : Filling ps := by
  induction h with
  | nil => exact .nil
  | @line s ps _ _ _ hrow hfilled _ ih =>
    have hwords : " ".intercalate [s] = s := String.intercalate_singleton
    obtain ⟨c, hc, hne⟩ := List.any_eq_true.1 hfilled
    have hsolid := (isLineBreak_of_prints (hrow.prints c hc)).2 (of_decide_eq_true hne)
    refine .row ?_ ?_ ih
    · rw [hwords]
      exact fun c hc => (isLineBreak_of_prints (hrow.prints c hc)).1
    · rw [hwords]
      exact List.all_eq_false.2 ⟨c, hc, by simp [hsolid]⟩
  | block _ _ ihblock ih => exact .block ihblock ih

/-- Tidy pieces that have been written and are moved as a text stand as they would if they were written
there. -/
theorem Tidy.indented_render {ps : List Piece} (h : Tidy ps before behind) {i : Int} (hi : 0 ≤ i) :
    indented i (render ps 0).toList = writeAll i ps := by
  rw [render, String.toList_ofList, h.filling.indented_writeAll hi (Int.le_refl 0), Int.add_zero]

/-! ## Entries, states and settings -/

theorem tidy_ops (ops : List Op) (awaited : List Char) :
    Tidy (ops.map fun op => line (statement op)) awaited awaited := by
  rw [List.map_eq_flatMap]
  refine tidy_flatMap _ fun op _ => .line (neat_statement op awaited) ?_ (.nil awaited)
  cases op <;> simp [isFilled, statement]

theorem tidy_entry (e : Entry) (awaited : List Char) : Tidy (entry e) awaited awaited := by
  have hopen := neat_fixed "\x7b" [] ['\x7d'] (by decide) awaited
  have hclose := neat_fixed "\x7d," ['\x7d'] [] (by decide) awaited
  -- What stands between the braces.
  have hlabel := neat_between "label: " "," [] [] [] (by decide) (by decide) ('\x7d' :: awaited)
    (neat_literal e.label)
  have hinput := neat_between "input: " "," [] [] [] (by decide) (by decide) ('\x7d' :: awaited)
    (neat_literal e.filter.input)
  have hlist := neat_list (List.forall_mem_map.2 fun read (_ : read ∈ e.filter.reads) =>
    neat_literalOrNull read)
  have hreads := neat_between "reads: " "," [] [] [] (by decide) (by decide) ('\x7d' :: awaited) hlist
  have hfn := neat_fixed "fn: function (consumeInput) \x7b" [] ['\x7d'] (by decide) ('\x7d' :: awaited)
  have hend := neat_fixed "\x7d" ['\x7d'] [] (by decide) ('\x7d' :: awaited)
  refine .line hopen (by decide) (.block ?_ (.line hclose (by decide) (.nil awaited)))
  exact .line hlabel (by simp [isFilled]) (.line hinput (by simp [isFilled])
    (.line hreads (by simp [isFilled]) (.line hfn (by decide) (.block (tidy_ops _ _)
      (.line hend (by decide) (.nil _))))))

theorem isFilled_literal (s : String) : isFilled (literal s) = true := by
  simp [isFilled, literal]

theorem tidy_table (m : Compiled) (awaited : List Char) : Tidy (table m) awaited awaited := by
  unfold table
  refine tidy_flatMap _ fun row _ => ?_
  have hopen := (neat_literal row.1 awaited).append (neat_fixed ": [" [] [']'] (by decide) awaited)
  have hclose := neat_fixed "]," [']'] [] (by decide) awaited
  rw [← String.toList_append] at hopen
  exact .line hopen (isFilled_append (isFilled_literal row.1))
    (.block (tidy_flatMap _ fun e _ => tidy_entry e _) (.line hclose (by decide) (.nil awaited)))

theorem tidy_settings (m : Compiled) (s : Settings) (awaited : List Char) :
    Tidy (settings m s) awaited awaited := by
  have hset : ∀ {text : String} (name : String), isNeat name.toList [] [] = true →
      (∀ awaited, Neat text.toList awaited awaited) →
      Neat (name ++ text ++ ",").toList awaited awaited := fun name hname htext =>
    neat_between name "," [] [] [] hname (by decide) awaited htext
  have haccepting := neat_list (List.forall_mem_map.2 fun state (_ : state ∈ m.accepting) =>
    neat_literal state)
  exact .line (hset "initial: " (by decide) (neat_literal m.initial)) (by simp [isFilled])
    (.line (hset "acceptStates: " (by decide) haccepting) (by simp [isFilled])
    (.line (hset "stackCount: " (by decide) (neat_int m.stackCount)) (by simp [isFilled])
    (.line (hset "strict: " (by decide) (neat_bool _)) (by simp [isFilled])
    (.line (hset "prune: " (by decide) (neat_bool _)) (by simp [isFilled])
    (.line (hset "maxSteps: " (by decide) (neat_int s.maxSearchSteps)) (by simp [isFilled])
    (.line (hset "state: " (by decide) (neat_literal m.initial)) (by simp [isFilled])
    (.line (neat_fixed "stacks: []," [] [] (by decide) awaited) (by decide)
    (.line (neat_fixed "input: []," [] [] (by decide) awaited) (by decide)
    (.line (neat_fixed "halted: false," [] [] (by decide) awaited) (by decide)
    (.nil awaited))))))))))

/-! ## The engine -/

/-- Reads rows that are always the same, if each of them is filled and neat. -/
def scanRows (awaited : List Char) (rows : List (List Char)) : Option (List Char) :=
  rows.foldlM (fun awaited row => do
    let left ← scan awaited (outside .code row)
    if row.any (· ≠ ' ') && isNeat row awaited left then some left else none) awaited

theorem tidy_rows {rows : List (List Char)} (h : scanRows before rows = some behind)
    (outer : List Char) :
    Tidy ((rows.map String.ofList).map line) (before ++ outer) (behind ++ outer) := by
  induction rows generalizing before with
  | nil =>
    obtain rfl : before = behind := Option.some.inj h
    exact .nil _
  | cons row rows ih =>
    unfold scanRows at h
    rw [List.foldlM_cons] at h
    obtain ⟨left, hleft, hrest⟩ := Option.bind_eq_some_iff.1 h
    obtain ⟨left', _, hif⟩ := Option.bind_eq_some_iff.1 hleft
    split at hif
    · next hrow =>
      obtain rfl : left' = left := Option.some.inj hif
      obtain ⟨hfilled, hneat⟩ := Bool.and_eq_true_iff.1 hrow
      have hrow := neat_of_isNeat before left' hneat outer
      rw [← String.toList_ofList (l := row)] at hrow hfilled
      exact .line hrow hfilled (ih hrest)
    · cases hif

theorem spelled_cons {rows : List (List Char)} {ss : List String} (cs : List Char)
    (h : rows.map String.ofList = ss) : (cs :: rows).map String.ofList = String.ofList cs :: ss := by
  rw [List.map_cons, h]

/-- The engine closes what it opens. Its rows are turned into characters first, because reading them off the
strings would take the kernel very long. -/
theorem exists_rows_engine : ∃ rows : List (List Char),
    rows.map String.ofList = engine ∧ scanRows [] rows = some [] := by
  apply Exists.intro
  apply And.intro
  · dsimp only [engine]
    repeat apply spelled_cons
    exact List.map_nil
  · decide +kernel

theorem tidy_engine (awaited : List Char) : Tidy (engine.map line) awaited awaited := by
  obtain ⟨rows, hrows, hscan⟩ := exists_rows_engine
  rw [← hrows]
  exact tidy_rows hscan awaited

/-! ## Scripts -/

theorem tidy_export {name : String} (hname : ∀ awaited, Neat name.toList awaited awaited) (host : Host)
    (globalName : String) : Tidy [exportLine host name globalName] [] [] := by
  cases host with
  | node =>
    exact .line (neat_between "module.exports = " ";" [] [] [] (by decide) (by decide) [] hname)
      (by simp [isFilled]) (.nil [])
  | esm =>
    exact .line (neat_between "export default " ";" [] [] [] (by decide) (by decide) [] hname)
      (by simp [isFilled]) (.nil [])
  | browser =>
    have hplace := neat_between "window[" "] = " [] [']'] [] (by decide) (by decide) []
      (neat_literal globalName)
    have hrow := (hplace.append (hname [])).append (neat_fixed ";" [] [] (by decide) [])
    rw [← String.toList_append, ← String.toList_append] at hrow
    exact .line hrow (by simp [isFilled]) (.nil [])

/-- The pieces of a script with every part written in its place. -/
def flat (m : Compiled) (s : Settings) (host : Host) (name globalName : String) : List Piece :=
  let rule := "// ============================" ++ String.ofList (List.replicate name.length '=')
  [line rule, line ("// source file for nfsm machine " ++ name), line rule] ++
    (if s.isOn .useStrictDirective then [line "\"use strict\";"] else []) ++
    [.row [],
      line ("var " ++ name ++ " = \x7b"),
      .block (settings m s ++ [line "transitions: \x7b", .block (table m), line "\x7d,"] ++
        engine.map line),
      line "\x7d;",
      line (name ++ ".reset();"),
      .row [],
      exportLine host name globalName]

/-- **Moving parts that have been written beforehand breaks no row of theirs,** whatever they hold. -/
theorem render_pieces (m : Compiled) (s : Settings) (host : Host) (name globalName : String) :
    render (pieces m s host (sanitize name) globalName) 0 =
      render (flat m s host (sanitize name) globalName) 0 := by
  have hone : (0 : Int) ≤ 0 + blockWidth := by decide
  have htwo : (0 : Int) ≤ 0 + blockWidth + blockWidth := by decide
  have hsettings := (tidy_settings m s []).indented_render hone
  have htable := (tidy_table m []).indented_render htwo
  have hengine := (tidy_engine []).indented_render hone
  have hexport := (tidy_export (neat_sanitize name) host globalName).indented_render (Int.le_refl 0)
  unfold render pieces flat
  simp only [writeAll_append, writeAll, Piece.write, hsettings, htable, hengine, hexport,
    List.append_nil, List.append_assoc]

theorem generate_eq_ok {m : Compiled} {s : Settings} {name text : String}
    {target globalName : Option String} (h : generate m s name target globalName = .ok text) :
    ∃ host, Host.ofName? (target.getD s.target) = some host ∧
      render (flat m s host (sanitize name) (globalName.getD s.globalName)) 0 = text := by
  unfold generate at h
  simp only at h
  cases hhost : Host.ofName? (target.getD s.target) with
  | none =>
    rw [hhost] at h
    cases h
  | some host =>
    rw [hhost] at h
    simp only at h
    split at h
    · cases h
    · exact ⟨host, rfl, (render_pieces ..).symm.trans (Except.ok.inj h)⟩

end ArrowMachine.Script
