import ArrowMachine.Proofs.Script.Composing

/-!
What a script tells of the machine it was made from.

A script is written part after part, and every part that depends on the machine is readable: literals,
lists of literals, numbers up to the character behind them, and statements (`readable_statement`). A block
stands deeper than the row that ends it, so its end cannot be taken for a row of it (`deeper_ne`). Hence
entries (`readable_entry`), states with their entries (`readable_state`) and settings
(`readable_settings`) are readable, and two machines with one script agree in all that the script shows
(`generate_determines`).
-/
namespace ArrowMachine.Script

open Text (Readable literal literalOrNull readable_literal readable_literalOrNull readable_int
  toList_intercalate_cons)
open Text.Page (Piece margin margin_add writeAll blockWidth)

variable {α β γ : Type} {g : α → β} {g' : α → γ}

/-! ## Rows and blocks -/

theorem writeAll_flatMap (i : Int) (f : α → List Piece) (as : List α) :
    writeAll i (as.flatMap f) = as.flatMap fun a => writeAll i (f a) := by
  induction as with
  | nil => rfl
  | cons a as ih => rw [List.flatMap_cons, writeAll_append, ih, List.flatMap_cons]

theorem readable_line {text : α → String} (h : Readable (fun a => (text a).toList) g) (i : Int) :
    Readable (fun a => (line (text a)).write i) g := by
  simp only [write_line]
  exact h.enclosed (margin i) ['\n']

theorem readable_words {text : α → String} (h : Readable (fun a => (text a).toList) g)
    (before behind : String) : Readable (fun a => (before ++ text a ++ behind).toList) g := by
  simp only [String.toList_append]
  exact h.enclosed before.toList behind.toList

theorem readable_fixed (α : Type) (i : Int) (ps : List Piece) :
    Readable (fun _ : α => writeAll i ps) fun _ => () := .const α _

theorem readable_cons {i : Int} {p : α → Piece} {ps : α → List Piece}
    (h : Readable (fun a => (p a).write i) g) (h' : Readable (fun a => writeAll i (ps a)) g') :
    Readable (fun a => writeAll i (p a :: ps a)) fun a => (g a, g' a) := h.append h'

theorem readable_append {i : Int} {ps qs : α → List Piece} (h : Readable (fun a => writeAll i (ps a)) g)
    (h' : Readable (fun a => writeAll i (qs a)) g') :
    Readable (fun a => writeAll i (ps a ++ qs a)) fun a => (g a, g' a) := by
  simp only [writeAll_append]
  exact h.append h'

theorem readable_deeper {i : Int} {ps : α → List Piece}
    (h : Readable (fun a => writeAll (i + blockWidth) (ps a)) g) :
    Readable (fun a => (Piece.block (ps a)).write i) g := h

/-- What stands deeper than a row is not that row. -/
theorem deeper_ne {i : Int} (hi : 0 ≤ i) (s : String) (ps : List Piece) {last : String} {c : Char}
    {cs : List Char} (hlast : last.toList = c :: cs) (hc : c ≠ ' ') (u v : List Char) :
    writeAll (i + blockWidth) (line s :: ps) ++ u ≠ (line last).write i ++ v := by
  have hmargin : margin blockWidth = ' ' :: List.replicate 3 ' ' := rfl
  rw [writeAll, write_line, write_line, margin_add hi (Int.natCast_nonneg blockWidth), hmargin, hlast]
  simp only [List.append_assoc, List.cons_append]
  intro h
  exact hc (List.cons.inj (List.append_cancel_left h)).1.symm

/-- A block of pieces for each of several things, and the row that ends it. -/
theorem readable_block {i : Int} (hi : 0 ≤ i) {first : α → String} {rest : α → List Piece}
    (h : Readable (fun a => writeAll (i + blockWidth) (line (first a) :: rest a)) g) (last : String)
    {c : Char} {cs : List Char} (hlast : last.toList = c :: cs) (hc : c ≠ ' ') :
    Readable (fun as : List α =>
      writeAll i [.block (as.flatMap fun a => line (first a) :: rest a), line last]) (List.map g) := by
  have hblock := h.flatMap ((line last).write i) fun a => deeper_ne hi (first a) (rest a) hlast hc
  intro as bs u v heq
  refine hblock as bs u v ?_
  simpa [writeAll, Piece.write, writeAll_flatMap] using heq

/-! ## Lists, statements and entries -/

theorem toList_list_cons (f : α → String) (a : α) (as : List α) :
    (list ((a :: as).map f)).toList = '[' :: ((f a).toList ++
      (as.flatMap (fun b => ", ".toList ++ (f b).toList ++ []) ++ [']'])) := by
  rw [list, List.map_cons, String.toList_append, String.toList_append, toList_intercalate_cons]
  simp [List.flatMap_map]

/-- A list of what is readable and does not begin like the end of a list. -/
theorem readable_list {f : α → String} (h : Readable (fun a => (f a).toList) g)
    (hopen : ∀ a u v, (f a).toList ++ u ≠ ']' :: v) :
    Readable (fun as : List α => (list (as.map f)).toList) (List.map g) := by
  have hrest := (h.enclosed ", ".toList []).flatMap [']'] (by simp)
  have hnot : ∀ a (as : List α) (u v : List Char),
      (list ((a :: as).map f)).toList ++ u ≠ (list []).toList ++ v := by
    intro a as u v heq
    rw [toList_list_cons, show (list []).toList = ['[', ']'] by decide] at heq
    exact hopen a _ v ((List.append_assoc _ _ _).symm.trans (List.cons.inj heq).2)
  rintro (_ | ⟨a, as⟩) (_ | ⟨b, bs⟩) u v heq
  · exact ⟨rfl, List.append_cancel_left heq⟩
  · exact absurd heq.symm (hnot b bs v u)
  · exact absurd heq (hnot a as u v)
  · simp only [toList_list_cons] at heq
    have hitems := (List.cons.inj heq).2
    obtain ⟨hhead, htail⟩ := h a b _ _
      ((List.append_assoc _ _ _).symm.trans (hitems.trans (List.append_assoc _ _ _)))
    obtain ⟨hmap, huv⟩ := hrest as bs u v htail
    exact ⟨by rw [List.map_cons, List.map_cons, hhead, hmap], huv⟩

/-- **Statements are readable.** Those that begin alike are told apart by what stands behind the number of
the channel. -/
theorem readable_statement : Readable (fun op => (statement op).toList) id := by
  have hchannel : ∀ (m n : Int) (u v : List Char),
      m.repr.toList ++ ']' :: u = n.repr.toList ++ ']' :: v → m = n ∧ u = v := fun m n u v h =>
    readable_int (c := ']') (by decide) (by decide) m n u v (by simpa using h)
  rintro (_ | channel | ⟨channel, x⟩ | state) (_ | channel' | ⟨channel', x'⟩ | state') u v h <;>
    simp [statement] at h
  case consume.consume => exact ⟨rfl, h⟩
  case pop.pop =>
    obtain ⟨rfl, hrest⟩ := hchannel _ _ _ _ h
    exact ⟨rfl, by simpa using hrest⟩
  case pop.push =>
    obtain ⟨_, hrest⟩ := hchannel _ _ _ _ h
    simp at hrest
  case push.pop =>
    obtain ⟨_, hrest⟩ := hchannel _ _ _ _ h
    simp at hrest
  case push.push =>
    obtain ⟨rfl, hrest⟩ := hchannel _ _ _ _ h
    obtain ⟨rfl, hrest⟩ := readable_literal x x' _ _ (by simpa using hrest)
    exact ⟨rfl, by simpa using hrest⟩
  case set.set =>
    obtain ⟨rfl, hrest⟩ := readable_literal state state' _ _ h
    exact ⟨rfl, by simpa using hrest⟩

/-! ## Entries and states -/

theorem literal_ne_bracket (s : String) (u v : List Char) : (literal s).toList ++ u ≠ ']' :: v := by
  simp [literal]

theorem literalOrNull_ne_bracket (text : Option String) (u v : List Char) :
    (literalOrNull text).toList ++ u ≠ ']' :: v := by
  cases text with
  | none => simp [literalOrNull]
  | some s => exact literal_ne_bracket s u v

/-- What a script shows of an entry. -/
def shown (e : Entry) : String × Filter × List Op := (e.label, e.filter, e.action.ops)

theorem readable_ops {i : Int} (hi : 0 ≤ i) : Readable (fun ops : List Op =>
    writeAll i [.block (ops.map fun op => line (statement op)), line "\x7d"]) id := by
  have hop : Readable (fun op => writeAll (i + blockWidth) [line (statement op)]) id :=
    (readable_cons (readable_line readable_statement _) (readable_fixed Op _ [])).image Prod.fst
      fun _ => rfl
  have hops := readable_block hi hop "\x7d" (c := '\x7d') rfl (by decide)
  simp only [List.map_eq_flatMap]
  exact hops.image id fun ops => List.map_id ops

/-- The rows between the braces of an entry. -/
def fields (e : Entry) : List Piece := [
  line ("label: " ++ literal e.label ++ ","),
  line ("input: " ++ literal e.filter.input ++ ","),
  line ("reads: " ++ list (e.filter.reads.map literalOrNull) ++ ","),
  line "fn: function (consumeInput) \x7b",
  .block (e.action.ops.map fun op => line (statement op)),
  line "\x7d"]

theorem readable_fields {i : Int} (hi : 0 ≤ i) : Readable (fun e => writeAll i (fields e)) shown := by
  have hreads := readable_list readable_literalOrNull literalOrNull_ne_bracket
  have hlabel := readable_line
    (readable_words (readable_literal.comp Entry.label) "label: " ",") i
  have hinput := readable_line
    (readable_words (readable_literal.comp fun e : Entry => e.filter.input) "input: " ",") i
  have hreads := readable_line
    (readable_words (hreads.comp fun e : Entry => e.filter.reads) "reads: " ",") i
  have hops := (readable_ops hi).comp fun e : Entry => e.action.ops
  have hfn := Readable.const Entry ((line "fn: function (consumeInput) \x7b").write i)
  exact (readable_cons hlabel (readable_cons hinput (readable_cons hreads (readable_cons hfn hops)))).image
    (fun x => (x.1, ⟨x.2.1, x.2.2.1⟩, x.2.2.2.2)) fun e => by simp [shown]

theorem readable_entry {i : Int} (hi : 0 ≤ i) : Readable (fun e => writeAll i (entry e)) shown := by
  have hopen := Readable.const Entry ((line "\x7b").write i)
  have hfields := readable_fields (i := i + blockWidth) (Int.add_nonneg hi (by decide))
  have hclose := readable_fixed Entry i [line "\x7d,"]
  exact (readable_cons hopen (readable_cons (readable_deeper hfields) hclose)).image (fun x => x.2.1)
    fun _ => rfl

/-- A state with its entries, as a row of the table. -/
def state (row : String × List Entry) : List Piece := [
  line (literal row.1 ++ ": ["),
  .block (row.2.flatMap entry),
  line "],"]

theorem readable_state {i : Int} (hi : 0 ≤ i) : Readable (fun row => writeAll i (state row))
    fun row => (row.1, row.2.map shown) := by
  have hname : Readable (fun row : String × List Entry => (literal row.1 ++ ": [").toList) Prod.fst := by
    simp only [String.toList_append]
    exact (readable_literal.comp Prod.fst).enclosed [] ": [".toList
  have hentry := readable_entry (i := i + blockWidth) (Int.add_nonneg hi (by decide))
  have hentries := readable_block hi hentry "]," (c := ']') rfl (by decide)
  exact readable_cons (readable_line hname i) (hentries.comp Prod.snd)

/-! ## Scripts -/

/-- What a script shows of the transitions of a table. -/
def shownTransitions (m : Compiled) : List (String × List (String × Filter × List Op)) :=
  m.transitions.map fun row => (row.1, row.2.map shown)

theorem readable_table {i : Int} (hi : 0 ≤ i) : Readable
    (fun m => writeAll i [line "transitions: \x7b", .block (table m), line "\x7d,"])
    shownTransitions := by
  have hopen := Readable.const Compiled ((line "transitions: \x7b").write i)
  have hstate := readable_state (i := i + blockWidth) (Int.add_nonneg hi (by decide))
  have htable := readable_block hi hstate "\x7d," (c := '\x7d') rfl (by decide)
  exact (readable_cons hopen (htable.comp Compiled.transitions)).image Prod.snd fun _ => rfl

theorem readable_settings (s : Settings) (i : Int) : Readable (fun m => writeAll i (settings m s))
    fun m => (m.initial, m.accepting, m.stackCount) := by
  have hname := readable_literal.comp Compiled.initial
  have hnames := (readable_list readable_literal literal_ne_bracket).comp Compiled.accepting
  have hnumber := (readable_int (c := ',') (by decide) (by decide)).comp Compiled.stackCount
  have hcount : Readable (fun m : Compiled => ("stackCount: " ++ toString m.stackCount ++ ",").toList)
      Compiled.stackCount := by
    simpa [Function.comp_def] using hnumber.enclosed "stackCount: ".toList []
  have hsettings := readable_fixed Compiled i [
    line ("strict: " ++ bool (s.isOn .strictActions) ++ ","),
    line ("prune: " ++ bool (s.isOn .pruneRevisited) ++ ","),
    line ("maxSteps: " ++ toString s.maxSearchSteps ++ ",")]
  have hend := readable_fixed Compiled i [line "stacks: [],", line "input: [],", line "halted: false,"]
  have hstate := readable_cons (readable_line (readable_words hname "state: " ",") i) hend
  exact (readable_cons (readable_line (readable_words hname "initial: " ",") i)
    (readable_cons (readable_line (readable_words hnames "acceptStates: " ",") i)
    (readable_cons (readable_line hcount i) (readable_append hsettings hstate)))).image
    (fun x => (x.1, x.2.1, x.2.2.1)) fun m => by simp

/-- All that a script shows of a machine. -/
def shownMachine (m : Compiled) :
    (String × List String × Int) × List (String × List (String × Filter × List Op)) :=
  ((m.initial, m.accepting, m.stackCount), shownTransitions m)

theorem readable_flat (s : Settings) (host : Host) (name globalName : String) :
    Readable (fun m => writeAll 0 (flat m s host name globalName)) shownMachine := by
  have hsettings := readable_settings s (0 + blockWidth)
  have htable := readable_table (i := 0 + blockWidth) (by decide)
  have hengine := readable_fixed Compiled (0 + blockWidth) (engine.map line)
  have hbody := readable_append (readable_append hsettings htable) hengine
  unfold flat
  refine (readable_append (readable_append (readable_fixed Compiled 0 _) (readable_fixed Compiled 0 _))
    (readable_cons (.const Compiled _) (readable_cons (.const Compiled _)
    (readable_cons (readable_deeper hbody) (readable_fixed Compiled 0 _))))).image
    (fun x => x.2.2.2.1.1) fun m => rfl

/-- **A script determines its machine.** If two machines have one script under one name, for one target and
with one global name and the same settings, then they have the same initial state, the same accepting
states and as many stacks, and the same states in the same order, each with the same entries in the same
order: with the same label, input, reads and operations. -/
theorem generate_determines {m n : Compiled} {s : Settings} {name text : String}
    {target globalName : Option String} (hm : generate m s name target globalName = .ok text)
    (hn : generate n s name target globalName = .ok text) :
    m.initial = n.initial ∧ m.accepting = n.accepting ∧ m.stackCount = n.stackCount ∧
      m.transitions.map (fun row => (row.1, row.2.map fun e => (e.label, e.filter, e.action.ops))) =
        n.transitions.map (fun row => (row.1, row.2.map fun e => (e.label, e.filter, e.action.ops))) := by
  obtain ⟨host, hhost, htext⟩ := generate_eq_ok hm
  obtain ⟨host', hhost', htext'⟩ := generate_eq_ok hn
  obtain rfl : host = host' := Option.some.inj (hhost.symm.trans hhost')
  have hwritten := String.ofList_injective (htext.trans htext'.symm)
  have hshown := (readable_flat s host (sanitize name) (globalName.getD s.globalName) m n [] []
    (congrArg (· ++ []) hwritten)).1
  obtain ⟨hsettings, htransitions⟩ := Prod.ext_iff.1 hshown
  obtain ⟨hinitial, hrest⟩ := Prod.ext_iff.1 hsettings
  obtain ⟨haccepting, hcount⟩ := Prod.ext_iff.1 hrest
  exact ⟨hinitial, haccepting, hcount, htransitions⟩

/-- A table with an entry that asks for nothing of its channels in both ways and pushes a quote. -/
def quoting : Compiled where
  initial := "a"
  transitions := [("a", [⟨"x", ⟨"x", [some "_", none]⟩, ⟨"b", [.consume, .push 1 "\"", .set "b"]⟩,
    some ⟨1, 5⟩⟩])]
  accepting := ["b"]
  stackCount := 2
  states := ["a", "b"]
  labels := ["x"]

/-- The table `quoting` without the place of its entry, as it is after loading. -/
def quotingLoaded : Compiled :=
  { quoting with transitions := quoting.transitions.map fun row =>
      (row.1, row.2.map fun e => { e with pos := none }) }

/-- Both tables have one script, in which the entry is the same. -/
theorem quoting_script : quoting ≠ quotingLoaded ∧ ∃ text,
    generate quoting {} "m" none none = .ok text ∧
    generate quotingLoaded {} "m" none none = .ok text ∧
    quoting.transitions.map (fun row => (row.1, row.2.map fun e => (e.label, e.filter, e.action.ops))) =
      quotingLoaded.transitions.map
        (fun row => (row.1, row.2.map fun e => (e.label, e.filter, e.action.ops))) := by
  have hloaded : generate quotingLoaded {} "m" none none = generate quoting {} "m" none none := rfl
  obtain ⟨text, htext⟩ : ∃ text, generate quoting {} "m" none none = .ok text := ⟨_, rfl⟩
  have hsame := generate_determines htext (hloaded.trans htext)
  exact ⟨by decide, text, htext, hloaded.trans htext, hsame.2.2.2⟩

end ArrowMachine.Script
