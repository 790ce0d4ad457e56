import ArrowMachine.Proofs.Table.Legible
import ArrowMachine.Proofs.Text.Joining

/-!
What the listing of a table shows.

A listing has three lines about the machine and then, for every state with rows, the state and its rows.
Nothing is quoted in it: the lines are parted by line feeds, the words of a row by spaces (`Entry.line_eq`),
and what stands between commas by these, none of which can stand in a word of a table that comes from a text
(`isLegible_of_compile`), so that all can be told apart (`Text.intercalate_inj`). A filter is shown up to its
key (`Filter.key_eq_of_text_eq`), and a row by its key, its label and its action, as what it pops is what it
reads (`Entry.IsLegible.eq_of_line_eq`). As no row begins like a state, the states are shown with their rows
(`blocks_inj`). `listing_shows_machine` puts this together.
-/
namespace ArrowMachine

open Text (Solid intercalate_inj solid_of_all solid_append solid_intercalate solid_int printed printed_inj
  not_mem_intercalate)
open Rule (IsSymbol)

theorem Rule.IsSymbol.solid {s : String} (h : IsSymbol s) : Solid s := h.not_blank

/-! ## Filters -/

namespace Filter

variable {f g : Filter}

/-- The words that a filter with a read is shown by. -/
def shownWords (f : Filter) : List String := f.input :: f.reads.map (·.getD epsilon)

/-- What a filter asks of a channel can be told from how its read is shown. -/
theorem demand_eq (f : Filter) (i : Nat) :
    f.demand i = normalRead (some ((f.reads.map (·.getD epsilon)).getD i epsilon)) := by
  have hread : (f.reads.map (·.getD epsilon)).getD i epsilon = (f.reads.getD i none).getD epsilon :=
    List.getD_map _ none fun r : Option String => r.getD epsilon
  rw [demand, hread]
  cases f.reads.getD i none <;> rfl

theorem isSymbol_of_mem_shownWords (hinput : IsSymbol f.input) (hreads : ∀ r, some r ∈ f.reads → IsSymbol r) :
    ∀ s ∈ f.shownWords, IsSymbol s := by
  intro s hs
  rcases List.mem_cons.1 hs with rfl | hs
  · exact hinput
  · obtain ⟨r, hr, rfl⟩ := List.mem_map.1 hs
    cases r with
    | none => exact Rule.isSymbol_of_name (by simp [Rule.Terminal.Spells, Rule.isNameChar, epsilon])
    | some r => exact hreads r hr

theorem solid_text (hinput : IsSymbol f.input) (hreads : ∀ r, some r ∈ f.reads → IsSymbol r) :
    Solid f.text := by
  unfold text
  split
  · exact hinput.solid
  · have hwords : Solid (",".intercalate f.shownWords) := solid_intercalate (solid_of_all (by decide)) fun s hs =>
      (isSymbol_of_mem_shownWords hinput hreads s hs).solid
    exact solid_append (solid_append (solid_of_all (by decide)) hwords) (solid_of_all (by decide))

/-- **A filter is shown up to its key.** -/
theorem key_eq_of_text_eq (hf : IsSymbol f.input) (hfreads : ∀ r, some r ∈ f.reads → IsSymbol r)
    (hg : IsSymbol g.input) (hgreads : ∀ r, some r ∈ g.reads → IsSymbol r) (h : f.text = g.text) :
    f.key = g.key := by
  have hbracket : ∀ (s t : String), IsSymbol s → s ≠ "[" ++ t ++ "]" := by
    rintro s t hs rfl
    exact hs.not_mem (c := '[') (by decide) (by simp)
  have hidle : ∀ f : Filter, f.reads.all (·.isNone) = true → ∀ i, f.demand i = none := by
    intro f hall i
    have hnone : f.reads.getD i none = none := by
      rw [List.getD_eq_getElem?_getD]
      cases hr : f.reads[i]? with
      | none => rfl
      | some r => exact Option.isNone_iff_eq_none.1 (List.all_eq_true.1 hall r (List.mem_of_getElem? hr))
    rw [demand, hnone]
    rfl
  unfold text at h
  rw [key_eq_iff]
  by_cases hfidle : f.reads.all (·.isNone) = true
  · rw [if_pos hfidle] at h
    by_cases hgidle : g.reads.all (·.isNone) = true
    · rw [if_pos hgidle] at h
      exact ⟨h, fun i => by rw [hidle f hfidle, hidle g hgidle]⟩
    · rw [if_neg hgidle] at h
      exact absurd h (hbracket _ _ hf)
  · rw [if_neg hfidle] at h
    by_cases hgidle : g.reads.all (·.isNone) = true
    · rw [if_pos hgidle] at h
      exact absurd h.symm (hbracket _ _ hg)
    · rw [if_neg hgidle] at h
      have hjoined : ",".intercalate f.shownWords = ",".intercalate g.shownWords := by
        have hlists := congrArg String.toList h
        simp only [String.toList_append, List.append_assoc] at hlists
        exact String.toList_inj.1 (List.append_cancel_right (List.append_cancel_left hlists))
      have hwords := intercalate_inj (c := ',') rfl List.not_mem_nil
        (fun s hs => (isSymbol_of_mem_shownWords hf hfreads s hs).not_mem (by decide))
        (fun s hs => (isSymbol_of_mem_shownWords hg hgreads s hs).not_mem (by decide))
        (List.cons_ne_nil _ _) (List.cons_ne_nil _ _) hjoined
      obtain ⟨hinput, hreads⟩ := List.cons.inj hwords
      exact ⟨hinput, fun i => by rw [demand_eq, demand_eq, hreads]⟩

end Filter

/-! ## Actions -/

/-- The symbol that an operation pushes, with its channel. -/
def Op.pushed? : Op → Option (Int × String)
  | push channel value => some (channel, value)
  | _ => none

/-- How a symbol that is pushed to a channel is shown. -/
def pushText (p : Int × String) : String := toString p.1 ++ ":" ++ p.2

theorem pushText_injective : Function.Injective pushText := by
  rintro ⟨channel, value⟩ ⟨channel', value'⟩ h
  have hlists : (toString channel).toList ++ [':'] ++ value.toList =
      (toString channel').toList ++ [':'] ++ value'.toList := by
    simpa [pushText] using congrArg String.toList h
  obtain ⟨hchannel, hvalue⟩ := Text.readable_int (by decide) (by decide) channel channel' _ _ hlists
  exact Prod.ext hchannel (String.toList_inj.1 hvalue)

namespace Action

variable {target input : String} {cs cs' : List ChannelOp}

/-- The symbols that an action pushes. -/
def pushed (a : Action) : List (Int × String) := a.ops.filterMap Op.pushed?

/-- The pushes of a lowered transition are all that it pushes. -/
theorem map_pushed (target input : String) (cs : List ChannelOp) :
    (build target input cs).pushed.map (fun p => Op.push p.1 p.2) = pushes cs 0 := by
  have hpops : (pops cs 0).filterMap Op.pushed? = [] := by
    refine List.filterMap_eq_nil_iff.2 fun op hop => ?_
    obtain ⟨j, _, _, rfl⟩ := mem_pops hop
    rfl
  have hpushes : ∀ ops : List Op, (∀ op ∈ ops, ∃ channel value, op = .push channel value) →
      (ops.filterMap Op.pushed?).map (fun p => Op.push p.1 p.2) = ops := by
    intro ops hops
    induction ops with
    | nil => rfl
    | cons op ops ih =>
      obtain ⟨⟨channel, value, rfl⟩, hrest⟩ := List.forall_mem_cons.1 hops
      have hfirst : (Op.push channel value).pushed? = some (channel, value) := rfl
      rw [List.filterMap_cons_some hfirst, List.map_cons, ih hrest]
  have hpushed : (build target input cs).pushed = (pushes cs 0).filterMap Op.pushed? := by
    unfold pushed build
    simp only [List.filterMap_append, hpops]
    split <;> simp [List.filterMap_cons, Op.pushed?]
  rw [hpushed]
  refine hpushes _ fun op hop => ?_
  obtain ⟨j, value, _, _, rfl⟩ := mem_pushes hop
  exact ⟨j, value, rfl⟩

/-- Lowered transitions that read and push alike are one action. -/
theorem build_eq_of_key_eq
    (hkey : (⟨input, cs.map (·.read)⟩ : Filter).key = (⟨input, cs'.map (·.read)⟩ : Filter).key)
    (hpushed : (build target input cs).pushed = (build target input cs').pushed) :
    build target input cs = build target input cs' := by
  have hdemand : ∀ (ops : List ChannelOp) i,
      concrete (ops.getD i {}).read = (⟨input, ops.map (·.read)⟩ : Filter).demand i := fun ops i =>
    congrArg Filter.normalRead (List.getD_map ops {} ChannelOp.read).symm
  have hpops : pops cs 0 = pops cs' 0 := by
    rw [pops_eq_each, pops_eq_each]
    refine each_congr (fun _ => rfl) (fun i j => ?_) 0
    rw [popOf, popOf, hdemand, hdemand, (Filter.key_eq_iff.1 hkey).2 i]
  have hpushes : pushes cs 0 = pushes cs' 0 := by
    rw [← map_pushed target input cs, ← map_pushed target input cs', hpushed]
  rw [build, build, hpops, hpushes]

end Action

/-! ## Rows -/

namespace Entry

variable {d e : Entry}

/-- A row as it is listed. -/
def line (e : Entry) : String := "  " ++ e.describe ++ " -> " ++ e.action.target

/-- The words that a row is listed with, the margin being two empty words. -/
def words (e : Entry) : List String :=
  ["", "", e.filter.text] ++ (if e.pushTexts.isEmpty then [] else ["push", ",".intercalate e.pushTexts]) ++
    ["->", e.action.target]

theorem line_eq (e : Entry) : e.line = " ".intercalate e.words := by
  refine String.toList_inj.1 ?_
  unfold line describe words
  split <;> simp

theorem pushTexts_eq (e : Entry) : e.pushTexts = e.action.pushed.map pushText := by
  unfold pushTexts Action.pushed
  rw [List.map_filterMap]
  congr 1
  funext op
  cases op <;> rfl

namespace IsLegible

theorem input_eq (h : e.IsLegible) : e.filter.input = e.label := by
  obtain ⟨_, _, hlowered⟩ := h.lowered
  rw [hlowered.filter]
  rfl

theorem input (h : e.IsLegible) : IsSymbol e.filter.input := h.input_eq ▸ h.label

theorem isSymbol_of_mem_pushed (h : e.IsLegible) {p : Int × String} (hp : p ∈ e.action.pushed) :
    IsSymbol p.2 := by
  obtain ⟨op, hop, hpushed⟩ := List.mem_filterMap.1 hp
  cases op with
  | push channel value =>
    obtain rfl := Option.some.inj hpushed
    exact h.pushed channel value hop
  | _ => cases hpushed

theorem solid_pushTexts (h : e.IsLegible) : ∀ s ∈ e.pushTexts, Solid s := by
  rw [pushTexts_eq]
  refine List.forall_mem_map.2 fun p hp => ?_
  exact solid_append (solid_append (solid_int p.1) (solid_of_all (by decide))) (h.isSymbol_of_mem_pushed hp).solid

theorem comma_not_mem_pushTexts (h : e.IsLegible) : ∀ s ∈ e.pushTexts, ',' ∉ s.toList := by
  rw [pushTexts_eq]
  refine List.forall_mem_map.2 fun p hp => ?_
  have hchannel : ',' ∉ (toString p.1).toList := fun hmem =>
    (Text.isDigit_or_minus_of_mem_int hmem).elim (by decide) (by decide)
  have hvalue := (h.isSymbol_of_mem_pushed hp).not_mem (c := ',') (by decide)
  simp only [pushText, String.toList_append, List.mem_append, not_or]
  exact ⟨⟨hchannel, by decide⟩, hvalue⟩

theorem solid_words (h : e.IsLegible) : ∀ s ∈ e.words, Solid s := by
  have hfilter : Solid e.filter.text := Filter.solid_text h.input h.read
  have hpushes : Solid (",".intercalate e.pushTexts) :=
    solid_intercalate (solid_of_all (by decide)) h.solid_pushTexts
  have hpush : ∀ s ∈ (if e.pushTexts.isEmpty then [] else ["push", ",".intercalate e.pushTexts]), Solid s := by
    split
    · exact nofun
    · exact List.forall_mem_cons.2 ⟨solid_of_all (by decide), List.forall_mem_singleton.2 hpushes⟩
  have hempty : Solid "" := solid_of_all (by decide)
  intro s hs
  simp only [words, List.cons_append, List.nil_append, List.mem_cons, List.mem_append, List.not_mem_nil,
    or_false] at hs
  rcases hs with rfl | rfl | rfl | hs | rfl | rfl
  · exact hempty
  · exact hempty
  · exact hfilter
  · exact hpush s hs
  · exact solid_of_all (by decide)
  · exact h.target.solid

/-- The words of a row tell what stands in it. -/
theorem pushTexts_eq_of_words_eq (hd : d.IsLegible) (he : e.IsLegible) (h : d.words = e.words) :
    d.filter.text = e.filter.text ∧ d.pushTexts = e.pushTexts ∧ d.action.target = e.action.target := by
  unfold words at h
  cases hdpush : d.pushTexts with
  | nil =>
    cases hepush : e.pushTexts with
    | nil =>
      simp only [hdpush, hepush, List.isEmpty_nil, if_true, List.append_nil, List.cons_append, List.nil_append,
        List.cons.injEq, and_true, true_and] at h
      exact ⟨h.1, rfl, h.2⟩
    | cons q qs => simp [hdpush, hepush] at h
  | cons p ps =>
    cases hepush : e.pushTexts with
    | nil => simp [hdpush, hepush] at h
    | cons q qs =>
      simp only [hdpush, hepush, List.isEmpty_cons, Bool.false_eq_true, if_false, List.cons_append,
        List.nil_append, List.cons.injEq, and_true, true_and] at h
      have hcommas := hdpush ▸ hd.comma_not_mem_pushTexts
      have hcommas' := hepush ▸ he.comma_not_mem_pushTexts
      exact ⟨h.1, intercalate_inj (c := ',') rfl List.not_mem_nil hcommas hcommas' (List.cons_ne_nil _ _)
        (List.cons_ne_nil _ _) h.2.1, h.2.2⟩

/-- **A row is shown up to its filter key.** -/
theorem eq_of_line_eq (hd : d.IsLegible) (he : e.IsLegible) (h : d.line = e.line) :
    d.filter.key = e.filter.key ∧ d.label = e.label ∧ d.action = e.action := by
  rw [line_eq, line_eq] at h
  have hwords := intercalate_inj (c := ' ') rfl List.not_mem_nil
    (fun s hs => (hd.solid_words s hs).not_mem (by decide)) (fun s hs => (he.solid_words s hs).not_mem (by decide))
    (by simp [words]) (by simp [words]) h
  obtain ⟨htext, hpushes, htarget⟩ := hd.pushTexts_eq_of_words_eq he hwords
  have hkey := Filter.key_eq_of_text_eq hd.input hd.read he.input he.read htext
  have hlabel : d.label = e.label := by
    rw [← hd.input_eq, ← he.input_eq]
    exact (Filter.key_eq_iff.1 hkey).1
  have hpushed : d.action.pushed = e.action.pushed := by
    rw [pushTexts_eq, pushTexts_eq] at hpushes
    exact List.map_injective_iff.2 pushText_injective hpushes
  obtain ⟨_, cs, hdlowered⟩ := hd.lowered
  obtain ⟨_, cs', helowered⟩ := he.lowered
  refine ⟨hkey, hlabel, ?_⟩
  rw [hdlowered.filter, helowered.filter, Filter.key_padded, Filter.key_padded, hlabel] at hkey
  rw [hdlowered.action, helowered.action, hlabel, htarget] at hpushed ⊢
  exact Action.build_eq_of_key_eq hkey hpushed

end IsLegible

end Entry

/-! ## Blocks -/

/-- The lines of a state and of its rows. -/
def blockLines (b : String × List String) : List String := (b.1 ++ ":") :: b.2

/-- Whether a line begins with a blank. -/
def opensBlank (line : String) : Bool := line.toList.head? = some ' '

/-- Only rows are indented. -/
structure IsBlock (b : String × List String) : Prop where
  state : opensBlank (b.1 ++ ":") = false
  rows : ∀ line ∈ b.2, opensBlank line = true

/-- Blocks can be told from their lines. -/
theorem blocks_inj {bs cs : List (String × List String)} (hbs : ∀ b ∈ bs, IsBlock b)
    (hcs : ∀ c ∈ cs, IsBlock c) (h : bs.flatMap blockLines = cs.flatMap blockLines) : bs = cs := by
  -- Behind the rows of a block stands the state of the next one, if anything.
  have hrows : ∀ (b : String × List String) bs, (∀ b' ∈ b :: bs, IsBlock b') →
      (b.2 ++ bs.flatMap blockLines).takeWhile opensBlank = b.2 := by
    intro b bs hblocks
    obtain ⟨hb, hbs⟩ := List.forall_mem_cons.1 hblocks
    refine Rule.takeWhile_append_stop hb.rows ?_
    cases bs with
    | nil => exact nofun
    | cons b' bs =>
      intro line hline
      obtain rfl : b'.1 ++ ":" = line := Option.some.inj hline
      exact (hbs b' List.mem_cons_self).state
  induction bs generalizing cs with
  | nil =>
    cases cs with
    | nil => rfl
    | cons c cs => cases h
  | cons b bs ih =>
    cases cs with
    | nil => cases h
    | cons c cs =>
      have hlines : (b.1 ++ ":") :: (b.2 ++ bs.flatMap blockLines) =
          (c.1 ++ ":") :: (c.2 ++ cs.flatMap blockLines) := h
      obtain ⟨hstate, hrest⟩ := List.cons.inj hlines
      have htake := congrArg (List.takeWhile opensBlank) hrest
      rw [hrows b bs hbs, hrows c cs hcs] at htake
      rw [htake] at hrest
      have hsame : b.1 = c.1 := by
        have hlists := congrArg String.toList hstate
        rw [String.toList_append, String.toList_append] at hlists
        exact String.toList_inj.1 (List.append_cancel_right hlists)
      rw [ih (List.forall_mem_cons.1 hbs).2 (List.forall_mem_cons.1 hcs).2 (List.append_cancel_left hrest),
        Prod.ext hsame htake]

namespace Compiled

variable {m n : Compiled} {state : String}

/-- The states that have rows, with the lines of these. -/
def blocks (m : Compiled) : List (String × List String) :=
  m.states.filterMap fun state =>
    if m.entriesFor state = [] then none else some (state, (m.entriesFor state).map Entry.line)

theorem mem_blocks {lines : List String} : (state, lines) ∈ m.blocks ↔
    state ∈ m.states ∧ m.entriesFor state ≠ [] ∧ lines = (m.entriesFor state).map Entry.line := by
  unfold blocks
  rw [List.mem_filterMap]
  constructor
  · rintro ⟨q, hq, hblock⟩
    split at hblock
    · cases hblock
    · next hrows =>
      obtain ⟨rfl, rfl⟩ := Prod.ext_iff.1 (Option.some.inj hblock)
      exact ⟨hq, hrows, rfl⟩
  · rintro ⟨hstate, hrows, rfl⟩
    exact ⟨state, hstate, if_neg hrows⟩

/-- How the accepting states are listed. -/
def acceptText (names : List String) : String :=
  let accept := ", ".intercalate names
  if accept.isEmpty then "(none)" else accept

/-- The lines about the machine. -/
def headLines (m : Compiled) : List String :=
  ["initial: " ++ m.initial, "accept: " ++ acceptText m.accepting, "stacks: " ++ toString m.stackCount]

theorem listing_eq (m : Compiled) : m.listing = m.headLines ++ m.blocks.flatMap blockLines := by
  refine congrArg (m.headLines ++ ·) ?_
  unfold blocks
  generalize m.states = states
  induction states with
  | nil => rfl
  | cons state states ih =>
    rw [List.flatMap_cons, ih, List.filterMap_cons]
    cases m.entriesFor state with
    | nil => rfl
    | cons e es => rfl

theorem isBlock_of_mem_blocks (h : m.IsLegible) : ∀ b ∈ m.blocks, IsBlock b := by
  rintro ⟨state, lines⟩ hb
  obtain ⟨hstate, _, rfl⟩ := mem_blocks.1 hb
  constructor
  · obtain ⟨c, cs, hcs⟩ := List.exists_cons_of_ne_nil (h.state state hstate).1
    have hblank : c ≠ ' ' := by
      rintro rfl
      exact (h.state state hstate).not_mem (c := ' ') (by decide) (hcs ▸ List.mem_cons_self)
    simp [opensBlank, hcs, hblank]
  · intro line hline
    obtain ⟨e, _, rfl⟩ := List.mem_map.1 hline
    simp [opensBlank, Entry.line]

/-! ## Lines of a table -/

/-- Accepting states can be told from how they are listed. -/
theorem acceptText_inj {names names' : List String} (h : ∀ name ∈ names, IsSymbol name)
    (h' : ∀ name ∈ names', IsSymbol name) (heq : acceptText names = acceptText names') : names = names' := by
  have hcons : ∀ name names, (∀ s ∈ name :: names, IsSymbol s) →
      acceptText (name :: names) = ", ".intercalate (name :: names) ∧
        '(' ∉ (acceptText (name :: names)).toList := by
    intro name names hnames
    have hsome : (", ".intercalate (name :: names)).isEmpty = false := by
      refine Bool.eq_false_iff.2 fun hempty => (hnames name List.mem_cons_self).1 ?_
      have hnil := congrArg String.toList (String.isEmpty_iff.1 hempty)
      rw [Text.toList_intercalate_cons] at hnil
      exact (List.append_eq_nil_iff.1 hnil).1
    have htext : acceptText (name :: names) = ", ".intercalate (name :: names) := by
      simp [acceptText, hsome]
    refine ⟨htext, htext ▸ not_mem_intercalate (by decide) fun s hs => (hnames s hs).not_mem (by decide)⟩
  have hnil : acceptText [] = "(none)" := by decide
  cases names with
  | nil =>
    cases names' with
    | nil => rfl
    | cons name' names' =>
      exact absurd (by rw [← heq, hnil]; decide) (hcons name' names' h').2
  | cons name names =>
    cases names' with
    | nil => exact absurd (by rw [heq, hnil]; decide) (hcons name names h).2
    | cons name' names' =>
      rw [(hcons name names h).1, (hcons name' names' h').1] at heq
      exact intercalate_inj (c := ',') (w := [' ']) rfl (by decide) (fun s hs => (h s hs).not_mem (by decide))
        (fun s hs => (h' s hs).not_mem (by decide)) (List.cons_ne_nil _ _) (List.cons_ne_nil _ _) heq

/-- No line of a legible table is broken. -/
theorem feed_not_mem_listing (h : m.IsLegible) (hinitial : m.initial ∈ m.states)
    (haccepting : ∀ name ∈ m.accepting, name ∈ m.states) : ∀ line ∈ m.listing, '\n' ∉ line.toList := by
  have hfeed : Text.isBlank '\n' = true := by decide
  have hjoined : ∀ s t : String, '\n' ∉ s.toList → '\n' ∉ t.toList → '\n' ∉ (s ++ t).toList := by
    intro s t hs ht
    rw [String.toList_append, List.mem_append]
    exact not_or.2 ⟨hs, ht⟩
  have haccept : '\n' ∉ (acceptText m.accepting).toList := by
    unfold acceptText
    simp only
    split
    · decide
    · exact not_mem_intercalate (by decide) fun s hs => (h.state s (haccepting s hs)).solid.not_mem hfeed
  rw [listing_eq]
  intro line hline
  rcases List.mem_append.1 hline with hline | hline
  · simp only [headLines, List.mem_cons, List.not_mem_nil, or_false] at hline
    rcases hline with rfl | rfl | rfl
    · exact hjoined _ _ (by decide) ((h.state _ hinitial).solid.not_mem hfeed)
    · exact hjoined _ _ (by decide) haccept
    · exact hjoined _ _ (by decide) ((solid_int _).not_mem hfeed)
  · obtain ⟨⟨state, lines⟩, hblock, hline⟩ := List.mem_flatMap.1 hline
    obtain ⟨hstate, _, rfl⟩ := mem_blocks.1 hblock
    rcases List.mem_cons.1 hline with rfl | hline
    · exact hjoined _ _ ((h.state state hstate).solid.not_mem hfeed) (by decide)
    · obtain ⟨e, he, rfl⟩ := List.mem_map.1 hline
      rw [Entry.line_eq]
      exact not_mem_intercalate (by decide) fun s hs => ((h.row state e he).solid_words s hs).not_mem hfeed

/-- **States are shown with their rows.** -/
theorem rows_of_blocks_eq (hm : m.entriesFor state ≠ [] → state ∈ m.states)
    (hn : n.entriesFor state ≠ [] → state ∈ n.states) (h : m.blocks = n.blocks) :
    (m.entriesFor state).map Entry.line = (n.entriesFor state).map Entry.line := by
  by_cases hrows : m.entriesFor state = []
  · by_cases hrows' : n.entriesFor state = []
    · rw [hrows, hrows']
    · have hblock := mem_blocks.2 ⟨hn hrows', hrows', rfl⟩
      rw [← h] at hblock
      exact (mem_blocks.1 hblock).2.2.symm
  · have hblock := mem_blocks.2 ⟨hm hrows, hrows, rfl⟩
    rw [h] at hblock
    exact (mem_blocks.1 hblock).2.2

/-- The rows of a table are found by their state, and no state is kept without rows. -/
theorem entriesFor_of_mem_transitions {cap : Capacity} {settings : Settings} {ss : List Statement} {rows : List Entry}
    (h : (compileStatements cap settings ss).result = .ok m) (hrows : (state, rows) ∈ m.transitions) :
    m.entriesFor state = rows ∧ rows ≠ [] := by
  obtain ⟨rules, initial, _, _, rfl⟩ := compiled_iff.1 h
  let p : Program := ⟨rules⟩
  have hnodup : ((p.finished settings initial).transitions.map (·.1)).Nodup := by
    rw [Program.finished, Program.keys_table]
    exact nodup_eraseDups _
  have hlookup : (p.finished settings initial).transitions.lookup state = some rows := by
    obtain ⟨front, back, htransitions⟩ := List.append_of_mem hrows
    rw [htransitions, List.map_append, List.map_cons, List.nodup_append] at hnodup
    refine List.lookup_eq_some_iff.2 ⟨front, back, htransitions, fun row hrow => bne_iff_ne.2 ?_⟩
    exact (hnodup.2.2 _ (List.mem_map_of_mem hrow) _ List.mem_cons_self).symm
  refine ⟨by rw [entriesFor, hlookup]; rfl, ?_⟩
  rw [Program.finished, Program.lookup_table] at hlookup
  split at hlookup
  · cases hlookup
  · next hsome =>
    obtain rfl := Option.some.inj hlookup
    simpa using hsome

end Compiled

/-- **The listing of a table shows the whole machine.** Of a table that comes from a text, no row is left out:
each state that has rows stands in the listing with all of them behind it, in their order. And if the listings
of two such tables are printed as the same text, whatever was asked for when they were compiled, then they have
the same initial state, the same accepting states and as many stacks, and every state has the same rows in the
same order, up to the filter key: with the same label, operations and target. -/
theorem listing_shows_machine {cap : Capacity} {settings : Settings} {source : String} {m : Compiled}
    (hm : (compile cap settings source).result = .ok m) :
    (∀ state rows, (state, rows) ∈ m.transitions → rows = m.entriesFor state ∧ rows ≠ [] ∧
      (state ++ ":") :: rows.map Entry.line <:+: m.listing) ∧
    ∀ settings' source' n, (compile cap settings' source').result = .ok n → printed m.listing = printed n.listing →
      m.initial = n.initial ∧ m.accepting = n.accepting ∧ m.stackCount = n.stackCount ∧
        ∀ state, List.Forall₂ (fun a b => a.filter.key = b.filter.key ∧ a.label = b.label ∧
          a.action.ops = b.action.ops ∧ a.action.target = b.action.target)
          (m.entriesFor state) (n.entriesFor state) := by
  have hform : ∀ {settings source t}, (compile cap settings source).result = .ok t →
      t.initial ∈ t.states ∧ (∀ name ∈ t.accepting, name ∈ t.states) ∧
        ∀ state, t.entriesFor state ≠ [] → state ∈ t.states := by
    intro settings source t ht
    obtain ⟨ss, hss, hcompiled⟩ := exists_statements_of_compile ht
    obtain ⟨_, _, hform⟩ := wellFormed_of_statementsOf hss hcompiled
    exact ⟨hform.initial, hform.accepting, (isLowered_of_compiled hcompiled).source⟩
  have hlegible := isLegible_of_compile hm
  obtain ⟨hinitial, haccepting, hsource⟩ := hform hm
  refine ⟨fun state rows hrows => ?_, fun settings' source' n hn hprinted => ?_⟩
  · obtain ⟨ss, _, hcompiled⟩ := exists_statements_of_compile hm
    obtain ⟨rfl, hsome⟩ := Compiled.entriesFor_of_mem_transitions hcompiled hrows
    have hblock := Compiled.mem_blocks.2 ⟨hsource state hsome, hsome, rfl⟩
    refine ⟨rfl, hsome, ?_⟩
    rw [Compiled.listing_eq]
    exact (Rule.infix_flatMap (f := blockLines) hblock).trans (List.suffix_append _ _).isInfix
  · have hlegible' := isLegible_of_compile hn
    obtain ⟨hinitial', haccepting', hsource'⟩ := hform hn
    have hlisting := printed_inj (Compiled.feed_not_mem_listing hlegible hinitial haccepting)
      (Compiled.feed_not_mem_listing hlegible' hinitial' haccepting') hprinted
    rw [Compiled.listing_eq, Compiled.listing_eq] at hlisting
    obtain ⟨hhead, hblocks⟩ := List.append_inj hlisting rfl
    obtain ⟨hfirst, haccept, hstacks⟩ : "initial: " ++ m.initial = "initial: " ++ n.initial ∧
        "accept: " ++ Compiled.acceptText m.accepting = "accept: " ++ Compiled.acceptText n.accepting ∧
        "stacks: " ++ toString m.stackCount = "stacks: " ++ toString n.stackCount := by
      simpa only [Compiled.headLines, List.cons.injEq, and_true] using hhead
    have hbehind : ∀ label s t : String, label ++ s = label ++ t → s = t := by
      intro label s t heq
      have hlists := congrArg String.toList heq
      rw [String.toList_append, String.toList_append] at hlists
      exact String.toList_inj.1 (List.append_cancel_left hlists)
    have hsame := blocks_inj (Compiled.isBlock_of_mem_blocks hlegible) (Compiled.isBlock_of_mem_blocks hlegible')
      hblocks
    refine ⟨hbehind _ _ _ hfirst, ?_, Int.repr_injective (hbehind _ _ _ hstacks), fun state => ?_⟩
    · exact Compiled.acceptText_inj (fun s hs => hlegible.state s (haccepting s hs))
        (fun s hs => hlegible'.state s (haccepting' s hs)) (hbehind _ _ _ haccept)
    · have hlines := Compiled.rows_of_blocks_eq (hsource state) (hsource' state) hsame
      rw [← List.forall₂_eq_eq_eq, List.forall₂_map_left_iff, List.forall₂_map_right_iff] at hlines
      refine List.forall₂_iff_get.2 ⟨hlines.length_eq, fun i hi hi' => ?_⟩
      obtain ⟨hkey, hlabel, haction⟩ := (hlegible.row state _ (List.get_mem _ ⟨i, hi⟩)).eq_of_line_eq
        (hlegible'.row state _ (List.get_mem _ ⟨i, hi'⟩)) (hlines.get hi hi')
      exact ⟨hkey, hlabel, by rw [haction], by rw [haction]⟩

/-- The tables of `.a -[x,_,Z]Y> (b);` and of `.a -[x,:_,Z]Y> (b);`, which differ in a read that asks for
nothing. -/
def asking (read : Option String) : Compiled where
  initial := "a"
  transitions := [("a", [⟨"x", ⟨"x", [read, some "Z"]⟩, ⟨"b", [.consume, .pop 1, .push 0 "Y", .set "b"]⟩,
    some ⟨1, 6⟩⟩])]
  accepting := ["b"]
  stackCount := 2
  states := ["a", "b"]
  labels := ["x"]

theorem asking_listed : asking (some "_") ≠ asking none ∧
    ["a:", "  [x,_,Z] push 0:Y -> b"] <:+: (asking none).listing ∧
    (asking (some "_")).stackCount = (asking none).stackCount ∧
    List.Forall₂ (fun a b => a.filter.key = b.filter.key ∧ a.label = b.label ∧
      a.action.ops = b.action.ops ∧ a.action.target = b.action.target)
      ((asking (some "_")).entriesFor "a") ((asking none).entriesFor "a") := by
  have hblank : (compile .ample {} ".a -[x,_,Z]Y> (b);").result = .ok (asking (some "_")) := by decide +kernel
  have hwritten : (compile .ample {} ".a -[x,:_,Z]Y> (b);").result = .ok (asking none) := by decide +kernel
  have hlisting : (asking (some "_")).listing = (asking none).listing := by decide +kernel
  obtain ⟨_, _, hstacks, hrows⟩ :=
    (listing_shows_machine hblank).2 {} _ _ hwritten (congrArg printed hlisting)
  obtain ⟨_, _, hlines⟩ := (listing_shows_machine hwritten).1 "a" _ List.mem_cons_self
  exact ⟨by decide, hlines, hstacks, hrows "a"⟩

end ArrowMachine
