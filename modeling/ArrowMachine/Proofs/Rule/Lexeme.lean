import ArrowMachine.Rule.Cursor
import Mathlib.Data.List.Basic

/-!
Lexemes and the layout between them.

`Terminal.Spells` and `Layout` say which texts are words of a kind and which may stand between words.
Reading is tied to them here: `munch?` takes a word that cannot be read on (`munch?_eq_some_iff`), the
cursor skips exactly layout (`exists_skipped`), and `Cursor.take` finds the one expected kind that fits
(`take_complete`).
-/
namespace ArrowMachine.Rule

open ArrowMachine.Text

/-! ## Words -/

/-- What may stand between the slashes of a pattern: no slash and no line feed, but a backslash with any
other character behind it. -/
inductive PatternBody : List Char → Prop
  | nil : PatternBody []
  | plain {c : Char} {cs : List Char} (hslash : c ≠ '/') (hback : c ≠ '\\') (hline : c ≠ '\n')
      (h : PatternBody cs) : PatternBody (c :: cs)
  | escaped {c : Char} {cs : List Char} (hline : c ≠ '\n') (h : PatternBody cs) :
      PatternBody ('\\' :: c :: cs)

/-- The texts of a kind of token. -/
def Terminal.Spells (k : Terminal) (w : List Char) : Prop :=
  match k with
  | .name => w ≠ [] ∧ ∀ c ∈ w, isNameChar c = true
  | .symbol => w ≠ [] ∧ ∀ c ∈ w, isSymbolChar c = true
  | .regex => ∃ body, body ≠ [] ∧ PatternBody body ∧ w = '/' :: body ++ ['/']
  | k => ∃ c, k.char? = some c ∧ w = [c]

/-- Whether a token of the kind is read on over a character. -/
def Terminal.goesOn (k : Terminal) (c : Char) : Bool :=
  match k with
  | .name => isNameChar c
  | .symbol => isSymbolChar c
  | _ => false

theorem regexBody_eq_some_iff {cs body rest : List Char} :
    regexBody cs = some (body, rest) ↔ PatternBody body ∧ cs = body ++ '/' :: rest := by
  constructor
  · intro h
    fun_induction regexBody cs generalizing body rest with
    | case1 => cases h
    | case2 cs =>
      cases h
      exact ⟨.nil, rfl⟩
    | case3 => cases h
    | case4 c cs hline ih =>
      obtain ⟨r, hr, hsome⟩ := Option.map_eq_some_iff.1 h
      cases hsome
      obtain ⟨hbody, rfl⟩ := ih hr
      exact ⟨.escaped (by simpa using hline) hbody, rfl⟩
    | case5 => cases h
    | case6 c cs hslash hback hline ih =>
      obtain ⟨r, hr, hsome⟩ := Option.map_eq_some_iff.1 h
      cases hsome
      obtain ⟨hbody, rfl⟩ := ih hr
      simp only [Bool.or_eq_true, decide_eq_true_eq, not_or] at hline
      exact ⟨.plain (fun hc => hslash hc) hline.2 hline.1 hbody, rfl⟩
  · rintro ⟨hbody, rfl⟩
    induction hbody with
    | nil => rfl
    | plain hslash hback hline _ ih => simp [regexBody, hback, hline, ih]
    | escaped hline _ ih => simp [regexBody, hline, ih]

theorem takeWhile_append_stop {α : Type} {ok : α → Bool} {w rest : List α} (hw : ∀ c ∈ w, ok c = true)
    (hrest : ∀ c ∈ rest.head?, ok c = false) : (w ++ rest).takeWhile ok = w := by
  rw [List.takeWhile_append_of_pos hw]
  cases rest with
  | nil => simp
  | cons c rest => simp [hrest c rfl]

theorem run?_eq_some_iff {ok : Char → Bool} {cs w rest : List Char} :
    run? ok cs = some (w, rest) ↔
      w ≠ [] ∧ (∀ c ∈ w, ok c = true) ∧ cs = w ++ rest ∧ ∀ c ∈ rest.head?, ok c = false := by
  unfold run?
  constructor
  · intro h
    split at h
    · cases h
    · next hne =>
      cases h
      refine ⟨hne, List.all_eq_true.1 List.all_takeWhile, List.takeWhile_append_dropWhile.symm, ?_⟩
      intro c hc
      have hdrop := List.head?_dropWhile_not ok cs
      rw [Option.mem_def.1 hc] at hdrop
      simpa using hdrop
  · rintro ⟨hne, hw, rfl, hrest⟩
    have htake := takeWhile_append_stop hw hrest
    have hdrop : (w ++ rest).dropWhile ok = rest := by
      have hboth := List.takeWhile_append_dropWhile (p := ok) (l := w ++ rest)
      rw [htake] at hboth
      exact List.append_cancel_left hboth
    obtain ⟨c, w, rfl⟩ := List.exists_cons_of_ne_nil hne
    simp only [htake, hdrop]

/-- Reading a token that is always the same. -/
theorem munch?_sign {k : Terminal} {a : Char} (hk : k.char? = some a) (cs : List Char) :
    munch? k cs = if cs.head? = some a then some ([a], cs.tail) else none := by
  cases cs with
  | nil => cases k <;> rfl
  | cons c rest =>
    have hsign : munch? k (c :: rest) = if k.char? = some c then some ([c], rest) else none := by
      cases k <;> first | rfl | cases hk
    rw [hsign, hk]
    simp only [List.head?_cons, List.tail_cons]
    by_cases hc : a = c
    · simp [hc]
    · simp [hc, Ne.symm hc]

theorem spells_sign {k : Terminal} {a : Char} (hk : k.char? = some a) {w : List Char} :
    k.Spells w ↔ w = [a] := by
  have hsign : k.Spells w ↔ ∃ c, k.char? = some c ∧ w = [c] := by
    cases k <;> first | rfl | cases hk
  rw [hsign, hk]
  simp

/-- **A token is taken as long as can be.** -/
theorem munch?_eq_some_iff {k : Terminal} {cs w rest : List Char} :
    munch? k cs = some (w, rest) ↔
      k.Spells w ∧ cs = w ++ rest ∧ ∀ c ∈ rest.head?, k.goesOn c = false := by
  cases hk : k.char? with
  | some a =>
    have hstops : ∀ c, k.goesOn c = false := by
      intro c
      cases k <;> first | rfl | cases hk
    rw [munch?_sign hk, spells_sign hk]
    constructor
    · intro h
      split at h
      · next hhead =>
        cases h
        obtain ⟨tail, rfl⟩ := List.head?_eq_some_iff.1 hhead
        exact ⟨rfl, rfl, fun c _ => hstops c⟩
      · cases h
    · rintro ⟨rfl, rfl, _⟩
      simp
  | none =>
    cases k with
    | name => exact run?_eq_some_iff.trans (by simp only [Terminal.Spells, Terminal.goesOn, and_assoc])
    | symbol => exact run?_eq_some_iff.trans (by simp only [Terminal.Spells, Terminal.goesOn, and_assoc])
    | finish => simp [munch?, Terminal.Spells, Terminal.char?]
    | regex =>
      simp only [munch?, Terminal.Spells, Terminal.goesOn, implies_true, and_true]
      constructor
      · intro h
        split at h
        · split at h
          · next hread =>
            cases h
            obtain ⟨hbody, rfl⟩ := regexBody_eq_some_iff.1 hread
            exact ⟨⟨_, by simp, hbody, rfl⟩, by simp⟩
          · cases h
        · cases h
      · rintro ⟨⟨body, hne, hbody, rfl⟩, rfl⟩
        obtain ⟨c, body, rfl⟩ := List.exists_cons_of_ne_nil hne
        have hread : regexBody (c :: body ++ '/' :: rest) = some (c :: body, rest) :=
          regexBody_eq_some_iff.2 ⟨hbody, rfl⟩
        simp only [List.cons_append, List.append_assoc, List.nil_append] at hread ⊢
        rw [hread]
    | _ => cases hk

/-! ## Layout -/

/-- Blanks, and comments that end with their line. -/
inductive Layout : List Char → Prop
  | nil : Layout []
  | blank {c : Char} {cs : List Char} (hc : isLayout c = true) (h : Layout cs) : Layout (c :: cs)
  | comment {body cs : List Char} (hbody : '\n' ∉ body) (h : Layout cs) :
      Layout ('#' :: (body ++ '\n' :: cs))

/-- Layout at the end of a text, where a comment may end with the text. -/
def LastLayout (cs : List Char) : Prop :=
  Layout cs ∨ ∃ front body, Layout front ∧ '\n' ∉ body ∧ cs = front ++ '#' :: body

theorem Layout.append {l m : List Char} (hl : Layout l) (hm : Layout m) : Layout (l ++ m) := by
  induction hl with
  | nil => exact hm
  | blank hc _ ih => exact .blank hc ih
  | comment hbody _ ih =>
    rw [List.cons_append, List.append_assoc, List.cons_append]
    exact .comment hbody ih

theorem LastLayout.of_append {l m : List Char} (hl : Layout l) (hm : LastLayout m) :
    LastLayout (l ++ m) := by
  rcases hm with hm | ⟨front, body, hfront, hbody, rfl⟩
  · exact Or.inl (hl.append hm)
  · exact Or.inr ⟨l ++ front, body, hl.append hfront, hbody, by simp⟩

theorem LastLayout.blank {c : Char} {cs : List Char} (hc : isLayout c = true) (h : LastLayout cs) :
    LastLayout (c :: cs) := .of_append (.blank hc .nil) h

/-- A comment may have any character more but a line feed. -/
theorem Layout.comment_cons {c : Char} {cs : List Char} (hc : c ≠ '\n') (h : Layout ('#' :: cs)) :
    Layout ('#' :: c :: cs) := by
  cases h with
  | blank hblank _ => cases hblank
  | @comment body _ hbody h =>
    have hmore : '\n' ∉ c :: body := by simp [Ne.symm hc, hbody]
    exact .comment hmore h

theorem LastLayout.comment_cons {c : Char} {cs : List Char} (hc : c ≠ '\n')
    (h : LastLayout ('#' :: cs)) : LastLayout ('#' :: c :: cs) := by
  rcases h with h | ⟨front, body, hfront, hbody, heq⟩
  · exact Or.inl (h.comment_cons hc)
  · cases hfront with
    | nil =>
      obtain rfl : cs = body := by simpa using heq
      exact Or.inr ⟨[], c :: cs, .nil, by simp [Ne.symm hc, hbody], rfl⟩
    | blank hblank _ =>
      obtain rfl := (List.cons.inj heq).1
      cases hblank
    | comment hline hfront =>
      refine Or.inr ⟨_, body, .comment_cons hc (.comment hline hfront), hbody, ?_⟩
      rw [(List.cons.inj heq).2]
      simp

/-- **What is skipped is layout.** Behind the sign of a comment, what is skipped makes layout together
with it. -/
theorem exists_skipped (inComment : Bool) (cs : List Char) (p : Position) :
    let r := skipLayout inComment cs p
    let sign := if inComment then ['#'] else []
    ∃ l, cs = l ++ r.1 ∧ r.2 = p.advance l ∧
      (Layout (sign ++ l) ∨ r.1 = [] ∧ LastLayout (sign ++ l)) := by
  induction cs generalizing inComment p with
  | nil =>
    cases inComment with
    | true => exact ⟨[], rfl, rfl, Or.inr ⟨rfl, Or.inr ⟨[], [], .nil, by simp, rfl⟩⟩⟩
    | false => exact ⟨[], rfl, rfl, Or.inl .nil⟩
  | cons c cs ih =>
    -- One character more in front of what is skipped behind it.
    have hstep : ∀ next : Bool, skipLayout inComment (c :: cs) p = skipLayout next cs (p.next c) →
        (∀ l, Layout ((if next then ['#'] else []) ++ l) →
          Layout ((if inComment then ['#'] else []) ++ c :: l)) →
        (∀ l, LastLayout ((if next then ['#'] else []) ++ l) →
          LastLayout ((if inComment then ['#'] else []) ++ c :: l)) →
        ∃ l, c :: cs = l ++ (skipLayout inComment (c :: cs) p).1 ∧
          (skipLayout inComment (c :: cs) p).2 = p.advance l ∧
          (Layout ((if inComment then ['#'] else []) ++ l) ∨
            (skipLayout inComment (c :: cs) p).1 = [] ∧
              LastLayout ((if inComment then ['#'] else []) ++ l)) := by
      intro next hskip hlayout hlast
      obtain ⟨l, hcs, hpos, h⟩ := ih next (p.next c)
      rw [hskip]
      refine ⟨c :: l, by rw [List.cons_append, ← hcs], hpos, ?_⟩
      exact h.imp (hlayout l) fun ⟨hnil, h⟩ => ⟨hnil, hlast l h⟩
    cases inComment with
    | true =>
      by_cases hc : c = '\n'
      · subst hc
        have hempty : Layout ['#', '\n'] := .comment List.not_mem_nil .nil
        exact hstep false rfl (fun _ h => hempty.append h) fun l h =>
          LastLayout.of_append (m := l) hempty h
      · refine hstep true (by simp [skipLayout, hc]) (fun l h => h.comment_cons hc) fun l h => ?_
        exact LastLayout.comment_cons hc h
    | false =>
      by_cases hc : isLayout c = true
      · exact hstep false (by simp [skipLayout, hc]) (fun l h => .blank hc h) fun l h => .blank hc h
      · by_cases hsign : c = '#'
        · subst hsign
          exact hstep true rfl (fun l h => h) fun l h => h
        · refine ⟨[], ?_, ?_, Or.inl .nil⟩
          · simp [skipLayout, hc, hsign]
          · simp [skipLayout, hc, hsign, Position.advance_nil]

theorem skipLayout_comment {body : List Char} (hbody : '\n' ∉ body) (rest : List Char)
    (p : Position) :
    skipLayout true (body ++ rest) p = skipLayout true rest (p.advance body) := by
  induction body generalizing p with
  | nil => rfl
  | cons c body ih =>
    simp only [List.mem_cons, not_or] at hbody
    rw [List.cons_append, skipLayout, if_pos rfl, decide_eq_true (Ne.symm hbody.1), ih hbody.2]
    rfl

theorem skipLayout_append {l : List Char} (h : Layout l) (rest : List Char) (p : Position) :
    skipLayout false (l ++ rest) p = skipLayout false rest (p.advance l) := by
  induction h generalizing p with
  | nil => rfl
  | @blank c cs hc _ ih =>
    rw [List.cons_append, skipLayout]
    simp only [hc, if_true, Bool.false_eq_true, if_false, ih]
    rfl
  | @comment body cs hbody _ ih =>
    have hline : skipLayout true ('\n' :: cs ++ rest) ((p.next '#').advance body) =
        skipLayout false (cs ++ rest) (((p.next '#').advance body).next '\n') := rfl
    rw [List.cons_append, List.append_assoc]
    change skipLayout true (body ++ ('\n' :: cs ++ rest)) (p.next '#') = _
    rw [skipLayout_comment hbody, hline, ih]
    change _ = skipLayout false rest ((p.next '#').advance (body ++ '\n' :: cs))
    rw [Position.advance_append]
    rfl

theorem skipLayout_of_last {cs : List Char} (h : LastLayout cs) (p : Position) :
    (skipLayout false cs p).1 = [] := by
  rcases h with h | ⟨front, body, hfront, hbody, rfl⟩
  · have hskip := skipLayout_append h [] p
    rw [List.append_nil] at hskip
    rw [hskip]
    rfl
  · rw [skipLayout_append hfront]
    change (skipLayout true body _).1 = []
    have hskip := skipLayout_comment hbody [] ((p.advance front).next '#')
    rw [List.append_nil] at hskip
    rw [hskip]
    rfl

/-- Nothing is skipped in front of a character that is neither blank nor begins a comment. -/
theorem skipLayout_of_head {cs : List Char} (p : Position)
    (h : ∀ c ∈ cs.head?, isLayout c = false ∧ c ≠ '#') : skipLayout false cs p = (cs, p) := by
  cases cs with
  | nil => rfl
  | cons c cs =>
    obtain ⟨hblank, hsign⟩ := h c rfl
    simp [skipLayout, hblank, hsign]

/-! ## Kinds that are told apart -/

/-- Whether a token of the kind may begin with a character. -/
def Terminal.opens (k : Terminal) (c : Char) : Bool :=
  match k with
  | .name => isNameChar c
  | .symbol => isSymbolChar c
  | .regex => c = '/'
  | k => k.char? = some c

theorem opens_of_spells {k : Terminal} {w : List Char} (h : k.Spells w) :
    ∃ c cs, w = c :: cs ∧ k.opens c = true := by
  cases hk : k.char? with
  | some a =>
    rw [spells_sign hk] at h
    refine ⟨a, [], h, ?_⟩
    cases k <;> first | simpa [Terminal.opens] using hk | cases hk
  | none =>
    cases k with
    | name =>
      obtain ⟨hne, hw⟩ := h
      obtain ⟨c, cs, rfl⟩ := List.exists_cons_of_ne_nil hne
      exact ⟨c, cs, rfl, hw c List.mem_cons_self⟩
    | symbol =>
      obtain ⟨hne, hw⟩ := h
      obtain ⟨c, cs, rfl⟩ := List.exists_cons_of_ne_nil hne
      exact ⟨c, cs, rfl, hw c List.mem_cons_self⟩
    | regex =>
      obtain ⟨body, _, _, rfl⟩ := h
      exact ⟨'/', _, rfl, rfl⟩
    | finish =>
      obtain ⟨c, hc, _⟩ := h
      cases hc
    | _ => cases hk

/-- A token begins neither like layout nor like a comment. -/
theorem opens_layout {k : Terminal} {c : Char} (h : k.opens c = true) :
    isLayout c = false ∧ c ≠ '#' := by
  have hrun : ∀ ok : Char → Bool, ok '#' = false → (∀ d, isLayout d = true → ok d = false) →
      ok c = true → isLayout c = false ∧ c ≠ '#' := by
    intro ok hsign hblank hc
    refine ⟨?_, fun heq => by simp [heq, hsign] at hc⟩
    cases hlayout : isLayout c with
    | false => rfl
    | true => simp [hblank c hlayout] at hc
  cases k with
  | name =>
    refine hrun isNameChar (by decide) (fun d hd => ?_) h
    simp only [isLayout, Bool.or_eq_true, decide_eq_true_eq] at hd
    rcases hd with (((rfl | rfl) | rfl) | rfl) | rfl <;> decide
  | symbol =>
    refine hrun isSymbolChar (by decide) (fun d hd => ?_) h
    simp [isSymbolChar, isBlank_of_isLayout hd]
  | finish => simp [Terminal.opens, Terminal.char?] at h
  | _ =>
    simp only [Terminal.opens, Terminal.char?, Option.some.injEq, decide_eq_true_eq] at h
    subst h
    exact ⟨by decide, by decide⟩

/-- The kind of token but a symbol that may begin with a character. -/
def Terminal.ofLead (c : Char) : Terminal :=
  if isNameChar c then .name
  else match c with
    | '/' => .regex
    | '.' => .mark
    | '*' => .star
    | ':' => .colon
    | ',' => .comma
    | '<' => .less
    | '(' => .lpar
    | '[' => .lsqb
    | '-' => .minus
    | '>' => .more
    | ')' => .rpar
    | ']' => .rsqb
    | ';' => .semicolon
    | _ => .finish

theorem ofLead_of_opens {k : Terminal} {c : Char} (hk : k ≠ .symbol) (h : k.opens c = true) :
    Terminal.ofLead c = k := by
  cases k with
  | name => exact if_pos h
  | symbol => exact absurd rfl hk
  | finish => simp [Terminal.opens, Terminal.char?] at h
  | _ =>
    simp only [Terminal.opens, Terminal.char?, Option.some.injEq, decide_eq_true_eq] at h
    subst h
    decide

theorem isSymbolChar_of_opens_cutter {k : Terminal} {c : Char} (hk : k ∈ Terminal.cutters)
    (h : k.opens c = true) : isSymbolChar c = false := by
  simp only [Terminal.cutters, List.mem_cons, List.not_mem_nil, or_false] at hk
  rcases hk with rfl | rfl | rfl | rfl | rfl | rfl | rfl | rfl | rfl | rfl <;>
    · simp only [Terminal.opens, Terminal.char?, Option.some.injEq, decide_eq_true_eq] at h
      subst h
      decide

theorem isNameChar_of_opens_cutter {k : Terminal} {c : Char} (hk : k ∈ Terminal.cutters)
    (h : k.opens c = true) : isNameChar c = false := by
  cases hname : isNameChar c with
  | false => rfl
  | true =>
    have hlead := ofLead_of_opens (k := .name) (by decide) hname
    rw [ofLead_of_opens (k := k) (by rintro rfl; revert hk; decide) h] at hlead
    subst hlead
    revert hk
    decide

/-- Kinds that may be expected together: symbols only beside the signs that cut them. -/
def Discerning (expected : List Terminal) : Prop :=
  .symbol ∉ expected ∨ ∀ k ∈ expected, k = .symbol ∨ k ∈ Terminal.cutters

instance (expected : List Terminal) : Decidable (Discerning expected) :=
  inferInstanceAs (Decidable (_ ∨ _))

/-- The first character tells the expected kind. -/
theorem Discerning.opens_inj {expected : List Terminal} (hexp : Discerning expected)
    {k k' : Terminal} (hk : k ∈ expected) (hk' : k' ∈ expected) {c : Char} (h : k.opens c = true)
    (h' : k'.opens c = true) : k = k' := by
  by_cases hsym : k = .symbol ∨ k' = .symbol
  · -- Where symbols are expected, whatever else is expected cuts them.
    have hall := hexp.resolve_left fun hno => by
      rcases hsym with rfl | rfl
      · exact hno hk
      · exact hno hk'
    have hclash : ∀ m ∈ expected, m.opens c = true → isSymbolChar c = true → m = .symbol := by
      intro m hm hopen hc
      refine (hall m hm).resolve_right fun hcut => ?_
      rw [isSymbolChar_of_opens_cutter hcut hopen] at hc
      cases hc
    rcases hsym with rfl | rfl
    · exact (hclash k' hk' h' h).symm
    · exact hclash k hk h h'
  · rw [not_or] at hsym
    rw [← ofLead_of_opens hsym.1 h, ofLead_of_opens hsym.2 h']

theorem Discerning.fitting?_eq {expected : List Terminal} (hexp : Discerning expected)
    {k : Terminal} (hk : k ∈ expected) {cs w rest : List Char} (h : munch? k cs = some (w, rest)) :
    Cursor.fitting? expected cs = some (k, w, rest) := by
  obtain ⟨hspells, hcs, _⟩ := munch?_eq_some_iff.1 h
  obtain ⟨c, w', rfl, hopen⟩ := opens_of_spells hspells
  cases hfit : Cursor.fitting? expected cs with
  | none =>
    rw [Cursor.fitting?, List.findSome?_eq_none_iff] at hfit
    have hnone := hfit k hk
    rw [h] at hnone
    cases hnone
  | some r =>
    obtain ⟨k', hk', hr⟩ := List.exists_of_findSome?_eq_some hfit
    obtain ⟨m, hm, rfl⟩ := Option.map_eq_some_iff.1 hr
    obtain ⟨hspells', hcs', _⟩ := munch?_eq_some_iff.1 hm
    obtain ⟨c', w'', hw, hopen'⟩ := opens_of_spells hspells'
    rw [hcs, hw, List.cons_append, List.cons_append] at hcs'
    obtain rfl := (List.cons.inj hcs').1
    obtain rfl := hexp.opens_inj hk hk' hopen hopen'
    rw [h] at hm
    rw [Option.some.inj hm]

/-! ## Taking a token -/

/-- The token `t` is what comes next of its kind, and `d` is the cursor behind it. -/
structure Cursor.Takes (c : Cursor) (t : Token) (d : Cursor) : Prop where
  munched : munch? t.kind c.skip.rest = some (t.text.toList, d.rest)
  place : t.pos = c.skip.pos
  behind : d.pos = t.pos.advance t.text.toList
  last : d.last = some t.pos

/-- What a reader comes to, without the proof that goes with it. -/
def Delivers {α : Type} {n : Nat} (x : Except SyntaxFault (Read α n)) (a : α) (d : Cursor) : Prop :=
  ∃ h, x = .ok ⟨a, d, h⟩

theorem take_sound {expected : List Terminal} {c : Cursor} {r : Read Token c.rest.length}
    (h : c.take expected = .ok r) : r.value.kind ∈ expected ∧ c.Takes r.value r.after := by
  unfold Cursor.take at h
  split at h
  · next kind taken rest hfit =>
    cases h
    obtain ⟨k, hk, hmap⟩ := List.exists_of_findSome?_eq_some hfit
    obtain ⟨m, hm, hpair⟩ := Option.map_eq_some_iff.1 hmap
    cases hpair
    exact ⟨hk, ⟨by rw [hm, String.toList_ofList], rfl, by rw [String.toList_ofList], rfl⟩⟩
  · split at h <;> cases h

/-- **A token that stands there and is expected is taken.** -/
theorem take_complete {expected : List Terminal} {k : Terminal} (hexp : Discerning expected)
    (hk : k ∈ expected) {c d : Cursor} {t : Token} (hkind : t.kind = k) (h : c.Takes t d) :
    Delivers (c.take expected) t d := by
  subst hkind
  have hfit := hexp.fitting?_eq hk h.munched
  obtain ⟨kind, text, pos⟩ := t
  obtain ⟨rest, after, last⟩ := d
  obtain ⟨_, rfl, rfl, rfl⟩ := h
  unfold Cursor.take
  split
  · next hsome =>
    rw [hfit] at hsome
    cases hsome
    exact ⟨_, by rw [String.ofList_toList]⟩
  · next hnone =>
    rw [hfit] at hnone
    cases hnone

end ArrowMachine.Rule
