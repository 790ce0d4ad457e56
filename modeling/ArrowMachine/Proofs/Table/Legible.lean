import ArrowMachine.Proofs.Rule.Combining
import ArrowMachine.Proofs.Rule.Pointing
import ArrowMachine.Proofs.Table.Identity

/-!
Which words stand in a table.

The rows of a table are made of the words of a text: labels, reads and pushed symbols are symbols there, and
states have names, which are symbols as well (`Rule.isSymbol_of_name`). So no blank and no sign that rules are
built with stands in any of them (`isLegible_of_compile`), and whatever separates them by such a character can be
read back.
-/
namespace ArrowMachine

namespace Rule

variable {s : String} {c : Char} {b : BodySpelling} {op : ChannelOp} {ss : List Statement} {st : Statement}

/-! ## Symbols -/

/-- The text may stand where a symbol is expected. -/
def IsSymbol (s : String) : Prop := Terminal.symbol.Spells s.toList

theorem IsSymbol.not_mem (h : IsSymbol s) (hc : isSymbolChar c = false) : c ∉ s.toList := by
  intro hmem
  rw [h.2 c hmem] at hc
  cases hc

theorem IsSymbol.not_blank (h : IsSymbol s) : ∀ c ∈ s.toList, Text.isBlank c = false := by
  intro c hc
  have hsymbol := h.2 c hc
  simp only [isSymbolChar, Bool.not_eq_true', Bool.or_eq_false_iff] at hsymbol
  exact hsymbol.1

theorem isSymbolChar_of_isNameChar (h : isNameChar c = true) : isSymbolChar c = true := by
  have hall : ∀ n < 123, isNameChar (Char.ofNat n) = true → isSymbolChar (Char.ofNat n) = true := by decide
  have hlt : c.toNat < 123 := by
    simp only [isNameChar, Char.isAlphanum, Char.isAlpha, Char.isUpper, Char.isLower, Char.isDigit,
      Bool.or_eq_true, Bool.and_eq_true, decide_eq_true_eq] at h
    rcases h with ((⟨_, h⟩ | ⟨_, h⟩) | ⟨_, h⟩) | rfl
    · exact Nat.lt_of_le_of_lt h (by decide)
    · exact Nat.lt_of_le_of_lt h (by decide)
    · exact Nat.lt_of_le_of_lt h (by decide)
    · decide
  have hchar := hall c.toNat hlt
  rw [Char.ofNat_toNat] at hchar
  exact hchar h

theorem isSymbol_of_name (h : Terminal.name.Spells s.toList) : IsSymbol s :=
  ⟨h.1, fun c hc => isSymbolChar_of_isNameChar (h.2 c hc)⟩

/-! ## Words of arrows -/

/-- The word is one of the symbols of the body. -/
def BodySpelling.Has (b : BodySpelling) (s : String) : Prop :=
  ∃ w : Word, w.lexeme .symbol ∈ b.lexemes ∧ w.text = s

theorem BodySpelling.has_channel {label w : Word} {channels : List ChannelSpelling} {pushes : List Word}
    {ch : ChannelSpelling} (hch : ch ∈ channels) (hw : w.lexeme .symbol ∈ ch.lexemes) :
    (BodySpelling.bracket label channels pushes).Has w.text := by
  have hmem : w.lexeme .symbol ∈ channelLexemes channels :=
    List.mem_append_left _ (List.mem_flatMap.2 ⟨ch, hch, List.mem_cons_of_mem _ hw⟩)
  exact ⟨w, List.mem_cons_of_mem _ (List.mem_cons_of_mem _ (List.mem_append_left _ hmem)), rfl⟩

theorem ChannelSpelling.readWord_mem {ch : ChannelSpelling} {w : Word} (h : w ∈ ch.readWord?) :
    w.lexeme .symbol ∈ ch.lexemes := by
  cases ch with
  | write v => cases h
  | _ =>
    obtain rfl := Option.some.inj h
    exact List.mem_cons_self

theorem ChannelSpelling.writeWord_mem {ch : ChannelSpelling} {w : Word} (h : w ∈ ch.writeWord?) :
    w.lexeme .symbol ∈ ch.lexemes := by
  cases ch with
  | read r => cases h
  | _ =>
    obtain rfl := Option.some.inj h
    simp [lexemes]

/-- What a body reads and writes are words of it. -/
theorem BodySpelling.has_of_denoted (h : op ∈ b.denoted) :
    (∀ r ∈ op.read, b.Has r) ∧ ∀ v ∈ op.write, b.Has v := by
  obtain ⟨c, _, rfl⟩ := List.mem_map.1 h
  cases b with
  | plain l => exact ⟨nofun, nofun⟩
  | bracket label channels pushes =>
    refine ⟨fun r hr => ?_, fun v hv => ?_⟩
    · obtain ⟨ch, hch, w, hw, rfl⟩ := bracketRead_eq_some_iff.1 hr
      exact has_channel (List.mem_of_getElem? hch) (ch.readWord_mem hw)
    · rcases Option.or_eq_some_iff.1 hv with hv | ⟨_, hv⟩
      · obtain ⟨ch, hch, w, hw, rfl, _⟩ := bracketWrite_eq_some_iff.1 hv
        exact has_channel (List.mem_of_getElem? hch) (ch.writeWord_mem hw)
      · obtain ⟨w, hw, rfl, _⟩ := pushAt_eq_some_iff.1 hv
        exact ⟨w, push_mem (List.mem_of_getElem? hw), rfl⟩

/-- Labels, reads and pushes of a transition are symbols. -/
structure SymbolsOf (t : TransitionPart) : Prop where
  label : IsSymbol t.label
  read : ∀ op ∈ t.ops, ∀ r ∈ op.read, IsSymbol r
  write : ∀ op ∈ t.ops, ∀ v ∈ op.write, IsSymbol v

theorem symbolsOf_of_statementsOf {cap : Capacity} {source : String} (h : statementsOf cap source = .ok ss) (hst : st ∈ ss)
    {t : TransitionPart} (ht : .transition t ∈ st.parts) : SymbolsOf t := by
  obtain ⟨rules, hrules, hmeant⟩ := exists_spellings_of_statementsOf h
  obtain ⟨r, hr, hmeant⟩ := exists_of_mem_right hmeant hst
  obtain ⟨a, ha, rfl⟩ := hmeant.mem_transitions.1 ht
  have hword : ∀ w : Word, w.lexeme .symbol ∈ r.lexemes → IsSymbol w.text := fun w hw =>
    (spelled_of_spellings hrules).spells (List.mem_flatMap.2 ⟨r, hr, hw⟩) rfl
  have hbody : ∀ s, a.body.Has s → IsSymbol s := by
    rintro _ ⟨w, hw, rfl⟩
    exact hword w (Spelling.body_lexemes_subset ha hw)
  exact ⟨hword _ (Spelling.label_mem ha), fun op hop r hr => hbody r ((a.body.has_of_denoted hop).1 r hr),
    fun op hop v hv => hbody v ((a.body.has_of_denoted hop).2 v hv)⟩

theorem isSymbol_of_state {cap : Capacity} {source : String} (h : statementsOf cap source = .ok ss) (hst : st ∈ ss) {q : StatePart}
    (hq : .state q ∈ st.parts) : IsSymbol q.name := by
  obtain ⟨p, _, hstands⟩ := stands_of_statementsOf h st hst _ hq
  cases hstands with
  | state _ hname => exact isSymbol_of_name hname

end Rule

open Rule (IsSymbol SymbolsOf)

/-! ## Rows -/

theorem Action.write_of_push {cs : List ChannelOp} {i : Nat} {channel : Int} {value : String}
    (h : .push channel value ∈ pushes cs i) : ∃ op ∈ cs, op.write = some value := by
  induction cs generalizing i with
  | nil => cases h
  | cons op cs ih =>
    rcases List.mem_append.1 h with h | h
    · obtain ⟨v, hv, heq⟩ := Option.map_eq_some_iff.1 (Option.mem_toList.1 h)
      obtain ⟨_, rfl⟩ := Op.push.inj heq
      refine ⟨op, List.mem_cons_self, ?_⟩
      unfold concrete Filter.normalRead at hv
      split at hv
      · cases hv
      · exact hv
    · obtain ⟨op', hop', hwrite⟩ := ih h
      exact ⟨op', List.mem_cons_of_mem _ hop', hwrite⟩

/-- A lowered transition pushes what its channels write. -/
theorem Action.write_of_push_build {target input : String} {cs : List ChannelOp} {channel : Int}
    {value : String} (h : .push channel value ∈ (build target input cs).ops) :
    ∃ op ∈ cs, op.write = some value := by
  rcases List.mem_append.1 h with h | h
  · rcases List.mem_append.1 h with h | h
    · rcases List.mem_append.1 h with h | h
      · split at h
        · cases h
        · cases List.mem_singleton.1 h
      · obtain ⟨j, _, _, heq⟩ := mem_pops h
        cases heq
    · exact write_of_push h
  · cases List.mem_singleton.1 h

/-- The row is a lowered transition, all words of which are symbols. -/
structure Entry.IsLegible (e : Entry) : Prop where
  lowered : ∃ count ops, e.Lowered count e.action.target ops
  label : IsSymbol e.label
  read : ∀ r, some r ∈ e.filter.reads → IsSymbol r
  pushed : ∀ channel value, .push channel value ∈ e.action.ops → IsSymbol value
  target : IsSymbol e.action.target

theorem Entry.Lowered.isLegible {e : Entry} {count : Nat} {target : String} {u : TransitionPart}
    (h : e.Lowered count target u.ops) (hlabel : e.label = u.label) (hu : SymbolsOf u)
    (htarget : IsSymbol target) : e.IsLegible := by
  have haction : e.action.target = target := by rw [h.action, Action.build]
  refine ⟨⟨count, u.ops, haction ▸ h⟩, hlabel ▸ hu.label, fun r hr => ?_, fun channel value hpush => ?_,
    haction ▸ htarget⟩
  · rw [h.filter] at hr
    rcases List.mem_append.1 hr with hr | hr
    · obtain ⟨op, hop, hread⟩ := List.mem_map.1 hr
      exact hu.read op hop r hread
    · cases (List.mem_replicate.1 hr).2
  · rw [h.action] at hpush
    obtain ⟨op, hop, hwrite⟩ := Action.write_of_push_build hpush
    exact hu.write op hop value hwrite

/-- All words of the table are symbols. -/
structure Compiled.IsLegible (t : Compiled) : Prop where
  state : ∀ name ∈ t.states, IsSymbol name
  row : ∀ state, ∀ row ∈ t.entriesFor state, row.IsLegible

/-- **All words of a table are symbols** that stand in its text, names among them. -/
theorem isLegible_of_compile {cap : Capacity} {settings : Settings} {source : String} {t : Compiled}
    (h : (compile cap settings source).result = .ok t) : t.IsLegible := by
  obtain ⟨ss, hss, hcompiled⟩ := exists_statements_of_compile h
  have hstate : ∀ name ∈ t.states, IsSymbol name := by
    obtain ⟨rules, _, hrules, _, rfl⟩ := compiled_iff.1 hcompiled
    intro name hname
    obtain ⟨s, hs, q, hq, rfl⟩ := (Program.mem_states (p := ⟨rules⟩) hrules).1 hname
    exact Rule.isSymbol_of_state hss hs hq
  refine ⟨hstate, fun state row hrow => ?_⟩
  obtain ⟨s, hs, u, hu, hlabel, target, htarget, hlowered⟩ := exists_written_of_compiled hcompiled hrow
  exact hlowered.isLegible hlabel (Rule.symbolsOf_of_statementsOf hss hs hu) (hstate target htarget)

end ArrowMachine
