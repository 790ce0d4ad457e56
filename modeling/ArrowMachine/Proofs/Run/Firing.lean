import ArrowMachine.Proofs.Run.Path
import ArrowMachine.Proofs.Table.Lowering

/-!
What firing an entry of a compiled table does.

If no channel of the table is missing, every entry that matches can be applied
(`Compiled.IsLowered.exists_fires`). Firing it takes its label off the input, unless that is epsilon, and
leads to a state of the table (`Compiled.IsLowered.fires`).
-/
namespace ArrowMachine

/-! ## Operations one after the other -/

namespace Op

variable {op : Op} {ops as bs : List Op} {c d : Configuration}

theorem channelIndex?_of_lt {count : Nat} {channel : Int} (h : 0 ≤ channel ∧ channel < count) :
    channelIndex? count channel = some channel.toNat := by
  have hnot : ¬ channel < 0 := by omega
  simp [channelIndex?, hnot, h]

/-- If the operation addresses a channel, it is one of `count` channels. -/
def InRange (count : Nat) (op : Op) : Prop :=
  ∀ channel, op.channel? = some channel → (channelIndex? count channel).isSome = true

theorem inRange_of_channel {count j : Nat} (h : op.channel? = some (j : Int)) (hj : j < count) :
    op.InRange count := by
  intro channel hchannel
  obtain rfl : (j : Int) = channel := Option.some.inj (h.symm.trans hchannel)
  rw [channelIndex?_of_lt (by omega)]
  rfl

theorem length_channels_of_apply (h : op.apply c = some d) :
    d.channels.length = c.channels.length := by
  cases op with
  | consume =>
    obtain rfl : _ = d := Option.some.inj h
    rfl
  | pop channel =>
    obtain ⟨i, _, rfl⟩ := Option.map_eq_some_iff.1 h
    exact List.length_modify ..
  | push channel value =>
    obtain ⟨i, _, rfl⟩ := Option.map_eq_some_iff.1 h
    exact List.length_modify ..
  | set state =>
    obtain rfl : _ = d := Option.some.inj h
    rfl

theorem exists_apply (h : op.InRange c.channels.length) : ∃ d, op.apply c = some d := by
  cases op with
  | consume => exact ⟨_, rfl⟩
  | pop channel =>
    obtain ⟨i, hi⟩ := Option.isSome_iff_exists.1 (h channel rfl)
    exact ⟨_, Option.map_eq_some_iff.2 ⟨i, hi, rfl⟩⟩
  | push channel value =>
    obtain ⟨i, hi⟩ := Option.isSome_iff_exists.1 (h channel rfl)
    exact ⟨_, Option.map_eq_some_iff.2 ⟨i, hi, rfl⟩⟩
  | set state => exact ⟨_, rfl⟩

theorem applyAll_append_eq_ok :
    applyAll (as ++ bs) c = .ok d ↔ ∃ b, applyAll as c = .ok b ∧ applyAll bs b = .ok d := by
  induction as generalizing c with
  | nil => simp [applyAll]
  | cons a as ih =>
    rw [List.cons_append, applyAll_cons_eq_ok]
    simp only [applyAll_cons_eq_ok, ih]
    constructor
    · rintro ⟨x, hx, b, hb, hd⟩
      exact ⟨b, ⟨x, hx, hb⟩, hd⟩
    · rintro ⟨b, ⟨x, hx, hb⟩, hd⟩
      exact ⟨x, hx, b, hb, hd⟩

theorem length_channels_of_applyAll (h : applyAll ops c = .ok d) :
    d.channels.length = c.channels.length :=
  keep_of_applyAll (R := fun c d => d.channels.length = c.channels.length) (fun _ => rfl)
    (fun _ _ _ hbc hcd => hcd.trans hbc) (fun _ _ _ _ => length_channels_of_apply) h

theorem exists_applyAll (h : ∀ op ∈ ops, op.InRange c.channels.length) :
    ∃ d, applyAll ops c = .ok d := by
  induction ops generalizing c with
  | nil => exact ⟨c, rfl⟩
  | cons op ops ih =>
    obtain ⟨b, hb⟩ := exists_apply (h op (by simp))
    obtain ⟨d, hd⟩ := ih (c := b) fun x hx => by
      rw [length_channels_of_apply hb]
      exact h x (List.mem_cons_of_mem _ hx)
    exact ⟨d, applyAll_cons_eq_ok.2 ⟨b, hb, hd⟩⟩

theorem input_of_apply (hop : op.channel? ≠ none) (h : op.apply c = some d) : d.input = c.input := by
  cases op with
  | consume => exact absurd rfl hop
  | pop channel =>
    obtain ⟨i, _, rfl⟩ := Option.map_eq_some_iff.1 h
    rfl
  | push channel value =>
    obtain ⟨i, _, rfl⟩ := Option.map_eq_some_iff.1 h
    rfl
  | set state => exact absurd rfl hop

/-- Operations on channels leave the input as it is. -/
theorem input_of_applyAll (hops : ∀ op ∈ ops, op.channel? ≠ none) (h : applyAll ops c = .ok d) :
    d.input = c.input :=
  keep_of_applyAll (R := fun c d => d.input = c.input) (fun _ => rfl)
    (fun _ _ _ hbc hcd => hcd.trans hbc) (fun op hop _ _ => input_of_apply (hops op hop)) h

end Op

/-! ## Lowered transitions -/

namespace Action

variable {target input : String} {cs : List ChannelOp} {c d : Configuration}

/-- A lowered transition goes to its target and takes one symbol, unless it is one on epsilon. -/
theorem build_apply (h : (build target input cs).apply true c = .ok d) :
    d.state = target ∧ d.input = if input = epsilon then c.input else c.input.tail := by
  obtain ⟨middle, hops, hmiddle⟩ := build_ops target input cs
  rw [apply, if_pos rfl, hops] at h
  obtain ⟨b, hb, hset⟩ := Op.applyAll_append_eq_ok.1 h
  obtain ⟨a, ha, hb⟩ := Op.applyAll_append_eq_ok.1 hb
  obtain rfl : { b with state := target } = d := Except.ok.inj hset
  refine ⟨rfl, ?_⟩
  have hsame : b.input = a.input := Op.input_of_applyAll (fun op hop hnone => by
    obtain ⟨j, _, hj⟩ := hmiddle op hop
    rw [hnone] at hj
    cases hj) hb
  by_cases hepsilon : input = epsilon
  · rw [if_pos hepsilon] at ha ⊢
    obtain rfl : c = a := Except.ok.inj ha
    exact hsame
  · rw [if_neg hepsilon] at ha ⊢
    obtain rfl : { c with input := c.input.tail } = a := Except.ok.inj ha
    exact hsame

theorem exists_build_apply (target input : String) (hcs : cs.length ≤ c.channels.length) :
    ∃ d, (build target input cs).apply true c = .ok d := by
  rw [apply, if_pos rfl]
  refine Op.exists_applyAll fun op hop => ?_
  obtain rfl | ⟨j, hj, hchannel⟩ | rfl := mem_build hop
  · exact fun _ h => by cases h
  · exact Op.inRange_of_channel hchannel (by omega)
  · exact fun _ h => by cases h

end Action

/-! ## Entries of a lowered table -/

/-- What an entry of that label takes off the input. -/
def taken (label : String) : List String := if label = epsilon then [] else [label]

namespace Compiled

variable {t : Compiled} {c d : Configuration} {e : Entry}

/-- A configuration has all the channels of a table. A machine starts with them, and no entry takes one
away. -/
def Fits (t : Compiled) (c : Configuration) : Prop := t.stackCount.toNat ≤ c.channels.length

theorem mem_choices : e ∈ t.choices c ↔
    e ∈ t.entriesFor c.state ∧ e.filter.accepts c.head? c.tops = true := List.mem_filter

theorem Fires.length_channels (h : t.Fires c e d) : d.channels.length = c.channels.length :=
  Op.length_channels_of_applyAll h.2

theorem Fires.fits (h : t.Fires c e d) (hc : t.Fits c) : t.Fits d := by
  rwa [Fits, h.length_channels]

/-- **Nothing that matches goes wrong.** -/
theorem IsLowered.exists_fires (ht : t.IsLowered) (hc : t.Fits c) (he : e ∈ t.choices c) :
    ∃ d, t.Fires c e d := by
  obtain ⟨target, _, ops, hlowered⟩ := ht.entry c.state e (mem_choices.1 he).1
  obtain ⟨d, hd⟩ := Action.exists_build_apply target e.label (hlowered.narrow.trans hc)
  exact ⟨d, he, by rw [hlowered.action, hd]⟩

/-- **What is fired takes its label and leads to a state of the table.** -/
theorem IsLowered.fires (ht : t.IsLowered) (h : t.Fires c e d) :
    d.state ∈ t.states ∧ c.input = taken e.label ++ d.input := by
  obtain ⟨hmem, haccepts⟩ := mem_choices.1 h.1
  obtain ⟨target, htarget, ops, hlowered⟩ := ht.entry c.state e hmem
  have happly := h.2
  rw [hlowered.action] at happly
  obtain ⟨hstate, hinput⟩ := Action.build_apply happly
  refine ⟨by rwa [hstate], ?_⟩
  rw [hinput]
  unfold taken
  by_cases hepsilon : e.label = epsilon
  · rw [if_pos hepsilon, if_pos hepsilon, List.nil_append]
  · rw [if_neg hepsilon, if_neg hepsilon]
    have hhead : c.input.head? = some e.label := by
      have hfilter : e.filter.input = e.label := by
        rw [hlowered.filter]
        rfl
      unfold Filter.accepts at haccepts
      rw [hfilter] at haccepts
      have hlabel := (Bool.and_eq_true_iff.1 haccepts).1
      rw [decide_eq_false hepsilon, Bool.false_or] at hlabel
      exact of_decide_eq_true hlabel
    exact (List.cons_head?_tail hhead).symm

end Compiled

end ArrowMachine
