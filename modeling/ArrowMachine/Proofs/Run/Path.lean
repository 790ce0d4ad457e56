import ArrowMachine.Run.Snapshot
import ArrowMachine.Table.Compiled
import Mathlib.Data.List.Basic

/-!
Paths of entries between configurations.

`t.Path c es d` says that the entries `es`, each of which matches where it is applied, lead from `c` to
`d`. No entry adds to the input (`Path.input_suffix`), so what is left of an input is known from its
length, and among the configurations of one search a footprint belongs to one of them only
(`Snapshot.config_eq_of_footprint`).
-/
namespace ArrowMachine

/-! ## Operations -/

theorem Op.input_suffix_of_apply {op : Op} {c d : Configuration} (h : op.apply c = some d) :
    d.input <:+ c.input := by
  cases op with
  | consume =>
    obtain rfl : _ = d := Option.some.inj h
    exact List.tail_suffix _
  | pop channel =>
    obtain ⟨i, _, rfl⟩ := Option.map_eq_some_iff.1 h
    exact List.suffix_rfl
  | push channel value =>
    obtain ⟨i, _, rfl⟩ := Option.map_eq_some_iff.1 h
    exact List.suffix_rfl
  | set state =>
    obtain rfl : _ = d := Option.some.inj h
    exact List.suffix_rfl

theorem Op.applyAll_cons_eq_ok {op : Op} {ops : List Op} {c d : Configuration} :
    applyAll (op :: ops) c = .ok d ↔ ∃ b, op.apply c = some b ∧ applyAll ops b = .ok d := by
  rw [applyAll]
  cases op.apply c with
  | none => simp
  | some b => simp

/-- What every operation of a list keeps, the list keeps. -/
theorem Op.keep_of_applyAll {ops : List Op} {R : Configuration → Configuration → Prop}
    (hrefl : ∀ c, R c c) (htrans : ∀ b c d, R b c → R c d → R b d)
    (hstep : ∀ op ∈ ops, ∀ c d, op.apply c = some d → R c d) {c d : Configuration}
    (h : applyAll ops c = .ok d) : R c d := by
  induction ops generalizing c with
  | nil =>
    obtain rfl : c = d := Except.ok.inj h
    exact hrefl c
  | cons op ops ih =>
    obtain ⟨b, hb, hd⟩ := applyAll_cons_eq_ok.1 h
    have hrest := ih (fun x hx => hstep x (List.mem_cons_of_mem _ hx)) hd
    exact htrans _ _ _ (hstep op List.mem_cons_self _ _ hb) hrest

theorem Op.input_suffix_of_applyAll {ops : List Op} {c d : Configuration}
    (h : Op.applyAll ops c = .ok d) : d.input <:+ c.input :=
  keep_of_applyAll (R := fun c d => d.input <:+ c.input) (fun _ => List.suffix_rfl)
    (fun _ _ _ hbc hcd => hcd.trans hbc) (fun _ _ _ _ => input_suffix_of_apply) h

theorem Action.input_suffix_of_apply {a : Action} {consuming : Bool} {c d : Configuration}
    (h : a.apply consuming c = .ok d) : d.input <:+ c.input :=
  Op.input_suffix_of_applyAll h

namespace Compiled

/-- The entries that match a configuration, in the order of the table. -/
def choices (t : Compiled) (c : Configuration) : List Entry := t.possible c.state c.head? c.tops

/-- Whether a configuration has no input left and an accepting state. -/
def isFinal (t : Compiled) (c : Configuration) : Bool := c.input.isEmpty && t.accepts c.state

/-- An entry matches `c` and turns it into `d`. -/
def Fires (t : Compiled) (c : Configuration) (e : Entry) (d : Configuration) : Prop :=
  e ∈ t.choices c ∧ e.action.apply true c = .ok d

/-- Entries, each of which matches where it is applied, lead from one configuration to another. -/
inductive Path (t : Compiled) : Configuration → List Entry → Configuration → Prop
  | nil (c : Configuration) : Path t c [] c
  | cons {c d f : Configuration} {e : Entry} {es : List Entry} :
      t.Fires c e d → Path t d es f → Path t c (e :: es) f

theorem isFinal_iff {t : Compiled} {c : Configuration} :
    t.isFinal c = true ↔ c.input = [] ∧ t.accepts c.state = true := by
  simp [isFinal]

variable {t : Compiled} {c d f : Configuration}

theorem Fires.input_suffix {e : Entry} (h : t.Fires c e d) : d.input <:+ c.input :=
  Action.input_suffix_of_apply h.2

theorem Path.snoc {e : Entry} {es : List Entry} (h : t.Path c es d) (he : t.Fires d e f) :
    t.Path c (es ++ [e]) f := by
  induction h with
  | nil c => exact .cons he (.nil f)
  | cons hfirst _ ih => exact .cons hfirst (ih he)

theorem Path.input_suffix {es : List Entry} (h : t.Path c es d) : d.input <:+ c.input := by
  induction h with
  | nil c => exact List.suffix_rfl
  | cons hfirst _ ih => exact ih.trans hfirst.input_suffix

end Compiled

/-- Two ends of one list that have the same length are the same. -/
theorem eq_of_suffix_of_length_eq {α : Type} {u v w : List α} (hu : u <:+ w) (hv : v <:+ w)
    (h : u.length = v.length) : u = v :=
  (List.suffix_of_suffix_length_le hu hv (Nat.le_of_eq h)).eq_of_length h

namespace Snapshot

/-- What all snapshots of a search through `w` have in common. -/
def Within (w : List String) (s : Snapshot) : Prop := s.halted = false ∧ s.config.input <:+ w

theorem config_eq_of_footprint {w : List String} {s r : Snapshot} (hs : s.Within w)
    (hr : r.Within w) (h : s.footprint = r.footprint) : s.config = r.config := by
  obtain ⟨⟨state, channels, input⟩, _, _, _⟩ := s
  obtain ⟨⟨state', channels', input'⟩, _, _, _⟩ := r
  obtain ⟨rfl, rfl, hlength⟩ : state = state' ∧ channels = channels' ∧
      input.length = input'.length := by simpa [footprint] using h
  obtain rfl : input = input' := eq_of_suffix_of_length_eq hs.2 hr.2 hlength
  rfl

end Snapshot

end ArrowMachine
