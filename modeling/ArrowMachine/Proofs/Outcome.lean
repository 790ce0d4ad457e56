import Mathlib.Data.List.Forall2

/-!
Computations that may fail.

A computation in steps gives a result exactly if each of its steps does, and otherwise it fails with the
error of one of them.
-/
namespace ArrowMachine

variable {ε α β : Type}

theorem bind_eq_ok {x : Except ε α} {f : α → Except ε β} {b : β} (h : x >>= f = .ok b) :
    ∃ a, x = .ok a ∧ f a = .ok b := by
  cases x with
  | error e => cases h
  | ok a => exact ⟨a, rfl, h⟩

theorem bind_eq_error {x : Except ε α} {f : α → Except ε β} {e : ε} (h : x >>= f = .error e) :
    x = .error e ∨ ∃ a, x = .ok a ∧ f a = .error e := by
  cases x with
  | error e' =>
    cases h
    exact Or.inl rfl
  | ok a => exact Or.inr ⟨a, rfl, h⟩

variable {f : α → Except ε β} {as : List α} {bs : List β}

theorem exists_of_mem_left {R : α → β → Prop} (h : List.Forall₂ R as bs) {a : α} (ha : a ∈ as) :
    ∃ b ∈ bs, R a b := by
  obtain ⟨i, hi, rfl⟩ := List.getElem_of_mem ha
  have hi' : i < bs.length := by rwa [← h.length_eq]
  exact ⟨bs[i], List.getElem_mem hi', h.get hi hi'⟩

theorem exists_of_mem_right {R : α → β → Prop} (h : List.Forall₂ R as bs) {b : β} (hb : b ∈ bs) :
    ∃ a ∈ as, R a b := exists_of_mem_left h.flip hb

theorem forall₂_of_mapM (h : as.mapM f = .ok bs) :
    List.Forall₂ (fun a b => f a = .ok b) as bs := by
  induction as generalizing bs with
  | nil =>
    obtain rfl : [] = bs := Except.ok.inj h
    exact .nil
  | cons a as ih =>
    rw [List.mapM_cons] at h
    obtain ⟨b, hb, h⟩ := bind_eq_ok h
    obtain ⟨cs, hcs, h⟩ := bind_eq_ok h
    obtain rfl : b :: cs = bs := Except.ok.inj h
    exact .cons hb (ih hcs)

theorem mapM_of_forall₂ (h : List.Forall₂ (fun a b => f a = .ok b) as bs) : as.mapM f = .ok bs := by
  induction h with
  | nil => rfl
  | cons hab _ ih =>
    rw [List.mapM_cons, hab, ih]
    rfl

/-- Where every step can only give one result, so can all of them together. -/
theorem eq_map_of_mapM {g : α → β} {P : α → Prop} (hf : ∀ a b, f a = .ok b → b = g a ∧ P a)
    (h : as.mapM f = .ok bs) : bs = as.map g ∧ ∀ a ∈ as, P a := by
  induction forall₂_of_mapM h with
  | nil => exact ⟨rfl, fun a ha => (nomatch ha)⟩
  | cons hab hrest ih =>
    obtain ⟨rfl, ha⟩ := hf _ _ hab
    obtain ⟨rfl, has⟩ := ih (mapM_of_forall₂ hrest)
    exact ⟨rfl, List.forall_mem_cons.2 ⟨ha, has⟩⟩

theorem exists_of_mapM_eq_error {e : ε} (h : as.mapM f = .error e) : ∃ a ∈ as, f a = .error e := by
  induction as with
  | nil => cases h
  | cons a as ih =>
    rw [List.mapM_cons] at h
    rcases bind_eq_error h with ha | ⟨b, _, h⟩
    · exact ⟨a, List.mem_cons_self, ha⟩
    · rcases bind_eq_error h with has | ⟨cs, _, h⟩
      · obtain ⟨a', ha', he⟩ := ih has
        exact ⟨a', List.mem_cons_of_mem _ ha', he⟩
      · cases h

theorem mapM_eq_ok_iff : as.mapM f = .ok bs ↔ as.map f = bs.map .ok := by
  have hiff : as.map f = bs.map .ok ↔ List.Forall₂ (fun a b => f a = .ok b) as bs := by
    rw [← List.forall₂_eq_eq_eq, List.forall₂_map_left_iff, List.forall₂_map_right_iff]
  rw [hiff]
  exact ⟨forall₂_of_mapM, mapM_of_forall₂⟩

theorem mapM_append_eq_ok {as' : List α} : (as ++ as').mapM f = .ok bs ↔
    ∃ cs ds, as.mapM f = .ok cs ∧ as'.mapM f = .ok ds ∧ bs = cs ++ ds := by
  simp only [mapM_eq_ok_iff, List.map_append]
  rw [eq_comm, List.map_eq_append_iff]
  constructor
  · rintro ⟨cs, ds, rfl, hcs, hds⟩
    exact ⟨cs, ds, hcs.symm, hds.symm, rfl⟩
  · rintro ⟨cs, ds, hcs, hds, rfl⟩
    exact ⟨cs, ds, rfl, hcs.symm, hds.symm⟩

theorem mapM_cons_eq_ok {a : α} : (a :: as).mapM f = .ok bs ↔
    ∃ b cs, f a = .ok b ∧ as.mapM f = .ok cs ∧ bs = b :: cs := by
  simp only [mapM_eq_ok_iff, List.map_cons]
  rw [eq_comm, List.map_eq_cons_iff]
  constructor
  · rintro ⟨b, cs, rfl, hb, hcs⟩
    exact ⟨b, cs, hb.symm, hcs.symm, rfl⟩
  · rintro ⟨b, cs, hb, hcs, rfl⟩
    exact ⟨b, cs, rfl, hb.symm, hcs.symm⟩

/-- Steps fail with the error of the first that fails. -/
theorem mapM_eq_error_iff {e : ε} : as.mapM f = .error e ↔
    ∃ before a after, as = before ++ a :: after ∧ (∀ b ∈ before, ∃ c, f b = .ok c) ∧ f a = .error e := by
  constructor
  · intro h
    induction as with
    | nil => cases h
    | cons a as ih =>
      rw [List.mapM_cons] at h
      rcases bind_eq_error h with ha | ⟨b, hb, h⟩
      · exact ⟨[], a, as, rfl, fun b hb => (nomatch hb), ha⟩
      · rcases bind_eq_error h with has | ⟨cs, _, h⟩
        · obtain ⟨before, a', after, rfl, hbefore, ha'⟩ := ih has
          exact ⟨a :: before, a', after, rfl, List.forall_mem_cons.2 ⟨⟨b, hb⟩, hbefore⟩, ha'⟩
        · cases h
  · rintro ⟨before, a, after, rfl, hbefore, ha⟩
    induction before with
    | nil =>
      rw [List.nil_append, List.mapM_cons, ha]
      rfl
    | cons b before ih =>
      obtain ⟨⟨c, hc⟩, hbefore⟩ := List.forall_mem_cons.1 hbefore
      rw [List.cons_append, List.mapM_cons, hc, ih hbefore]
      rfl

/-- The results of all steps, where the results of each are those that `R` relates to it. -/
theorem mapM_eq_ok_iff_forall₂ {R : α → β → Prop} (hf : ∀ a ∈ as, ∀ b, f a = .ok b ↔ R a b) :
    as.mapM f = .ok bs ↔ List.Forall₂ R as bs := by
  induction as generalizing bs with
  | nil =>
    rw [List.forall₂_nil_left_iff]
    exact ⟨fun h => (Except.ok.inj h).symm, fun h => h ▸ rfl⟩
  | cons a as ih =>
    have ha := hf a List.mem_cons_self
    have has := fun cs => @ih cs fun a' ha' => hf a' (List.mem_cons_of_mem _ ha')
    rw [mapM_cons_eq_ok, List.forall₂_cons_left_iff]
    constructor
    · rintro ⟨b, cs, hb, hcs, rfl⟩
      exact ⟨b, cs, (ha b).1 hb, (has cs).1 hcs, rfl⟩
    · rintro ⟨b, cs, hb, hcs, rfl⟩
      exact ⟨b, cs, (ha b).2 hb, (has cs).2 hcs, rfl⟩

end ArrowMachine
