import ArrowMachine.Proofs.Command.Answering

/-!
Arguments as groups.

A list of arguments is written as groups in one way at most (`Written.unique`), whatever the value of a word
looks like, and empty arguments between groups belong to none of them. What arguments ask for depends on
their groups alone: a request is made exactly if they are written as groups that can be taken one after the
other (`demand_eq_compile_iff`).
-/
namespace ArrowMachine.Command

/-- The arguments are the groups one after the other, with empty arguments between them. -/
inductive Written : List Group → List String → Prop
  | nil : Written [] []
  | empty {gs : List Group} {as : List String} (h : Written gs as) : Written gs ("" :: as)
  | group {g : Group} {words : List String} {gs : List Group} {as : List String}
      (hg : g.WrittenAs words) (h : Written gs as) : Written (g :: gs) (words ++ as)

variable {g : Group} {gs front back : List Group} {words arguments rest : List String}
  {r r' r'' : Reading}

/-- No group begins with an empty argument. -/
theorem Group.WrittenAs.exists_head (h : g.WrittenAs words) :
    ∃ a more, words = a :: more ∧ a ≠ "" := by
  cases h with
  | input hne => exact ⟨_, [], rfl, hne⟩
  | letter ha => exact ⟨_, [], rfl, fun hempty => by simp [hempty] at ha⟩
  | bare ha => exact ⟨_, [], rfl, fun hempty => by simp [hempty] at ha⟩
  | @word a value _ ha => exact ⟨a, [value], rfl, fun hempty => by simp [hempty] at ha⟩

namespace Written

theorem eq_nil (h : Written gs []) : gs = [] := by
  generalize hnone : ([] : List String) = as at h
  cases h with
  | nil => rfl
  | empty => cases hnone
  | group hg =>
    have hwords := (List.append_eq_nil_iff.1 hnone.symm).1
    exact absurd hwords hg.ne_nil

/-- An empty argument in front says nothing. -/
theorem of_empty (h : Written gs ("" :: rest)) : Written gs rest := by
  generalize hhead : "" :: rest = as at h
  cases h with
  | nil => cases hhead
  | empty h =>
    obtain rfl := (List.cons.inj hhead).2
    exact h
  | group hg =>
    obtain ⟨a, more, rfl, hne⟩ := hg.exists_head
    exact absurd (List.cons.inj hhead).1.symm hne

/-- What arguments begin with is their first group, and the others are those of the arguments behind it. -/
theorem of_group (hg : g.WrittenAs words) (h : Written gs (words ++ rest)) :
    ∃ gs', gs = g :: gs' ∧ Written gs' rest := by
  have hnext := nextGroup?_of_writtenAs hg rest
  generalize hcut : words ++ rest = as at h
  cases h with
  | nil => exact absurd (List.append_eq_nil_iff.1 hcut).1 hg.ne_nil
  | empty =>
    obtain ⟨a, more, rfl, hne⟩ := hg.exists_head
    exact absurd (List.cons.inj hcut).1 hne
  | group hg' h' =>
    rw [hcut, nextGroup?_of_writtenAs hg'] at hnext
    have hpair := Option.some.inj (Except.ok.inj hnext)
    obtain ⟨rfl, rfl⟩ := Prod.mk.inj hpair
    exact ⟨_, rfl, h'⟩

theorem append (h : Written front arguments) (h' : Written back rest) :
    Written (front ++ back) (arguments ++ rest) := by
  induction h with
  | nil => exact h'
  | empty _ ih => exact ih.empty
  | group hg _ ih =>
    rw [List.append_assoc]
    exact ih.group hg

/-- Behind arguments that are groups, the groups go on with those of the other arguments. -/
theorem of_append (hfront : Written front arguments) (h : Written gs (arguments ++ rest)) :
    ∃ back, gs = front ++ back ∧ Written back rest := by
  induction hfront generalizing gs with
  | nil => exact ⟨gs, rfl, h⟩
  | empty _ ih => exact ih h.of_empty
  | group hg _ ih =>
    rw [List.append_assoc] at h
    obtain ⟨gs', rfl, h'⟩ := of_group hg h
    obtain ⟨back, rfl, hback⟩ := ih h'
    exact ⟨back, rfl, hback⟩

/-- **Arguments are written as groups in one way.** -/
theorem unique {gs' : List Group} (h : Written gs arguments) (h' : Written gs' arguments) :
    gs = gs' := by
  have hall : Written gs' (arguments ++ []) := by rwa [List.append_nil]
  obtain ⟨back, rfl, hback⟩ := of_append h hall
  rw [hback.eq_nil, List.append_nil]

end Written

/-! ## Groups that are taken in turn -/

/-- Taking the groups in turn leads from one reading to the other. -/
inductive Follows : Reading → List Group → Reading → Prop
  | nil (r : Reading) : Follows r [] r
  | cons {r r' r'' : Reading} {g : Group} {gs : List Group} (htake : r.take g = .ok (.go r'))
      (h : Follows r' gs r'') : Follows r (g :: gs) r''

theorem Follows.snoc (h : Follows r gs r') (htake : r'.take g = .ok (.go r'')) :
    Follows r (gs ++ [g]) r'' := by
  induction h with
  | nil => exact .cons htake (.nil _)
  | cons hfirst _ ih => exact .cons hfirst (ih htake)

/-- What has been read are groups that were taken in turn. -/
theorem Took.exists_written (h : Took arguments r) :
    ∃ gs, Written gs arguments ∧ Follows {} gs r := by
  induction h with
  | nil => exact ⟨[], .nil, .nil _⟩
  | empty _ ih =>
    obtain ⟨gs, hgs, hfollows⟩ := ih
    have hempty := hgs.append (.empty .nil)
    rw [List.append_nil] at hempty
    exact ⟨gs, hempty, hfollows⟩
  | group _ hg htake ih =>
    obtain ⟨gs, hgs, hfollows⟩ := ih
    have hgroup := Written.group hg .nil
    rw [List.append_nil] at hgroup
    exact ⟨_, hgs.append hgroup, hfollows.snoc htake⟩

/-- Groups that can be taken in turn are read to their end. -/
theorem readFrom_of_written (h : Written gs arguments) (hfollows : Follows r gs r') :
    readFrom r arguments = r'.request.map .compile := by
  induction h generalizing r with
  | nil =>
    cases hfollows
    exact readFrom_nil _
  | empty _ ih =>
    rw [readFrom_empty]
    exact ih hfollows
  | group hg _ ih =>
    cases hfollows with
    | cons htake hrest =>
      rw [readFrom_group r hg, htake]
      exact ih hrest

/-- **A request is made by groups that can be taken in turn**, and by nothing else. -/
theorem demand_eq_compile_iff {q : Request} : demand arguments = .ok (.compile q) ↔
    ∃ gs r, Written gs arguments ∧ Follows {} gs r ∧ r.request = .ok q := by
  constructor
  · intro h
    have hanswers := demand_eq_iff.1 h
    cases hanswers with
    | compile htook hq =>
      obtain ⟨gs, hgs, hfollows⟩ := htook.exists_written
      exact ⟨gs, _, hgs, hfollows, hq⟩
  · intro h
    obtain ⟨gs, r, hgs, hfollows, hq⟩ := h
    have hread := readFrom_of_written hgs hfollows
    rw [hq] at hread
    exact hread

end ArrowMachine.Command
