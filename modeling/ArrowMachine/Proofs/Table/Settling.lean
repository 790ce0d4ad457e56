import ArrowMachine.Table.Merge
import Mathlib.Data.List.Basic

/-!
When claims conflict.

`settle` compares a claim with the first claim to its place only. That is enough: it accepts everything
if no place is claimed by two different statements (`settle_of_peaceful`), and otherwise it stops at the
first claim to a place that another statement claimed before (`settle_of_not_peaceful`).
-/
namespace ArrowMachine

variable {α κ : Type} {place : Claim → κ}

/-- No place is claimed by two different statements. -/
def Peaceful (place : Claim → κ) (cs : List Claim) : Prop :=
  ∀ c ∈ cs, ∀ d ∈ cs, place c = place d → c.rule = d.rule

theorem Peaceful.snoc {cs : List Claim} {c : Claim} (h : Peaceful place cs)
    (hc : ∀ d ∈ cs, place d = place c → d.rule = c.rule) : Peaceful place (cs ++ [c]) := by
  intro x hx y hy hplace
  rcases List.mem_append.1 hx with hx | hx
  · rcases List.mem_append.1 hy with hy | hy
    · exact h x hx y hy hplace
    · rw [List.mem_singleton.1 hy] at hplace ⊢
      exact hc x hx hplace
  · rw [List.mem_singleton.1 hx] at hplace ⊢
    rcases List.mem_append.1 hy with hy | hy
    · exact (hc y hy hplace.symm).symm
    · rw [List.mem_singleton.1 hy]

variable [DecidableEq κ]

/-- In `cs`, the claim `c` is the first to a place that a different statement claimed before, and `o` is
the first claim to that place. -/
def FirstConflict (place : Claim → κ) (cs : List Claim) (o c : Claim) : Prop :=
  ∃ before after, cs = before ++ c :: after ∧ Peaceful place before ∧
    before.find? (place · = place c) = some o ∧ o.rule ≠ c.rule

theorem FirstConflict.not_peaceful {cs : List Claim} {o c : Claim}
    (h : FirstConflict place cs o c) : ¬ Peaceful place cs := by
  obtain ⟨before, after, rfl, _, hfind, hrule⟩ := h
  intro hpeaceful
  refine hrule (hpeaceful o ?_ c (by simp) (by simpa using List.find?_some hfind))
  exact List.mem_append_left _ (List.mem_of_find?_eq_some hfind)

/-- `owners` answers for all the claims seen so far who was the first to a place. -/
theorem settle_cases (place : Claim → κ) (claim? : α → Option Claim) (owners seen : List Claim)
    (as : List α)
    (howners : ∀ q, owners.find? (place · = q) = seen.find? (place · = q))
    (hseen : Peaceful place seen) :
    (Peaceful place (seen ++ as.filterMap claim?) ∧ settle place claim? owners as = ⟨as, none⟩) ∨
    ∃ o c, FirstConflict place (seen ++ as.filterMap claim?) o c ∧
      (settle place claim? owners as).conflict = some (o, c) := by
  induction as generalizing owners seen with
  | nil => exact Or.inl ⟨by simpa using hseen, rfl⟩
  | cons a as ih =>
    cases hclaim : claim? a with
    | none =>
      simp only [settle, hclaim, List.filterMap_cons]
      rcases ih owners seen howners hseen with ⟨hpeaceful, hsettle⟩ | hconflict
      · exact Or.inl ⟨hpeaceful, by rw [hsettle]⟩
      · exact Or.inr hconflict
    | some c =>
      simp only [settle, hclaim, List.filterMap_cons]
      have hfirst := howners (place c)
      cases hfind : owners.find? (place · = place c) with
      | none =>
        rw [hfind] at hfirst
        have hnew : ∀ d ∈ seen, place d ≠ place c := by
          simpa using List.find?_eq_none.1 hfirst.symm
        have hstep := ih (owners ++ [c]) (seen ++ [c])
          (fun q => by rw [List.find?_append, List.find?_append, howners q])
          (hseen.snoc fun d hd hplace => absurd hplace (hnew d hd))
        rw [List.append_assoc, List.singleton_append] at hstep
        rcases hstep with ⟨hpeaceful, hsettle⟩ | hconflict
        · exact Or.inl ⟨hpeaceful, by simp [hsettle]⟩
        · exact Or.inr hconflict
      | some o =>
        rw [hfind] at hfirst
        have ho : o ∈ seen := List.mem_of_find?_eq_some hfirst.symm
        have hplace : place o = place c := by simpa using List.find?_some hfind
        by_cases hrule : o.rule = c.rule
        · -- The statement has the place already, so the owners stay.
          have hstep := ih owners (seen ++ [c])
            (fun q => by
              rw [List.find?_append, howners q]
              by_cases hq : place c = q
              · rw [← hq, ← hfirst]
                rfl
              · simp [hq])
            (hseen.snoc fun d hd hd' => (hseen d hd o ho (hd'.trans hplace.symm)).trans hrule)
          rw [List.append_assoc, List.singleton_append] at hstep
          simp only [if_pos hrule]
          rcases hstep with ⟨hpeaceful, hsettle⟩ | hconflict
          · exact Or.inl ⟨hpeaceful, by rw [hsettle]⟩
          · exact Or.inr hconflict
        · simp only [if_neg hrule]
          exact Or.inr ⟨o, c, ⟨seen, _, rfl, hseen, hfirst.symm, hrule⟩, rfl⟩

/-- Where no place is claimed by two different statements, all is accepted. -/
theorem settle_of_peaceful (claim? : α → Option Claim) {as : List α}
    (h : Peaceful place (as.filterMap claim?)) : settle place claim? [] as = ⟨as, none⟩ := by
  rcases settle_cases place claim? [] [] as (fun _ => rfl) (by simp [Peaceful]) with
    ⟨_, hsettle⟩ | ⟨o, c, hconflict, _⟩
  · exact hsettle
  · exact absurd h hconflict.not_peaceful

/-- Where some place is, the first conflict is found. -/
theorem settle_of_not_peaceful (claim? : α → Option Claim) {as : List α}
    (h : ¬ Peaceful place (as.filterMap claim?)) :
    ∃ o c, FirstConflict place (as.filterMap claim?) o c ∧
      (settle place claim? [] as).conflict = some (o, c) := by
  rcases settle_cases place claim? [] [] as (fun _ => rfl) (by simp [Peaceful]) with
    ⟨hpeaceful, _⟩ | hconflict
  · exact absurd hpeaceful h
  · exact hconflict

end ArrowMachine
