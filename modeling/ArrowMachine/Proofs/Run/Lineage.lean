import ArrowMachine.Proofs.Run.Owning
import ArrowMachine.Proofs.Run.Round

/-!
What snapshots record of their lineage.

A family in memory grows by clones, and its members are stepped in any order. A deed changes the member
that it is applied to and no other (`Memory.Apart.family_deed`). Clones are given the trail of their
parents. `Memory.forebear` follows a member back over the clones, and `Memory.lineage` collects what the
applies on that way came to, each by the state and the stacks right after it. One deed adds to the history
of a member what it adds to its lineage (`Memory.Apart.history_deed`); so the history of a member is that of
the one it comes from and then its lineage (`Memory.history_is_lineage`).
-/
namespace ArrowMachine

/-- A step taken on a family. -/
inductive Deed where
  | clone (i : Nat)
  | apply (i : Nat) (e : Entry)
  deriving DecidableEq, Repr

/-- The member that the deed is to change. -/
def Deed.changed? : Deed → Option Nat
  | clone _ => none
  | apply i _ => some i

namespace Snapshot

/-- The step that a snapshot has come to by a transition with a label. -/
def step (s : Snapshot) (label : String) : Step := ⟨s.config.state, label, s.config.channels⟩

variable {s t : Snapshot} {e : Entry}

theorem history_record (s : Snapshot) (label : String) (h : s.recording = true) :
    (s.record label).history = s.history ++ [s.step label] := by
  rw [record, if_pos h, history, history, List.reverse_cons]
  rfl

theorem recording_record (s : Snapshot) (label : String) : (s.record label).recording = s.recording := by
  unfold record
  split <;> rfl

/-- A step is recorded behind the others, with what it came to. -/
theorem history_of_apply (h : s.recording = true) (ht : s.apply e = .ok t) :
    t.history = s.history ++ [t.step e.label] ∧ t.recording = true := by
  obtain ⟨c, _, rfl⟩ := apply_eq_ok_iff.1 ht
  refine ⟨?_, (recording_record { s with config := c } e.label).trans h⟩
  rw [step, record_config]
  exact history_record { s with config := c } e.label h

/-- A step that fails is not recorded. -/
theorem history_of_apply_error {fault : NoChannel Snapshot} (hfault : s.apply e = .error fault) :
    fault.reached.history = s.history ∧ fault.reached.recording = s.recording := by
  unfold apply at hfault
  split at hfault
  · cases hfault
  · obtain rfl := Except.error.inj hfault
    exact ⟨rfl, rfl⟩

end Snapshot

namespace Family

/-- What an apply to member `i` is recorded as, by what it came to: the state, the label and the stacks right
after it, unless it failed. -/
def recorded (after : Family × Option Int) (i : Nat) (label : String) : List Step :=
  if after.2 = none then (after.1[i]?.map (·.step label)).toList else []

variable {f : Family} {s s' t : Snapshot} {i k : Nat}

/-- Where one member is put that has some steps more in its history, the others have their histories. -/
theorem history_set (hrecording : ∀ s ∈ f, s.recording = true) (hi : f[i]? = some s') {steps : List Step}
    (ht : t.history = s'.history ++ steps ∧ t.recording = true) (hs : (f.set i t)[k]? = some s) :
    s.recording = true ∧ ∃ s', f[k]? = some s' ∧ s.history = s'.history ++ if i = k then steps else [] := by
  rw [List.getElem?_set] at hs
  by_cases hik : i = k
  · subst hik
    rw [if_pos rfl, if_pos (List.getElem?_eq_some_iff.1 hi).1] at hs
    obtain rfl := Option.some.inj hs
    exact ⟨ht.2, s', hi, by rw [if_pos rfl, ht.1]⟩
  · rw [if_neg hik] at hs
    exact ⟨hrecording s (List.mem_of_getElem? hs), s, hs, by rw [if_neg hik, List.append_nil]⟩

/-- An apply adds what it is recorded as to the history of the member that it is done on, and nothing to that
of any other. -/
theorem history_apply (hrecording : ∀ s ∈ f, s.recording = true) {e : Entry}
    (hs : (f.apply i e).1[k]? = some s) : s.recording = true ∧ ∃ s', f[k]? = some s' ∧
      s.history = s'.history ++ if i = k then recorded (f.apply i e) i e.label else [] := by
  obtain ⟨hi, happly⟩ | ⟨s', t, hi, ht, happly⟩ | ⟨s', fault, hi, hfault, happly⟩ := f.apply_cases i e
  · rw [happly] at hs ⊢
    refine ⟨hrecording s (List.mem_of_getElem? hs), s, hs, ?_⟩
    rw [recorded, if_pos rfl, hi, Option.map_none, Option.toList_none, ite_self, List.append_nil]
  · rw [happly] at hs ⊢
    have hrecorded : recorded (f.set i t, none) i e.label = [t.step e.label] := by
      rw [recorded, if_pos rfl, List.getElem?_set_self (List.getElem?_eq_some_iff.1 hi).1]
      rfl
    rw [hrecorded]
    exact history_set hrecording hi
      (Snapshot.history_of_apply (hrecording s' (List.mem_of_getElem? hi)) ht) hs
  · rw [happly] at hs ⊢
    obtain ⟨hhistory, hrecords⟩ := Snapshot.history_of_apply_error hfault
    have hkept : fault.reached.history = s'.history ++ [] := hhistory.trans (List.append_nil _).symm
    exact history_set hrecording hi ⟨hkept, hrecords.trans (hrecording s' (List.mem_of_getElem? hi))⟩ hs

end Family

namespace Memory

/-! ## Deeds -/

/-- Does a deed, and tells the channel that was missing if an operation failed on the way. -/
def deed (m : Memory) : Deed → Memory × Option Int
  | .clone i => (m.clone i, none)
  | .apply i e => m.apply i e

/-- The memory after deeds, one after the other. -/
def run (m : Memory) (ds : List Deed) : Memory := ds.foldl (fun m d => (m.deed d).1) m

/-- The member that member `k` was before a deed. One that the deed has added was the one that it is a
copy of. -/
def parent (m : Memory) (d : Deed) (k : Nat) : Nat :=
  match d with
  | .clone i => if k < m.members.length then k else i
  | .apply .. => k

/-- What a deed adds to the history of member `k`: what an apply to it is recorded as, and else nothing. -/
def added (m : Memory) (d : Deed) (k : Nat) : List Step :=
  match d with
  | .clone _ => []
  | .apply i e =>
    if i = k then Family.recorded ((m.apply i e).1.family, (m.apply i e).2) i e.label else []

/-- The member that member `j` comes from, when it is what it is after some deeds. -/
def forebear (m : Memory) : List Deed → Nat → Nat
  | [], j => j
  | d :: ds, j => m.parent d ((m.deed d).1.forebear ds j)

/-- What the deeds on the way from its forebear to member `j` came to, the oldest first: applies to a member
that it was cloned from, up to that clone, and then those to itself. -/
def lineage (m : Memory) : List Deed → Nat → List Step
  | [], _ => []
  | d :: ds, j => m.added d ((m.deed d).1.forebear ds j) ++ (m.deed d).1.lineage ds j

variable {m : Memory} {d : Deed} {s : Snapshot} {k : Nat}

theorem Apart.deed (hm : m.Apart) (d : Deed) : (m.deed d).1.Apart := by
  cases d with
  | clone i => exact (hm.clone i).1
  | apply i e => exact (hm.apply i e).1

theorem Apart.run (hm : m.Apart) (ds : List Deed) : (m.run ds).Apart := by
  induction ds generalizing m with
  | nil => exact hm
  | cons d ds ih => exact ih (hm.deed d)

/-- **A deed changes the member that it is applied to and no other.** -/
theorem Apart.family_deed (hm : m.Apart) (hd : d.changed? ≠ some k) (hk : k < m.members.length) :
    (m.deed d).1.family[k]? = m.family[k]? := by
  cases d with
  | clone i => exact hm.getElem?_clone i (length_family m ▸ hk)
  | apply i e => exact hm.getElem?_apply e fun heq => hd (congrArg some heq)

/-- Every member behind a clone is one that was there before, or a copy of one. -/
theorem Apart.getElem?_parent_clone (hm : m.Apart) {i : Nat} (hs : (m.clone i).family[k]? = some s) :
    m.family[m.parent (.clone i) k]? = some s := by
  rw [(hm.clone i).2, Family.clone] at hs
  rw [parent, ← length_family]
  split
  · next hk => rwa [List.getElem?_append_left hk] at hs
  · next hk =>
    rw [List.getElem?_append_right (Nat.le_of_not_lt hk)] at hs
    have hmem : s ∈ (m.family[i]?).toList := List.mem_of_getElem? hs
    simpa using hmem

/-- **A deed adds to the history of a member what it adds to its lineage.** -/
theorem Apart.history_deed (hm : m.Apart) (hrecording : ∀ s ∈ m.family, s.recording = true)
    (hs : (m.deed d).1.family[k]? = some s) : s.recording = true ∧
      ∃ s', m.family[m.parent d k]? = some s' ∧ s.history = s'.history ++ m.added d k := by
  cases d with
  | clone i =>
    have hparent := hm.getElem?_parent_clone hs
    exact ⟨hrecording s (List.mem_of_getElem? hparent), s, hparent, (List.append_nil _).symm⟩
  | apply i e =>
    obtain ⟨-, hfamily, hmissing⟩ := hm.apply i e
    change (m.apply i e).1.family[k]? = some s at hs
    rw [hfamily] at hs
    rw [added, hfamily, hmissing]
    exact Family.history_apply hrecording hs

/-- Along a run, a member is what became of its forebear on its lineage. -/
theorem Apart.history_run (hm : m.Apart) (hrecording : ∀ s ∈ m.family, s.recording = true) (ds : List Deed)
    (hs : (m.run ds).family[k]? = some s) : ∃ first, m.family[m.forebear ds k]? = some first ∧
      s.history = first.history ++ m.lineage ds k := by
  induction ds generalizing m with
  | nil => exact ⟨s, hs, (List.append_nil _).symm⟩
  | cons d ds ih =>
    have hnext : ∀ t ∈ (m.deed d).1.family, t.recording = true := fun t ht => by
      obtain ⟨j, hj⟩ := List.getElem?_of_mem ht
      exact (hm.history_deed hrecording hj).1
    obtain ⟨s', hs', hrest⟩ := ih (hm.deed d) hnext hs
    obtain ⟨-, first, hfirst, hhistory⟩ := hm.history_deed hrecording hs'
    refine ⟨first, hfirst, ?_⟩
    rw [hrest, hhistory, List.append_assoc]
    rfl

/-- **Snapshots record their lineage and nothing else.** In a family of recording snapshots that has been
cloned and stepped in place, in any order, every further deed leaves all members as they are but the one
that it is applied to: their states, stacks, inputs and histories. And the history of a member is that of the
snapshot it comes from, and then, the oldest first, the state, the label and the stacks right after each apply
along its lineage. -/
theorem history_is_lineage (f : Family) (hrecording : ∀ s ∈ f, s.recording = true) (ds : List Deed) :
    (∀ (d : Deed) (k : Nat), d.changed? ≠ some k → k < ((ofFamily f).run ds).members.length →
      (((ofFamily f).run ds).deed d).1.family[k]? = ((ofFamily f).run ds).family[k]?) ∧
    ∀ (k : Nat) (s : Snapshot), ((ofFamily f).run ds).family[k]? = some s →
      ∃ first, f[(ofFamily f).forebear ds k]? = some first ∧
        s.history = first.history ++ (ofFamily f).lineage ds k := by
  obtain ⟨happart, hfamily⟩ := ofFamily_spec f
  refine ⟨fun d k hd hk => (happart.run ds).family_deed hd hk, fun k s hs => ?_⟩
  have hrun := happart.history_run (by rwa [hfamily]) ds hs
  rwa [hfamily] at hrun

/-- A transition with work on one stack. -/
def towards (state label : String) (op : ChannelOp) : Entry :=
  ⟨label, ⟨label, [op.read]⟩, .build state label [op], none⟩

/-- A snapshot is cloned after its first step. The copy is stepped and cloned again, and the first one goes
another way. -/
def branching : List Deed := [.apply 0 (towards "q" "a" ⟨none, some "y"⟩), .clone 0,
  .apply 1 (towards "r" "b" ⟨some "y", none⟩), .apply 0 (towards "s" "_" ⟨none, some "z"⟩), .clone 1]

/-- The copy of the copy has the step before the first clone in its history, and then the one before the
second. What is done to it next concerns its parent no more. -/
theorem two_clones_recorded :
    let first : Snapshot := { config := ⟨"p", [["x"]], ["a", "b"]⟩, recording := true }
    let m := (ofFamily [first]).run branching
    (∀ s ∈ [first], s.recording = true) ∧
    (m.deed (.apply 2 (towards "q" "_" ⟨some "x", none⟩))).1.family[1]? = m.family[1]? ∧
    ∃ s, m.family[2]? = some s ∧ s.config = ⟨"r", [["x"]], []⟩ ∧
      s.history = [⟨"q", "a", [["y", "x"]]⟩, ⟨"r", "b", [["x"]]⟩] := by
  intro first m
  have hrecording : ∀ s ∈ [first], s.recording = true := by decide
  obtain ⟨hothers, hhistories⟩ := history_is_lineage [first] hrecording branching
  have hmember : (m.family[2]?).map Snapshot.config = some ⟨"r", [["x"]], []⟩ := by decide +kernel
  obtain ⟨s, hs, hconfig⟩ := Option.map_eq_some_iff.1 hmember
  obtain ⟨root, hroot, hhistory⟩ := hhistories 2 s hs
  have hfirst : [first][(ofFamily [first]).forebear branching 2]? = some first := by decide +kernel
  have hlineage : (ofFamily [first]).lineage branching 2 =
      [⟨"q", "a", [["y", "x"]]⟩, ⟨"r", "b", [["x"]]⟩] := by decide +kernel
  obtain rfl : first = root := Option.some.inj (hfirst.symm.trans hroot)
  refine ⟨hrecording, hothers _ 1 (by decide) (by decide +kernel), s, hs, hconfig, ?_⟩
  rw [hhistory, hlineage]
  rfl

end Memory

end ArrowMachine
