import ArrowMachine.Run.Memory
import Mathlib.Data.List.Nodup

/-!
Whose the lists of a memory are.

An operation in place changes a list of the member that it is done on and does to its configuration what
the operation does (`Op.work_eq_some`). Hence an entry that is applied in place comes to what it comes to
when it is applied to the snapshot (`Held.apply_eq_ok`, `Held.apply_eq_error`).

In a memory whose members are `Apart` no list is held twice, so that work on one member is not seen of any
other (`Memory.Apart.family_put`). Copies get lists that nobody holds. So clones and applies keep the members
apart, and do to them what they do to a family of snapshots (`Memory.Apart.clone`, `Memory.Apart.apply`).
-/
namespace ArrowMachine

/-! ## Lists -/

namespace Lists

variable {ls : Lists} {a b i : Nat}

theorem read_modify_of_ne (h : a ≠ b) (f : List String → List String) :
    read (ls.modify a f) b = ls.read b := by
  simp [read, Array.getElem?_modify, h]

theorem read_modify_self (h : a < ls.size) (f : List String → List String) :
    read (ls.modify a f) a = f (ls.read a) := by
  simp [read, Array.getElem?_modify, Array.getElem?_eq_getElem h]

theorem read_append_of_lt (h : a < ls.size) (ks : Lists) : read (ls ++ ks) a = ls.read a := by
  rw [read, read, Array.getElem?_append_left h]

/-- New lists are read where they have been put. -/
theorem map_read_range' (ls : Lists) (ks rest : List (List String)) :
    (List.range' ls.size ks.length).map (read (ls ++ (ks ++ rest).toArray)) = ks := by
  induction ks generalizing ls with
  | nil => rfl
  | cons k ks ih =>
    have hfirst : read (ls ++ (k :: ks ++ rest).toArray) ls.size = k := by
      rw [read, Array.getElem?_append_right (Nat.le_refl _), Nat.sub_self]
      rfl
    have hsame : ls.push k ++ (ks ++ rest).toArray = ls ++ (k :: ks ++ rest).toArray :=
      Array.toList_inj.1 (by simp)
    have hrest := ih (ls.push k)
    rw [hsame, Array.size_push] at hrest
    rw [List.length_cons, List.range'_succ, List.map_cons, hfirst]
    exact congrArg _ hrest

/-- Changing one of several different lists changes what is read there. -/
theorem map_read_modify {as : List Nat} (hnodup : as.Nodup) (hi : as[i]? = some a) (ha : a < ls.size)
    (f : List String → List String) :
    as.map (read (ls.modify a f)) = (as.map ls.read).modify i f := by
  obtain ⟨hlt, rfl⟩ := List.getElem?_eq_some_iff.1 hi
  refine List.ext_getElem (by simp) fun j hj _ => ?_
  have hj : j < as.length := by simpa using hj
  rw [List.getElem_modify, List.getElem_map, List.getElem_map]
  split
  · next heq =>
    subst heq
    exact read_modify_self ha f
  · next hne => exact read_modify_of_ne (fun heq => hne ((hnodup.getElem_inj_iff).1 heq)) f

end Lists

/-! ## What a member has for itself -/

/-- The lists of a member. -/
def Member.owned (x : Member) : List Nat := x.channels ++ [x.input]

theorem Member.stack?_mem {x : Member} {channel : Int} {a : Nat} (h : x.stack? channel = some a) :
    ∃ i, channelIndex? x.channels.length channel = some i ∧ x.channels[i]? = some a :=
  Option.bind_eq_some_iff.1 h

namespace Held

variable {h k l : Held} {a : Nat} {f : List String → List String}

/-- The lists of the member are all there, and no two of them are one. -/
structure Sole (h : Held) : Prop where
  nodup : h.member.owned.Nodup
  there : ∀ a ∈ h.member.owned, a < h.lists.size

/-- The member has the same lists as before, and other lists are as they were. -/
structure Confined (h k : Held) : Prop where
  owned : k.member.owned = h.member.owned
  size : k.lists.size = h.lists.size
  others : ∀ a, a ∉ h.member.owned → k.lists.read a = h.lists.read a

/-- The member has become `k` by changes of its state and of its lists. -/
structure Worked (h k : Held) : Prop extends Confined h k where
  member : k.member = { h.member with state := k.member.state }

theorem Confined.sole (hk : h.Confined k) (hsole : h.Sole) : k.Sole :=
  ⟨hk.owned ▸ hsole.nodup, by rw [hk.owned, hk.size]; exact hsole.there⟩

theorem Confined.trans (hk : h.Confined k) (hl : k.Confined l) : h.Confined l where
  owned := hl.owned.trans hk.owned
  size := hl.size.trans hk.size
  others a ha := (hl.others a (hk.owned ▸ ha)).trans (hk.others a ha)

theorem Worked.refl (h : Held) : h.Worked h := ⟨⟨rfl, rfl, fun _ _ => rfl⟩, rfl⟩

theorem Worked.trans (hk : h.Worked k) (hl : k.Worked l) : h.Worked l where
  toConfined := hk.toConfined.trans hl.toConfined
  member := by rw [hl.member, hk.member]

/-- What is worked on keeps all that is no part of its configuration. -/
theorem Worked.snapshot (hk : h.Worked k) : k.snapshot = { h.snapshot with config := k.config } := by
  rw [Held.snapshot, hk.member]
  rfl

theorem worked_change (ha : a ∈ h.member.owned) : h.Worked (h.change a f) := by
  refine ⟨⟨rfl, Array.size_modify .., fun b hb => Lists.read_modify_of_ne ?_ f⟩, rfl⟩
  rintro rfl
  exact hb ha

theorem config_change_input (hsole : h.Sole) :
    (h.change h.member.input f).config = { h.config with input := f h.config.input } := by
  have hinput : h.member.input ∉ h.member.channels := fun hmem =>
    (List.nodup_append.1 hsole.nodup).2.2 _ hmem _ (List.mem_singleton_self _) rfl
  have hstacks : h.member.channels.map (Lists.read (h.lists.modify h.member.input f)) =
      h.member.channels.map h.lists.read := by
    refine List.map_congr_left fun a ha => Lists.read_modify_of_ne ?_ f
    rintro rfl
    exact hinput ha
  have hread := Lists.read_modify_self (hsole.there h.member.input (by simp [Member.owned])) f
  rw [config, change, hstacks, hread]
  rfl

theorem config_change_stack (hsole : h.Sole) {i : Nat} (hi : h.member.channels[i]? = some a) :
    (h.change a f).config = { h.config with channels := h.config.channels.modify i f } := by
  have hmem : a ∈ h.member.channels := List.mem_of_getElem? hi
  have hinput : a ≠ h.member.input :=
    (List.nodup_append.1 hsole.nodup).2.2 a hmem _ (List.mem_singleton_self _)
  have hstacks := Lists.map_read_modify (List.nodup_append.1 hsole.nodup).1 hi
    (hsole.there a (List.mem_append_left _ hmem)) f
  rw [config, change, hstacks, Lists.read_modify_of_ne hinput]
  rfl

/-- Recording a step concerns no list. -/
theorem confined_record (h : Held) (label : String) : h.Confined (h.record label) := by
  unfold record
  split
  · exact ⟨rfl, rfl, fun _ _ => rfl⟩
  · exact ⟨rfl, rfl, fun _ _ => rfl⟩

theorem snapshot_record (h : Held) (label : String) :
    (h.record label).snapshot = h.snapshot.record label := by
  unfold record Snapshot.record
  rw [show h.snapshot.recording = h.member.recording from rfl]
  split <;> rfl

end Held

/-- A member is read off its own lists. -/
theorem Held.snapshot_congr {ls ks : Lists} {x : Member} (h : ∀ a ∈ x.owned, ks.read a = ls.read a) :
    Held.snapshot ⟨ks, x⟩ = Held.snapshot ⟨ls, x⟩ := by
  have hstacks : x.channels.map ks.read = x.channels.map ls.read :=
    List.map_congr_left fun a ha => h a (List.mem_append_left _ ha)
  unfold Held.snapshot Held.config
  rw [hstacks, h x.input (by simp [Member.owned])]

/-! ## Operations in place -/

section Operations

variable {h k : Held} {op : Op} {ops : List Op} {e : Entry}

/-- An operation in place does to the configuration what it does, and works on own lists only. -/
theorem Op.work_eq_some (hsole : h.Sole) (hk : op.work h = some k) :
    h.Worked k ∧ op.apply h.config = some k.config := by
  have hchannels : h.config.channels.length = h.member.channels.length := List.length_map ..
  cases op with
  | consume =>
    obtain rfl := Option.some.inj hk
    refine ⟨Held.worked_change (by simp [Member.owned]), ?_⟩
    rw [Held.config_change_input hsole]
    rfl
  | pop channel =>
    obtain ⟨a, ha, rfl⟩ := Option.map_eq_some_iff.1 hk
    obtain ⟨i, hi, hat⟩ := Member.stack?_mem ha
    refine ⟨Held.worked_change (List.mem_append_left _ (List.mem_of_getElem? hat)), ?_⟩
    rw [Held.config_change_stack hsole hat, Op.apply, hchannels, hi]
    rfl
  | push channel value =>
    obtain ⟨a, ha, rfl⟩ := Option.map_eq_some_iff.1 hk
    obtain ⟨i, hi, hat⟩ := Member.stack?_mem ha
    refine ⟨Held.worked_change (List.mem_append_left _ (List.mem_of_getElem? hat)), ?_⟩
    rw [Held.config_change_stack hsole hat, Op.apply, hchannels, hi]
    rfl
  | set state =>
    obtain rfl := Option.some.inj hk
    exact ⟨⟨⟨rfl, rfl, fun _ _ => rfl⟩, rfl⟩, rfl⟩

theorem Member.stack?_eq_none {x : Member} {channel : Int} (h : x.stack? channel = none) :
    channelIndex? x.channels.length channel = none := by
  cases hi : channelIndex? x.channels.length channel with
  | none => rfl
  | some i =>
    have hlt : i < x.channels.length := by
      unfold channelIndex? at hi
      simp only [Option.ite_none_right_eq_some, Option.some.injEq] at hi
      omega
    rw [Member.stack?, hi, Option.bind_some, List.getElem?_eq_getElem hlt] at h
    cases h

theorem Op.work_eq_none (hk : op.work h = none) : op.apply h.config = none := by
  have hchannels : h.config.channels.length = h.member.channels.length := List.length_map ..
  cases op with
  | consume => cases hk
  | pop channel =>
    rw [Op.apply, hchannels, Member.stack?_eq_none (Option.map_eq_none_iff.1 hk)]
    rfl
  | push channel value =>
    rw [Op.apply, hchannels, Member.stack?_eq_none (Option.map_eq_none_iff.1 hk)]
    rfl
  | set state => cases hk

/-- Operations in place come to what they come to. -/
theorem Op.workAll_eq_ok (hsole : h.Sole) (hk : Op.workAll ops h = .ok k) :
    h.Worked k ∧ Op.applyAll ops h.config = .ok k.config := by
  induction ops generalizing h with
  | nil =>
    obtain rfl := Except.ok.inj hk
    exact ⟨.refl h, rfl⟩
  | cons op ops ih =>
    rw [Op.workAll] at hk
    cases hwork : op.work h with
    | none =>
      rw [hwork] at hk
      cases hk
    | some l =>
      rw [hwork] at hk
      obtain ⟨hl, happly⟩ := Op.work_eq_some hsole hwork
      obtain ⟨hrest, hall⟩ := ih (hl.sole hsole) hk
      exact ⟨hl.trans hrest, by rw [Op.applyAll, happly]; exact hall⟩

/-- If one of them fails, what was done before it is done in place, too. -/
theorem Op.workAll_eq_error {fault : NoChannel Held} (hsole : h.Sole)
    (hfault : Op.workAll ops h = .error fault) : h.Worked fault.reached ∧
      Op.applyAll ops h.config = .error ⟨fault.channel, fault.reached.config⟩ := by
  induction ops generalizing h with
  | nil => cases hfault
  | cons op ops ih =>
    rw [Op.workAll] at hfault
    cases hwork : op.work h with
    | none =>
      rw [hwork] at hfault
      obtain rfl := Except.error.inj hfault
      exact ⟨.refl h, by rw [Op.applyAll, Op.work_eq_none hwork]⟩
    | some l =>
      rw [hwork] at hfault
      obtain ⟨hl, happly⟩ := Op.work_eq_some hsole hwork
      obtain ⟨hrest, hall⟩ := ih (hl.sole hsole) hfault
      exact ⟨hl.trans hrest, by rw [Op.applyAll, happly]; exact hall⟩

/-- An entry applied in place comes to what it comes to when the snapshot is stepped. -/
theorem Held.apply_eq_ok (hsole : h.Sole) (hk : h.apply e = .ok k) :
    h.Confined k ∧ h.snapshot.apply e = .ok k.snapshot := by
  rw [Held.apply] at hk
  cases hops : Op.workAll e.action.ops h with
  | error fault =>
    rw [hops] at hk
    cases hk
  | ok l =>
    rw [hops] at hk
    obtain rfl := Except.ok.inj hk
    obtain ⟨hl, happly⟩ := Op.workAll_eq_ok hsole hops
    refine ⟨hl.toConfined.trans (l.confined_record e.label), ?_⟩
    rw [Held.snapshot_record, hl.snapshot, Snapshot.apply, Action.apply, if_pos rfl]
    rw [show h.snapshot.config = h.config from rfl, happly]

theorem Held.apply_eq_error {fault : NoChannel Held} (hsole : h.Sole) (hfault : h.apply e = .error fault) :
    h.Confined fault.reached ∧
      h.snapshot.apply e = .error ⟨fault.channel, fault.reached.snapshot⟩ := by
  rw [Held.apply] at hfault
  cases hops : Op.workAll e.action.ops h with
  | ok l =>
    rw [hops] at hfault
    cases hfault
  | error fault' =>
    rw [hops] at hfault
    obtain rfl := Except.error.inj hfault
    obtain ⟨hl, happly⟩ := Op.workAll_eq_error hsole hops
    refine ⟨hl.toConfined, ?_⟩
    rw [hl.snapshot, Snapshot.apply, Action.apply, if_pos rfl]
    rw [show h.snapshot.config = h.config from rfl, happly]

end Operations

/-! ## Members among each other -/

/-- What an apply can come to. -/
theorem Family.apply_cases (f : Family) (i : Nat) (e : Entry) :
    (f[i]? = none ∧ f.apply i e = (f, none)) ∨
    (∃ s t, f[i]? = some s ∧ s.apply e = .ok t ∧ f.apply i e = (f.set i t, none)) ∨
    (∃ s fault, f[i]? = some s ∧ s.apply e = .error fault ∧
      f.apply i e = (f.set i fault.reached, some fault.channel)) := by
  rw [Family.apply]
  cases hi : f[i]? with
  | none => exact Or.inl ⟨rfl, rfl⟩
  | some s =>
    cases happly : s.apply e with
    | ok t => exact Or.inr (Or.inl ⟨s, t, rfl, happly, by simp only [happly]⟩)
    | error fault => exact Or.inr (Or.inr ⟨s, fault, rfl, happly, by simp only [happly]⟩)

namespace Memory

variable {m : Memory} {h k : Held} {x y : Member} {s : Snapshot} {e : Entry} {i j : Nat}

/-- No list is held twice, by one member or by two, and every list that is held is there. -/
structure Apart (m : Memory) : Prop where
  nodup : (m.members.flatMap Member.owned).Nodup
  there : ∀ a ∈ m.members.flatMap Member.owned, a < m.lists.size

theorem members_put (m : Memory) (i : Nat) (h : Held) :
    (m.put i h).members = m.members.set i h.member :=
  Array.toList_setIfInBounds

theorem members_add (m : Memory) (s : Snapshot) :
    (m.add s).members = m.members ++ [.ofSnapshot m.lists.size s] :=
  Array.toList_push

theorem held?_eq_some (hi : m.held? i = some h) : m.members[i]? = some h.member ∧ h.lists = m.lists := by
  obtain ⟨x, hx, rfl⟩ := Option.map_eq_some_iff.1 hi
  exact ⟨by rw [members, Array.getElem?_toList, hx], rfl⟩

theorem getElem?_family (m : Memory) (i : Nat) : m.family[i]? = (m.held? i).map Held.snapshot := by
  rw [family, held?, List.getElem?_map, members, Array.getElem?_toList, Option.map_map]
  rfl

theorem length_family (m : Memory) : m.family.length = m.members.length := List.length_map ..

theorem Apart.sole (hm : m.Apart) (hi : m.held? i = some h) : h.Sole := by
  obtain ⟨hmember, hlists⟩ := held?_eq_some hi
  have hmem : h.member ∈ m.members := List.mem_of_getElem? hmember
  refine ⟨(List.nodup_flatMap.1 hm.nodup).1 _ hmem, fun a ha => ?_⟩
  rw [hlists]
  exact hm.there a (List.mem_flatMap.2 ⟨_, hmem, ha⟩)

/-- Two members have no list in common. -/
theorem Apart.foreign (hm : m.Apart) (hi : m.members[i]? = some x) (hj : m.members[j]? = some y)
    (hne : i ≠ j) : ∀ a ∈ y.owned, a ∉ x.owned := by
  obtain ⟨hilt, rfl⟩ := List.getElem?_eq_some_iff.1 hi
  obtain ⟨hjlt, rfl⟩ := List.getElem?_eq_some_iff.1 hj
  have hpairs := List.pairwise_iff_getElem.1 (List.nodup_flatMap.1 hm.nodup).2
  intro a hy hx
  rcases Nat.lt_or_gt_of_ne hne with hlt | hgt
  · exact hpairs i j hilt hjlt hlt hx hy
  · exact hpairs j i hjlt hilt hgt hy hx

theorem flatMap_owned_put (hi : m.held? i = some h) (hk : h.Confined k) :
    (m.put i k).members.flatMap Member.owned = m.members.flatMap Member.owned := by
  have hmember := (held?_eq_some hi).1
  have hmap : (m.members.set i k.member).map Member.owned = m.members.map Member.owned := by
    refine List.ext_getElem? fun j => ?_
    rw [List.map_set, List.getElem?_set, List.length_map]
    split
    · next heq =>
      subst heq
      rw [List.getElem?_map, hmember, Option.map_some, hk.owned,
        if_pos (List.getElem?_eq_some_iff.1 hmember).1]
    · rfl
  rw [members_put, List.flatMap_def, List.flatMap_def, hmap]

theorem Apart.put (hm : m.Apart) (hi : m.held? i = some h) (hk : h.Confined k) : (m.put i k).Apart := by
  have howned := flatMap_owned_put hi hk
  refine ⟨howned ▸ hm.nodup, fun a ha => ?_⟩
  change a < k.lists.size
  rw [hk.size, (held?_eq_some hi).2]
  exact hm.there a (howned ▸ ha)

/-- **What a member does with its own lists is seen of no other member.** -/
theorem Apart.family_put (hm : m.Apart) (hi : m.held? i = some h) (hk : h.Confined k) :
    (m.put i k).family = m.family.set i k.snapshot := by
  obtain ⟨hmember, hlists⟩ := held?_eq_some hi
  rw [family, members_put, List.map_set]
  refine List.ext_getElem? fun j => ?_
  rw [List.getElem?_set, List.getElem?_set, List.length_map, length_family]
  split
  · rfl
  · next hne =>
    rw [family, List.getElem?_map, List.getElem?_map]
    refine Option.map_congr fun y hy => Held.snapshot_congr fun a ha => ?_
    rw [show (m.put i k).lists = k.lists from rfl, hk.others a (hm.foreign hmember hy hne a ha), hlists]

theorem Apart.add (hm : m.Apart) (s : Snapshot) : (m.add s).Apart := by
  have hnew : (m.add s).members.flatMap Member.owned = m.members.flatMap Member.owned ++
      List.range' m.lists.size (s.config.channels.length + 1) := by
    rw [members_add, List.flatMap_append, List.flatMap_singleton, List.range'_1_concat]
    rfl
  have hsize : (m.add s).lists.size = m.lists.size + (s.config.channels.length + 1) := by
    simp [Memory.add]
  refine ⟨?_, fun a ha => ?_⟩
  · rw [hnew, List.nodup_append]
    refine ⟨hm.nodup, List.nodup_range', fun a ha b hb => ?_⟩
    have hle := (List.mem_range'_1.1 hb).1
    exact Nat.ne_of_lt (Nat.lt_of_lt_of_le (hm.there a ha) hle)
  · rw [hsize]
    rw [hnew, List.mem_append] at ha
    rcases ha with ha | ha
    · exact Nat.lt_add_right _ (hm.there a ha)
    · exact (List.mem_range'_1.1 ha).2

/-- A snapshot that is added is what it was, and the members do not notice. -/
theorem Apart.family_add (hm : m.Apart) (s : Snapshot) : (m.add s).family = m.family ++ [s] := by
  have hold : m.members.map (fun x => Held.snapshot ⟨(m.add s).lists, x⟩) = m.family := by
    refine List.map_congr_left fun x hx => Held.snapshot_congr fun a ha => ?_
    exact Lists.read_append_of_lt (hm.there a (List.mem_flatMap.2 ⟨x, hx, ha⟩)) _
  have hstacks := Lists.map_read_range' m.lists s.config.channels [s.config.input]
  have hinput : Lists.read (m.lists ++ (s.config.channels ++ [s.config.input]).toArray)
      (m.lists.size + s.config.channels.length) = s.config.input := by
    rw [Lists.read, Array.getElem?_append_right (Nat.le_add_right ..), Nat.add_sub_cancel_left]
    simp
  rw [family, members_add, List.map_append, hold, List.map_singleton]
  congr 2
  rw [Held.snapshot, Held.config]
  exact congr_arg₂ (fun channels input => (⟨⟨s.config.state, channels, input⟩, s.halted, s.trail, s.recording⟩ :
    Snapshot)) hstacks hinput

theorem ofFamily_spec (f : Family) : (ofFamily f).Apart ∧ (ofFamily f).family = f := by
  have hfold : ∀ m : Memory, m.Apart → (f.foldl Memory.add m).Apart ∧
      (f.foldl Memory.add m).family = m.family ++ f := by
    induction f with
    | nil => exact fun m hm => ⟨hm, (List.append_nil _).symm⟩
    | cons s f ih =>
      intro m hm
      obtain ⟨happart, hfamily⟩ := ih (m.add s) (hm.add s)
      exact ⟨happart, by rw [List.foldl_cons, hfamily, hm.family_add, List.append_assoc]; rfl⟩
  exact hfold {} ⟨.nil, fun a ha => nomatch ha⟩

/-- A copy of a member is a copy of the snapshot. -/
theorem Apart.clone (hm : m.Apart) (i : Nat) :
    (m.clone i).Apart ∧ (m.clone i).family = m.family.clone i := by
  rw [Memory.clone, Family.clone, getElem?_family]
  cases m.held? i with
  | none => exact ⟨hm, (List.append_nil _).symm⟩
  | some h => exact ⟨hm.add _, hm.family_add _⟩

/-- **Members are stepped in place as snapshots are stepped**, also where an operation fails. -/
theorem Apart.apply (hm : m.Apart) (i : Nat) (e : Entry) : (m.apply i e).1.Apart ∧
    (m.apply i e).1.family = (m.family.apply i e).1 ∧ (m.apply i e).2 = (m.family.apply i e).2 := by
  rw [Memory.apply, Family.apply, getElem?_family]
  cases hi : m.held? i with
  | none => exact ⟨hm, rfl, rfl⟩
  | some h =>
    have hsole := hm.sole hi
    cases happly : h.apply e with
    | ok k =>
      obtain ⟨hk, hsnapshot⟩ := Held.apply_eq_ok hsole happly
      simp only [Option.map_some, happly, hsnapshot]
      exact ⟨hm.put hi hk, hm.family_put hi hk, trivial⟩
    | error fault =>
      obtain ⟨hk, hsnapshot⟩ := Held.apply_eq_error hsole happly
      simp only [Option.map_some, happly, hsnapshot]
      exact ⟨hm.put hi hk, hm.family_put hi hk, trivial⟩

/-- A member that is stepped overwrites no other. -/
theorem Apart.getElem?_apply (hm : m.Apart) (e : Entry) (hne : i ≠ j) :
    (m.apply i e).1.family[j]? = m.family[j]? := by
  rw [(hm.apply i e).2.1]
  obtain ⟨-, happly⟩ | ⟨_, t, -, -, happly⟩ | ⟨_, fault, -, -, happly⟩ := m.family.apply_cases i e
  · rw [happly]
  · rw [happly, List.getElem?_set_ne hne]
  · rw [happly, List.getElem?_set_ne hne]

/-- A copy overwrites no member. -/
theorem Apart.getElem?_clone (hm : m.Apart) (i : Nat) (hj : j < m.family.length) :
    (m.clone i).family[j]? = m.family[j]? := by
  rw [(hm.clone i).2, Family.clone, List.getElem?_append_left hj]

end Memory

end ArrowMachine
