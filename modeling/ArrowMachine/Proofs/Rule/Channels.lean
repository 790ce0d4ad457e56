import ArrowMachine.Rule.Reading
import Mathlib.Data.List.Basic

/-!
What the body of an arrow does to the stack channels.

A bracket and the push list behind it combine channel by channel: a channel is read as the bracket says
and written as either of them says. `ops_eq_ok_iff` says so of the list of channels as a whole, and
`ops_eq_error_iff` that it fails at the first channel that both write.
-/
namespace ArrowMachine.Rule

/-! ## Channels by number -/

def readAt (ops : List ChannelOp) (c : Nat) : Option String := ops[c]?.bind (·.read)

def writeAt (ops : List ChannelOp) (c : Nat) : Option String := ops[c]?.bind (·.write)

/-- The symbol that a push list has for a channel. -/
def pushAt (ws : List Word) (c : Nat) : Option String := ws[c]?.bind writeValue

theorem channels_ext {as bs : List ChannelOp} (hlength : as.length = bs.length)
    (hread : ∀ c, readAt as c = readAt bs c) (hwrite : ∀ c, writeAt as c = writeAt bs c) :
    as = bs := by
  refine List.ext_getElem hlength fun c ha hb => ?_
  have hr := hread c
  have hw := hwrite c
  simp only [readAt, writeAt, List.getElem?_eq_getElem ha, List.getElem?_eq_getElem hb,
    Option.bind_some] at hr hw
  cases hop : as[c]
  cases hop' : bs[c]
  rw [hop, hop'] at hr hw
  exact congrArg₂ ChannelOp.mk hr hw

/-- How many channels a push list reaches: up to the last that it has a symbol for. -/
def pushCount : List Word → Nat
  | [] => 0
  | w :: ws => if writeValue w = none ∧ pushCount ws = 0 then 0 else pushCount ws + 1

theorem lt_pushCount_iff {ws : List Word} {c : Nat} :
    c < pushCount ws ↔ ∃ d, c ≤ d ∧ pushAt ws d ≠ none := by
  induction ws generalizing c with
  | nil => simp [pushCount, pushAt]
  | cons w ws ih =>
    have hsome : ∀ {d}, pushAt ws d ≠ none → 0 < pushCount ws := fun {d} hd =>
      ih.2 ⟨d, Nat.zero_le d, hd⟩
    constructor
    · intro hlt
      cases c with
      | zero =>
        by_cases hw : writeValue w = none
        · have hcount : pushCount ws ≠ 0 := fun hzero => by simp [pushCount, hw, hzero] at hlt
          obtain ⟨d, _, hd⟩ := ih.1 (Nat.pos_of_ne_zero hcount)
          exact ⟨d + 1, Nat.zero_le _, hd⟩
        · exact ⟨0, Nat.le_refl 0, hw⟩
      | succ c =>
        have hcount : c < pushCount ws := by
          rw [pushCount] at hlt
          split at hlt <;> omega
        obtain ⟨d, hle, hd⟩ := ih.1 hcount
        exact ⟨d + 1, Nat.succ_le_succ hle, hd⟩
    · rintro ⟨d, hle, hd⟩
      rw [pushCount]
      cases d with
      | zero =>
        have hw : writeValue w ≠ none := hd
        rw [if_neg fun h => hw h.1]
        omega
      | succ d =>
        have hcount := hsome hd
        have hmore : ¬ (writeValue w = none ∧ pushCount ws = 0) := fun h => by omega
        rw [if_neg hmore]
        cases c with
        | zero => omega
        | succ c =>
          have := ih.2 ⟨d, Nat.le_of_succ_le_succ hle, hd⟩
          omega

/-! ## One push -/

/-- The channels with a symbol written to channel `i`. -/
def put (i : Nat) (value : String) (ops : List ChannelOp) : List ChannelOp :=
  (widen (i + 1) ops).modify i fun op => { op with write := some value }

theorem length_widen (n : Nat) (ops : List ChannelOp) : (widen n ops).length = max ops.length n := by
  simp [widen]
  omega

theorem getElem?_widen (n : Nat) (ops : List ChannelOp) (c : Nat) :
    (widen n ops)[c]? = ops[c]?.or (if c < n then some ⟨none, none⟩ else none) := by
  unfold widen
  rcases Nat.lt_or_ge c ops.length with hc | hc
  · rw [List.getElem?_append_left hc, List.getElem?_eq_getElem hc]
    rfl
  · rw [List.getElem?_append_right hc, List.getElem?_eq_none hc, List.getElem?_replicate]
    have hiff : c - ops.length < n - ops.length ↔ c < n := by omega
    simp only [hiff, Option.none_or]

theorem readAt_widen (n : Nat) (ops : List ChannelOp) (c : Nat) :
    readAt (widen n ops) c = readAt ops c := by
  unfold readAt
  rw [getElem?_widen]
  cases ops[c]? with
  | some op => rfl
  | none =>
    rw [Option.none_or]
    split <;> rfl

theorem writeAt_widen (n : Nat) (ops : List ChannelOp) (c : Nat) :
    writeAt (widen n ops) c = writeAt ops c := by
  unfold writeAt
  rw [getElem?_widen]
  cases ops[c]? with
  | some op => rfl
  | none =>
    rw [Option.none_or]
    split <;> rfl

theorem length_put (i : Nat) (value : String) (ops : List ChannelOp) :
    (put i value ops).length = max ops.length (i + 1) := by
  rw [put, List.length_modify, length_widen]

theorem readAt_put (i : Nat) (value : String) (ops : List ChannelOp) (c : Nat) :
    readAt (put i value ops) c = readAt ops c := by
  rw [← readAt_widen (i + 1) ops]
  unfold readAt put
  rw [List.getElem?_modify, Option.map_eq_map, Option.bind_map]
  split <;> rfl

theorem writeAt_put (i : Nat) (value : String) (ops : List ChannelOp) (c : Nat) :
    writeAt (put i value ops) c = if i = c then some value else writeAt ops c := by
  rw [← writeAt_widen (i + 1) ops]
  unfold writeAt put
  rw [List.getElem?_modify]
  split
  · next hc =>
    subst hc
    have hlt : i < (widen (i + 1) ops).length := by
      rw [length_widen]
      omega
    rw [List.getElem?_eq_getElem hlt]
    rfl
  · simp

/-! ## Push lists -/

/-- Both the channels and a push list from channel `i` on write channel `i + c`. -/
def Clash (i : Nat) (ws : List Word) (ops : List ChannelOp) (c : Nat) : Prop :=
  writeAt ops (i + c) ≠ none ∧ pushAt ws c ≠ none

/-- The channels `out` are `ops` with a push list added from channel `i` on. -/
structure Pushed (i : Nat) (ws : List Word) (ops out : List ChannelOp) : Prop where
  length : out.length = max ops.length (if pushCount ws = 0 then 0 else i + pushCount ws)
  read : ∀ c, readAt out c = readAt ops c
  below : ∀ c, c < i → writeAt out c = writeAt ops c
  write : ∀ c, writeAt out (i + c) = (writeAt ops (i + c)).or (pushAt ws c)

theorem Pushed.unique {i : Nat} {ws : List Word} {ops out out' : List ChannelOp}
    (h : Pushed i ws ops out) (h' : Pushed i ws ops out') : out = out' := by
  refine channels_ext (h.length.trans h'.length.symm) (fun c => (h.read c).trans (h'.read c).symm)
    fun c => ?_
  rcases Nat.lt_or_ge c i with hc | hc
  · rw [h.below c hc, h'.below c hc]
  · obtain ⟨d, rfl⟩ := Nat.exists_eq_add_of_le hc
    rw [h.write d, h'.write d]

/-- What adding a push list comes to. -/
def PushOutcome (i : Nat) (ws : List Word) (ops : List ChannelOp) :
    Except (Nat × Word) (List ChannelOp) → Prop
  | .ok out => (∀ c, ¬ Clash i ws ops c) ∧ Pushed i ws ops out
  | .error (k, w) =>
    ∃ c, k = i + c ∧ ws[c]? = some w ∧ Clash i ws ops c ∧ ∀ d, d < c → ¬ Clash i ws ops d

section Adding

variable {i : Nat} {w : Word} {ws : List Word} {ops ops' out : List ChannelOp} {value : String}

/-- Behind the first word of a push list there are the same clashes, if the channels are the same there. -/
theorem clash_succ (hbeyond : ∀ c, writeAt ops' (i + 1 + c) = writeAt ops (i + (c + 1))) (c : Nat) :
    Clash (i + 1) ws ops' c ↔ Clash i (w :: ws) ops (c + 1) := by
  unfold Clash
  rw [hbeyond]
  rfl

theorem writeAt_put_beyond (i : Nat) (value : String) (ops : List ChannelOp) (c : Nat) :
    writeAt (put i value ops) (i + 1 + c) = writeAt ops (i + (c + 1)) := by
  rw [writeAt_put, if_neg (by omega)]
  congr 1
  omega

/-- A word that pushes nothing leaves its channel as it is. -/
theorem Pushed.skip (hw : writeValue w = none) (h : Pushed (i + 1) ws ops out) :
    Pushed i (w :: ws) ops out where
  length := by
    have hcount : pushCount (w :: ws) = if pushCount ws = 0 then 0 else pushCount ws + 1 := by
      simp [pushCount, hw]
    rw [h.length, hcount]
    by_cases hzero : pushCount ws = 0
    · simp [hzero]
    · simp only [hzero, if_false, Nat.add_one_ne_zero]
      omega
  read := h.read
  below c hc := h.below c (by omega)
  write c := by
    cases c with
    | zero =>
      rw [Nat.add_zero, h.below i (by omega)]
      simp [pushAt, hw]
    | succ c =>
      have hc := h.write c
      rwa [show i + 1 + c = i + (c + 1) by omega] at hc

/-- A word that pushes a symbol onto a channel that nothing is written to. -/
theorem Pushed.put (hw : writeValue w = some value) (hfree : writeAt ops i = none)
    (h : Pushed (i + 1) ws (put i value ops) out) : Pushed i (w :: ws) ops out where
  length := by
    have hcount : pushCount (w :: ws) = pushCount ws + 1 := by simp [pushCount, hw]
    rw [h.length, length_put, hcount]
    split <;> simp <;> omega
  read c := (h.read c).trans (readAt_put i value ops c)
  below c hc := by rw [h.below c (by omega), writeAt_put, if_neg (by omega)]
  write c := by
    cases c with
    | zero =>
      have hpush : pushAt (w :: ws) 0 = some value := hw
      rw [Nat.add_zero, h.below i (by omega), writeAt_put, if_pos rfl, hfree, hpush, Option.none_or]
    | succ c =>
      have hc := h.write c
      rwa [writeAt_put_beyond, show i + 1 + c = i + (c + 1) by omega] at hc

/-- When the first word of a push list clashes with nothing, the others settle what adding it comes to. -/
theorem PushOutcome.cons {outcome : Except (Nat × Word) (List ChannelOp)}
    (hfirst : ¬ Clash i (w :: ws) ops 0)
    (hbeyond : ∀ c, writeAt ops' (i + 1 + c) = writeAt ops (i + (c + 1)))
    (hpushed : ∀ {out}, Pushed (i + 1) ws ops' out → Pushed i (w :: ws) ops out)
    (h : PushOutcome (i + 1) ws ops' outcome) : PushOutcome i (w :: ws) ops outcome := by
  cases outcome with
  | ok out =>
    obtain ⟨hno, hout⟩ := h
    refine ⟨fun c => ?_, hpushed hout⟩
    cases c with
    | zero => exact hfirst
    | succ c => exact (clash_succ hbeyond c).not.1 (hno c)
  | error e =>
    obtain ⟨c, hk, hword, hclash, hno⟩ := h
    refine ⟨c + 1, hk.trans (by omega), hword, (clash_succ hbeyond c).1 hclash, fun d hd => ?_⟩
    cases d with
    | zero => exact hfirst
    | succ d => exact (clash_succ hbeyond d).not.1 (hno d (by omega))

theorem addPushes_outcome (i : Nat) (ws : List Word) (ops : List ChannelOp) :
    PushOutcome i ws ops (addPushes i ws ops) := by
  induction ws generalizing i ops with
  | nil =>
    exact ⟨fun c h => h.2 rfl, by simp [pushCount], fun _ => rfl, fun _ _ => rfl,
      fun c => by simp [pushAt]⟩
  | cons w ws ih =>
    rw [addPushes]
    cases hw : writeValue w with
    | none =>
      have hshift : ∀ c, writeAt ops (i + 1 + c) = writeAt ops (i + (c + 1)) := fun c =>
        congrArg (writeAt ops) (by omega)
      exact .cons (fun h => h.2 hw) hshift (.skip hw) (ih (i + 1) ops)
    | some value =>
      change PushOutcome i (w :: ws) ops
        (if (writeAt (widen (i + 1) ops) i).isSome then .error (i, w)
          else addPushes (i + 1) ws (put i value ops))
      rw [writeAt_widen]
      split
      · next hwritten =>
        have hpush : pushAt (w :: ws) 0 = some value := hw
        refine ⟨0, rfl, rfl, ⟨Option.isSome_iff_ne_none.1 hwritten, ?_⟩, fun d hd => by omega⟩
        rw [hpush]
        exact Option.some_ne_none value
      · next hfree =>
        have hfree : writeAt ops i = none := by simpa using hfree
        exact .cons (fun h => h.1 hfree) (writeAt_put_beyond i value ops) (.put hw hfree)
          (ih (i + 1) (put i value ops))

end Adding

/-! ## Bodies of arrows -/

def BodySpelling.channels : BodySpelling → List ChannelSpelling
  | plain _ => []
  | bracket _ channels _ => channels

def BodySpelling.pushes : BodySpelling → List Word
  | plain _ => []
  | bracket _ _ pushes => pushes

/-- What a bracket reads from a channel. -/
def BodySpelling.bracketRead (b : BodySpelling) (c : Nat) : Option String :=
  b.channels[c]?.bind (·.op.read)

/-- What a bracket writes to a channel. -/
def BodySpelling.bracketWrite (b : BodySpelling) (c : Nat) : Option String :=
  b.channels[c]?.bind (·.op.write)

/-- The bracket and the push list both write a channel, the push list by the word `w`. -/
structure BodySpelling.WritesTwice (b : BodySpelling) (c : Nat) (w : Word) : Prop where
  bracket : b.bracketWrite c ≠ none
  pushed : b.pushes[c]? = some w
  symbol : writeValue w ≠ none

/-- What a body does, channel by channel: it reads what its bracket reads and writes what its bracket
or its push list writes. -/
def BodySpelling.denoted (b : BodySpelling) : List ChannelOp :=
  (List.range (max b.channels.length (pushCount b.pushes))).map fun c =>
    ⟨b.bracketRead c, (b.bracketWrite c).or (pushAt b.pushes c)⟩

namespace BodySpelling

variable {b : BodySpelling}

theorem ops_eq_addPushes (b : BodySpelling) :
    b.ops = addPushes 0 b.pushes (b.channels.map ChannelSpelling.op) := by
  cases b <;> rfl

theorem readAt_channels (b : BodySpelling) (c : Nat) :
    readAt (b.channels.map ChannelSpelling.op) c = b.bracketRead c := by
  rw [readAt, List.getElem?_map, Option.bind_map]
  rfl

theorem writeAt_channels (b : BodySpelling) (c : Nat) :
    writeAt (b.channels.map ChannelSpelling.op) c = b.bracketWrite c := by
  rw [writeAt, List.getElem?_map, Option.bind_map]
  rfl

theorem clash_iff {c : Nat} : Clash 0 b.pushes (b.channels.map ChannelSpelling.op) c ↔
    ∃ w, b.WritesTwice c w := by
  unfold Clash
  rw [Nat.zero_add, b.writeAt_channels]
  constructor
  · rintro ⟨hbracket, hpush⟩
    obtain ⟨value, hvalue⟩ := Option.ne_none_iff_exists'.1 hpush
    obtain ⟨w, hw, hsymbol⟩ := Option.bind_eq_some_iff.1 hvalue
    exact ⟨w, hbracket, hw, by simp [hsymbol]⟩
  · rintro ⟨w, hbracket, hw, hsymbol⟩
    exact ⟨hbracket, by simpa [pushAt, hw] using hsymbol⟩

theorem getElem?_denoted (b : BodySpelling) (c : Nat) :
    b.denoted[c]? = if c < max b.channels.length (pushCount b.pushes) then
      some ⟨b.bracketRead c, (b.bracketWrite c).or (pushAt b.pushes c)⟩ else none := by
  unfold denoted
  rw [List.getElem?_map]
  split
  · next hc => rw [List.getElem?_range hc, Option.map_some]
  · next hc => rw [List.getElem?_eq_none (by simpa using hc), Option.map_none]

/-- Beyond the channels that are counted there is nothing to do. -/
theorem idle_of_le {c : Nat} (hc : max b.channels.length (pushCount b.pushes) ≤ c) :
    b.bracketRead c = none ∧ b.bracketWrite c = none ∧ pushAt b.pushes c = none := by
  have hnone : b.channels[c]? = none := List.getElem?_eq_none (Nat.le_trans (Nat.le_max_left ..) hc)
  refine ⟨by simp [bracketRead, hnone], by simp [bracketWrite, hnone], ?_⟩
  by_contra hpush
  have hlt := lt_pushCount_iff.2 ⟨c, Nat.le_refl c, hpush⟩
  omega

theorem pushed_denoted (b : BodySpelling) :
    Pushed 0 b.pushes (b.channels.map ChannelSpelling.op) b.denoted := by
  refine ⟨?_, fun c => ?_, fun c hc => absurd hc (Nat.not_lt_zero c), fun c => ?_⟩
  · simp only [denoted, List.length_map, List.length_range]
    split <;> omega
  · rw [b.readAt_channels, readAt, getElem?_denoted]
    split
    · rfl
    · next hc => rw [(idle_of_le (Nat.le_of_not_lt hc)).1, Option.bind_none]
  · rw [Nat.zero_add, b.writeAt_channels, writeAt, getElem?_denoted]
    split
    · rfl
    · next hc =>
      obtain ⟨_, hbracket, hpush⟩ := idle_of_le (Nat.le_of_not_lt hc)
      rw [hbracket, hpush]
      rfl

/-- **Brackets and push lists combine channel by channel**, unless both write a channel. -/
theorem ops_eq_ok_iff {ops : List ChannelOp} :
    b.ops = .ok ops ↔ (∀ c w, ¬ b.WritesTwice c w) ∧ ops = b.denoted := by
  have houtcome := addPushes_outcome 0 b.pushes (b.channels.map ChannelSpelling.op)
  rw [← ops_eq_addPushes] at houtcome
  generalize b.ops = outcome at houtcome
  cases outcome with
  | ok out =>
    obtain ⟨hno, hpushed⟩ := houtcome
    obtain rfl := hpushed.unique b.pushed_denoted
    constructor
    · intro h
      exact ⟨fun c w hw => hno c (clash_iff.2 ⟨w, hw⟩), (Except.ok.inj h).symm⟩
    · rintro ⟨_, rfl⟩
      rfl
  | error e =>
    obtain ⟨c, _, _, hclash, _⟩ := houtcome
    obtain ⟨w, hw⟩ := clash_iff.1 hclash
    exact ⟨fun h => (nomatch h), fun h => absurd hw (h.1 c w)⟩

theorem ops_eq_error_iff {c : Nat} {w : Word} :
    b.ops = .error (c, w) ↔ b.WritesTwice c w ∧ ∀ d v, d < c → ¬ b.WritesTwice d v := by
  have houtcome := addPushes_outcome 0 b.pushes (b.channels.map ChannelSpelling.op)
  rw [← ops_eq_addPushes] at houtcome
  generalize b.ops = outcome at houtcome
  cases outcome with
  | ok out => exact ⟨fun h => (nomatch h), fun h => absurd (clash_iff.2 ⟨w, h.1⟩) (houtcome.1 c)⟩
  | error e =>
    obtain ⟨k, v⟩ := e
    obtain ⟨c', hk, hword, hclash, hno⟩ := houtcome
    obtain rfl : k = c' := by omega
    -- The word at a channel is the one that the push list has there.
    obtain ⟨v', hv⟩ := clash_iff.1 hclash
    obtain rfl : v = v' := Option.some.inj (hword.symm.trans hv.pushed)
    constructor
    · intro h
      cases h
      exact ⟨hv, fun d u hd hu => hno d hd (clash_iff.2 ⟨u, hu⟩)⟩
    · rintro ⟨hw, hfirst⟩
      have hle : k ≤ c := Nat.le_of_not_lt fun hlt => hno c hlt (clash_iff.2 ⟨w, hw⟩)
      have hge : c ≤ k := Nat.le_of_not_lt fun hlt => hfirst k v hlt hv
      obtain rfl := Nat.le_antisymm hle hge
      rw [Option.some.inj (hv.pushed.symm.trans hw.pushed)]

end BodySpelling

end ArrowMachine.Rule
