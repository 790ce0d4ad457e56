import ArrowMachine.Proofs.Table.Form

/-!
Asking for more channels.

What is asked for enters merging at its very end, where rows are widened (`Program.exists_draft`). So a
text that compiles with fewer channels compiles to the same table with every row widened further
(`Program.table_padded`), and one that is refused is refused for the same reason; only rows that lack too
many reads may go wrong (`compile_widens`). Reads that are added ask for nothing, whatever the tops of the
channels are (`Filter.accepts_padded`).
-/
namespace ArrowMachine

/-! ## Reads and tops that are added -/

namespace Filter

theorem missing_mono {m n : Nat} (h : m ≤ n) (f : Filter) : f.missing m ≤ f.missing n :=
  Nat.sub_le_sub_right h _

theorem padded_padded {m n : Nat} (h : m ≤ n) (f : Filter) : (f.padded m).padded n = f.padded n := by
  have hmissing : f.missing m + (f.padded m).missing n = f.missing n := by
    rw [missing, missing, missing, length_reads_padded]
    omega
  rw [padded, padded, padded, List.append_assoc, List.replicate_append_replicate]
  change (⟨f.input, f.reads ++ List.replicate (f.missing m + (f.padded m).missing n) none⟩ : Filter) = _
  rw [hmissing]

theorem readsFit_replicate (n : Nat) (tops : List (Option String)) :
    readsFit (List.replicate n none) tops = true := by
  induction n generalizing tops with
  | zero => rfl
  | succ n ih =>
    rw [List.replicate_succ, readsFit, ih]
    rfl

/-- Absent reads behind others ask for nothing. -/
theorem readsFit_append_none (rs : List (Option String)) (n : Nat) (tops : List (Option String)) :
    readsFit (rs ++ List.replicate n none) tops = readsFit rs tops := by
  induction rs generalizing tops with
  | nil => exact readsFit_replicate n tops
  | cons r rs ih => rw [List.cons_append, readsFit, readsFit, ih]

/-- Channels that are empty are read like channels that are not there. -/
theorem readsFit_tops_append (rs tops : List (Option String)) (n : Nat) :
    readsFit rs (tops ++ List.replicate n none) = readsFit rs tops := by
  induction rs generalizing tops n with
  | nil => rfl
  | cons r rs ih =>
    cases tops with
    | cons top tops => rw [List.cons_append, readsFit, readsFit, List.tail_cons, List.tail_cons, ih]; rfl
    | nil =>
      cases n with
      | zero => rfl
      | succ n =>
        have hrest := ih [] n
        rw [List.nil_append] at hrest ⊢
        rw [List.replicate_succ, readsFit, readsFit, List.tail_cons, hrest]
        rfl

theorem accepts_padded (f : Filter) (count : Nat) (head : Option String) (tops : List (Option String))
    (n : Nat) :
    (f.padded count).accepts head (tops ++ List.replicate n none) = f.accepts head tops := by
  rw [accepts, accepts, padded, readsFit_tops_append, readsFit_append_none]

end Filter

/-! ## Tables that are widened -/

namespace Compiled

variable {t : Compiled}

/-- The table with every row widened to `count` channels. -/
def padded (t : Compiled) (count : Int) : Compiled :=
  { t with
    transitions := t.transitions.map fun (state, es) => (state, es.map (·.padded count.toNat))
    stackCount := count }

theorem entriesFor_padded (t : Compiled) (count : Int) (state : String) :
    (t.padded count).entriesFor state = (t.entriesFor state).map (·.padded count.toNat) := by
  rw [entriesFor, padded, lookup_map_snd, entriesFor]
  cases t.transitions.lookup state <;> rfl

/-- The same rows apply when all channels that are added are empty. -/
theorem possible_padded (t : Compiled) (count : Int) (state : String) (head : Option String)
    (tops : List (Option String)) (n : Nat) :
    (t.padded count).possible state head (tops ++ List.replicate n none) =
      (t.possible state head tops).map (·.padded count.toNat) := by
  rw [possible, entriesFor_padded, List.filter_map]
  congr 2
  funext e
  exact e.filter.accepts_padded count.toNat head tops n

end Compiled

/-! ## Merging -/

namespace Program

variable {p : Program} {cap : Capacity} {settings : Settings} {least : Int} {rows : List Claim}

/-- The end of merging, where rows are widened. -/
def widenRows (p : Program) (cap : Capacity) (settings : Settings) (initial : String) (rows : List Claim) :
    Except CompileError Compiled :=
  match p.excess? cap settings rows with
  | some missing => .error (.tooWide missing)
  | none => .ok (p.table settings initial rows)

/-- Before rows are widened, merging comes to the same under all settings. -/
theorem exists_draft (p : Program) (cap : Capacity) : ∃ draft : Except CompileError (String × List Claim),
    ∀ settings, (p.merge cap settings).result = draft >>= fun d => p.widenRows cap settings d.1 d.2 := by
  unfold merge
  simp only
  cases (settle Claim.filterPlace some [] p.claims).conflict with
  | some oc => exact ⟨.error (conflictError oc.1 oc.2), fun _ => rfl⟩
  | none =>
    cases (settle Claim.labelPlace Offer.claim? [] p.offers).conflict with
    | some oc => exact ⟨.error (conflictError oc.1 oc.2), fun _ => rfl⟩
    | none =>
      cases p.trials.find? (·.crosses) with
      | some t => exact ⟨.error (.crossedGroup t.wildcard.text t.claim.state), fun _ => rfl⟩
      | none =>
        cases p.initialState with
        | error e => exact ⟨.error e, fun _ => rfl⟩
        | ok initial =>
          refine ⟨.ok (initial, (settle Claim.filterPlace some [] p.claims).accepted ++
            (settle Claim.labelPlace Offer.claim? [] p.offers).accepted.filterMap Offer.claim?),
            fun settings => ?_⟩
          simp only [bind, Except.bind, widenRows]
          generalize p.excess? cap settings _ = width
          cases width <;> rfl

/-- Asking for more channels gives as many as are asked for, if that is more than there would be. -/
theorem channelCount_eq_max (h : settings.stackCount ≤ least) :
    p.channelCount least = max (p.channelCount settings.stackCount) least := by
  refine eq_of_forall_ge_iff fun n => ?_
  rw [max_le_iff, channelCount_le_iff, channelCount_le_iff]
  constructor
  · rintro ⟨hleast, hedges⟩
    exact ⟨⟨h.trans hleast, hedges⟩, hleast⟩
  · rintro ⟨⟨_, hedges⟩, hleast⟩
    exact ⟨hleast, hedges⟩

theorem table_padded (h : settings.stackCount ≤ least) (initial : String) (rows : List Claim) :
    p.table { settings with stackCount := least } initial rows =
      (p.table settings initial rows).padded (max (p.channelCount settings.stackCount) least) := by
  have hle : p.channelCount settings.stackCount ≤ max (p.channelCount settings.stackCount) least :=
    le_max_left _ _
  unfold table Compiled.padded
  simp only [List.map_map, channelCount_eq_max h]
  congr 2
  funext row
  simp only [Function.comp_apply, List.map_map]
  congr 2
  funext e
  simp only [Function.comp_apply, Entry.padded, Filter.padded_padded (Int.toNat_le_toNat hle)]

/-- Rows that lack too many reads still do when more channels are asked for. -/
theorem excess?_eq_none_of_le (h : settings.stackCount ≤ least)
    (hnone : p.excess? cap { settings with stackCount := least } rows = none) :
    p.excess? cap settings rows = none := by
  unfold excess? at hnone ⊢
  rw [List.find?_eq_none] at hnone ⊢
  intro n hn
  obtain ⟨c, hc, rfl⟩ := List.mem_map.1 hn
  have hmore := hnone _ (List.mem_map_of_mem (f := fun c : Claim => c.entry.filter.missing _) hc)
  have hcount : (p.channelCount settings.stackCount).toNat ≤ (p.channelCount least).toNat := by
    rw [channelCount_eq_max h]
    exact Int.toNat_le_toNat (le_max_left _ _)
  have hle := Filter.missing_mono hcount c.entry.filter
  simp only [decide_eq_true_eq] at hmore ⊢
  omega

/-- A row lacks no more reads than there are channels. -/
theorem bounds_of_excess? {missing : Nat} (h : p.excess? cap settings rows = some missing) :
    cap.room < missing ∧ missing ≤ (p.channelCount settings.stackCount).toNat := by
  have hmany : cap.room < missing := by simpa using List.find?_some h
  obtain ⟨c, _, rfl⟩ := List.mem_map.1 (List.mem_of_find?_eq_some h)
  exact ⟨hmany, Nat.sub_le _ _⟩

end Program

/-- What compiling comes to when at least `least` channels are asked for, by what it comes to with fewer:
the same refusal, the same table with its rows widened, or a row that lacks too many of the channels that
are asked for. -/
inductive Widens (cap : Capacity) (least : Int) :
    Except CompileError Compiled → Except CompileError Compiled → Prop
  | refused (e : CompileError) : Widens cap least (.error e) (.error e)
  | table (t : Compiled) : Widens cap least (.ok t) (.ok (t.padded (max t.stackCount least)))
  | tooWide {result : Except CompileError Compiled} {missing : Nat}
      (hresult : ∀ e, result = .error e → ∃ few, e = .tooWide few)
      (hmany : cap.room < missing) (hleast : (missing : Int) ≤ least) :
      Widens cap least result (.error (.tooWide missing))

namespace Program

variable {p : Program} {cap : Capacity} {settings : Settings} {least : Int}

theorem widenRows_widens (h : settings.stackCount ≤ least) (initial : String) (rows : List Claim) :
    Widens cap least (p.widenRows cap settings initial rows)
      (p.widenRows cap { settings with stackCount := least } initial rows) := by
  cases hexcess : p.excess? cap { settings with stackCount := least } rows with
  | none =>
    have hnone := excess?_eq_none_of_le h hexcess
    unfold widenRows
    rw [hexcess, hnone]
    simp only
    rw [table_padded h]
    exact .table (p.table settings initial rows)
  | some missing =>
    have hwide : p.widenRows cap { settings with stackCount := least } initial rows =
        .error (.tooWide missing) := by
      unfold widenRows
      rw [hexcess]
    rw [hwide]
    obtain ⟨hmany, hmissing⟩ := bounds_of_excess? hexcess
    change missing ≤ (p.channelCount least).toNat at hmissing
    rcases le_total least (p.channelCount settings.stackCount) with hle | hle
    · -- As many channels are needed anyway.
      have hcount : p.channelCount least = p.channelCount settings.stackCount := by
        rw [channelCount_eq_max h, max_eq_left hle]
      have hsame : p.excess? cap settings rows = some missing := by
        rw [← hexcess, excess?, excess?, hcount]
      have hnarrow : p.widenRows cap settings initial rows = .error (.tooWide missing) := by
        unfold widenRows
        rw [hsame]
      rw [hnarrow]
      exact .refused _
    · rw [channelCount_eq_max h, max_eq_right hle] at hmissing
      refine .tooWide (fun e he => ?_) hmany (by omega)
      unfold widenRows at he
      split at he
      · next few _ => exact ⟨few, (Except.error.inj he).symm⟩
      · cases he

theorem merge_widens (p : Program) (h : settings.stackCount ≤ least) :
    Widens cap least (p.merge cap settings).result
      (p.merge cap { settings with stackCount := least }).result := by
  obtain ⟨draft, hdraft⟩ := p.exists_draft cap
  rw [hdraft, hdraft]
  cases draft with
  | error e => exact .refused e
  | ok d => exact widenRows_widens h d.1 d.2

end Program

/-- **Asking for more channels compiles to the same table with wider rows,** or is refused for the same
reason, unless a row then lacks too many reads. -/
theorem compile_widens (cap : Capacity) {settings : Settings} {least : Int} (h : settings.stackCount ≤ least)
    (source : String) :
    Widens cap least (compile cap settings source).result
      (compile cap { settings with stackCount := least } source).result := by
  unfold compile
  cases statementsOf cap source with
  | error e => exact .refused e
  | ok ss =>
    simp only
    unfold compileStatements
    cases ss.mapM Statement.expand with
    | error e => exact .refused e
    | ok rules => exact (⟨rules⟩ : Program).merge_widens h

/-- A program that needs no channel compiles, but not when more are asked for than rows can be widened
to. -/
theorem too_many_channels_asked_for :
    (∃ t, (compile .ample {} ".a -x> (b);").result = .ok t) ∧
      (compile .ample { stackCount := 0x1000000000000000 } ".a -x> (b);").result =
        .error (.tooWide 0x1000000000000000) := by
  have hcompiles : (compile .ample {} ".a -x> (b);").result.isOk = true := by decide +kernel
  refine ⟨?_, by decide +kernel⟩
  cases hresult : (compile .ample {} ".a -x> (b);").result with
  | ok t => exact ⟨t, rfl⟩
  | error e =>
    rw [hresult] at hcompiles
    cases hcompiles

end ArrowMachine
