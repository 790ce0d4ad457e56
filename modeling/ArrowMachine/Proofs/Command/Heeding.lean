import ArrowMachine.Proofs.Command.Mentions

/-!
What is in force behind arguments.

A request is known from the mentions in its arguments (`makes_iff`): a setting has the value of its last
mention, or that which it has by default, and so on (`Heeds`). Therefore only the order counts in which one
subject is mentioned (`demand_of_same`), and mentions of different subjects may change places
(`demand_swap`). `settings_end_at_last_mention` puts this together with the way in which arguments are cut into groups.
-/
namespace ArrowMachine.Command

/-- The arguments say this, in order. -/
def Mentions (arguments : List String) (ms : List Mention) : Prop :=
  ∃ gs, Written gs arguments ∧ List.Forall₂ Group.Says gs ms

variable {arguments : List String} {gs : List Group} {ms ms' : List Mention} {m : Mention}
  {r r' : Reading} {q q' : Request}

namespace Mention

/-- The input file that is named. -/
def input? : Mention → Option String
  | input path => some path
  | _ => none

/-- The output that is named. -/
def output? : Mention → Option String
  | output name => some name
  | _ => none

/-- The name that is given to the program, or that it has from its file. -/
def names? (m : Mention) : Option String := m.output?.or (m.input?.map Reading.outputOf)

/-- How a flag is turned. -/
def turn? (switch : Switch) : Mention → Option Bool
  | flag s on => if s = switch then some on else none
  | _ => none

/-- The value that an option is given. -/
def value? (setting : Setting) : Mention → Option Value
  | option s value => if s = setting then some value else none
  | _ => none

def dumps? : Mention → Option (List Dump)
  | dumps ds => some ds
  | _ => none

def dumpPrefix? : Mention → Option String
  | dumpPrefix text => some text
  | _ => none

end Mention

/-! ## Mentions in turn -/

/-- Each step leaves a field alone or sets it, so behind all of them it is as the last step set it. -/
theorem foldl_last {σ α β : Type} {step : σ → α → σ} (field : σ → Option β) {pick : α → Option β}
    {as : List α} (h : ∀ a ∈ as, ∀ s, field (step s a) = (pick a).or (field s)) (s : σ) :
    field (as.foldl step s) = (as.filterMap pick).getLast?.or (field s) := by
  induction as generalizing s with
  | nil => rfl
  | cons a as ih =>
    have hrest := ih (fun b hb => h b (List.mem_cons_of_mem _ hb)) (step s a)
    rw [List.foldl_cons, hrest, h a List.mem_cons_self]
    cases hpick : pick a with
    | none => rw [List.filterMap_cons_none hpick, Option.none_or]
    | some b =>
      rw [List.filterMap_cons_some hpick, List.getLast?_cons]
      cases (as.filterMap pick).getLast? <;> rfl

/-- What every step adds stands behind what there was. -/
theorem foldl_append {σ α β : Type} {step : σ → α → σ} (field : σ → List β) {pick : α → List β}
    (h : ∀ s a, field (step s a) = field s ++ pick a) (s : σ) (as : List α) :
    field (as.foldl step s) = field s ++ as.flatMap pick := by
  induction as generalizing s with
  | nil => rw [List.foldl_nil, List.flatMap_nil, List.append_nil]
  | cons a as ih => rw [List.foldl_cons, ih, h, List.flatMap_cons, List.append_assoc]

/-- One input file is admitted, whether it is named at once or later. -/
theorem Reading.admits_and_length_iff :
    r.Admits m ∧ ((r.heed m).input.toList ++ ms.filterMap Mention.input?).length ≤ 1 ↔
      (r.input.toList ++ (m :: ms).filterMap Mention.input?).length ≤ 1 := by
  cases m with
  | input path =>
    cases hinput : r.input <;> simp [Admits, heed, Mention.input?, hinput]
  | _ => simp [Admits, heed, Mention.input?, List.filterMap_cons]

/-- Groups that say something are taken in turn exactly if no more than one names an input file, and what
they say is heeded in turn. -/
theorem follows_iff (h : List.Forall₂ Group.Says gs ms) : Follows r gs r' ↔
    (r.input.toList ++ ms.filterMap Mention.input?).length ≤ 1 ∧ r' = ms.foldl Reading.heed r := by
  induction h generalizing r with
  | nil =>
    have hlength : (r.input.toList ++ [].filterMap Mention.input?).length ≤ 1 := by
      cases r.input <;> simp
    constructor
    · intro h
      cases h
      exact ⟨hlength, rfl⟩
    · intro h
      rw [h.2]
      exact .nil r
  | @cons g m gs ms hsays _ ih =>
    rw [List.foldl_cons, ← Reading.admits_and_length_iff]
    constructor
    · intro h
      cases h with
      | cons htake hrest =>
        have hadmits := Reading.admits_of_take hsays htake
        rw [Reading.take_of_says hsays hadmits] at htake
        obtain rfl := Effect.go.inj (Except.ok.inj htake)
        exact ⟨⟨hadmits, (ih.1 hrest).1⟩, (ih.1 hrest).2⟩
    · intro h
      obtain ⟨⟨hadmits, hlength⟩, hr'⟩ := h
      exact .cons (Reading.take_of_says hsays hadmits) (ih.2 ⟨hlength, hr'⟩)

theorem Follows.exists_says (h : Follows r gs r') : ∃ ms, List.Forall₂ Group.Says gs ms := by
  induction h with
  | nil => exact ⟨[], .nil⟩
  | cons htake _ ih =>
    obtain ⟨m, hm⟩ := Reading.exists_says_of_take htake
    obtain ⟨ms, hms⟩ := ih
    exact ⟨m :: ms, .cons hm hms⟩

/-- The request that mentions make. -/
def Makes (ms : List Mention) (q : Request) : Prop :=
  (ms.filterMap Mention.input?).length ≤ 1 ∧ (ms.foldl Reading.heed {}).request = .ok q

theorem makes_of_mentions (h : demand arguments = .ok (.compile q)) (hms : Mentions arguments ms) :
    Makes ms q := by
  obtain ⟨gs, r, hgs, hfollows, hq⟩ := demand_eq_compile_iff.1 h
  obtain ⟨gs', hgs', hsays⟩ := hms
  obtain rfl := hgs.unique hgs'
  obtain ⟨hlength, rfl⟩ := (follows_iff hsays).1 hfollows
  exact ⟨by simpa using hlength, hq⟩

theorem demand_of_makes (hms : Mentions arguments ms) (h : Makes ms q) :
    demand arguments = .ok (.compile q) := by
  obtain ⟨gs, hgs, hsays⟩ := hms
  obtain ⟨hlength, hq⟩ := h
  have hfollows := (follows_iff (r := {}) hsays).2 ⟨by simpa using hlength, rfl⟩
  exact demand_eq_compile_iff.2 ⟨gs, _, hgs, hfollows, hq⟩

/-- Arguments that make a request say something. -/
theorem exists_mentions (h : demand arguments = .ok (.compile q)) : ∃ ms, Mentions arguments ms := by
  obtain ⟨gs, r, hgs, hfollows, _⟩ := demand_eq_compile_iff.1 h
  obtain ⟨ms, hms⟩ := hfollows.exists_says
  exact ⟨ms, gs, hgs, hms⟩

/-! ## Settings in force -/

theorem settings_eq_of_value {s s' : Settings} (hflags : ∀ switch, s.isOn switch = s'.isOn switch)
    (hoptions : ∀ setting, s.value setting = s'.value setting) : s = s' := by
  have hisOn : s.isOn = s'.isOn := funext hflags
  have hsteps := Value.int.inj (hoptions .maxSearchSteps)
  have hstacks := Value.int.inj (hoptions .stackCount)
  have htarget := Value.text.inj (hoptions .target)
  have hglobal := Value.text.inj (hoptions .globalName)
  have hformat := Value.text.inj (hoptions .debugGraphDumpFormat)
  cases s
  cases s'
  simp only at hisOn hsteps hstacks htarget hglobal hformat
  rw [hisOn, hsteps, hstacks, htarget, hglobal, hformat]

/-- A flag is as it was turned last. -/
theorem isOn_foldl_turn (s : Settings) (flags : List (Switch × Bool)) (switch : Switch) :
    (flags.foldl (fun s f => s.turn f.1 f.2) s).isOn switch =
      ((flags.filterMap fun f => if f.1 = switch then some f.2 else none).getLast?).getD
        (s.isOn switch) := by
  have hstep (f : Switch × Bool) (s : Settings) : some ((s.turn f.1 f.2).isOn switch) =
      (if f.1 = switch then some f.2 else none).or (some (s.isOn switch)) := by
    by_cases hf : f.1 = switch
    · simp [Settings.turn, hf]
    · simp [Settings.turn, hf, Ne.symm hf]
  have hlast := foldl_last (fun s : Settings => some (s.isOn switch))
    (fun f (_ : f ∈ flags) s => hstep f s) s
  rw [Option.or_some] at hlast
  exact Option.some.inj hlast

/-- Turning flags changes no option. -/
theorem value_foldl_turn (s : Settings) (flags : List (Switch × Bool)) (setting : Setting) :
    (flags.foldl (fun s f => s.turn f.1 f.2) s).value setting = s.value setting := by
  induction flags generalizing s with
  | nil => rfl
  | cons f flags ih =>
    rw [List.foldl_cons, ih]
    cases setting <;> rfl

/-- A value of the right kind is what an option has when it is set. -/
theorem value_of_set? {s s' : Settings} {setting : Setting} {value : Value}
    (h : s.set? setting value = some s') (other : Setting) :
    s'.value other = if setting = other then value else s.value other := by
  cases setting <;> cases value <;> cases h <;> cases other <;> rfl

theorem isOn_of_set? {s s' : Settings} {setting : Setting} {value : Value}
    (h : s.set? setting value = some s') : s'.isOn = s.isOn := by
  cases setting <;> cases value <;> cases h <;> rfl

/-- An option is given a value that some text stands for. -/
def Mention.Converted (m : Mention) : Prop :=
  ∀ setting value, m = .option setting value → ∃ text, convert? setting text = some value

theorem Group.Says.converted {g : Group} (h : g.Says m) : m.Converted := by
  intro setting value hm
  subst hm
  cases h with
  | option _ hvalue => exact ⟨_, hvalue⟩

namespace Reading

variable (r : Reading)

theorem input_foldl_heed (ms : List Mention) :
    (ms.foldl heed r).input = (ms.filterMap Mention.input?).getLast?.or r.input := by
  refine foldl_last input (fun m _ r => ?_) r
  cases m <;> rfl

theorem output_foldl_heed (ms : List Mention) :
    (ms.foldl heed r).output = (ms.filterMap Mention.names?).getLast?.or r.output := by
  refine foldl_last output (fun m _ r => ?_) r
  cases m <;> rfl

theorem isOn_heed (h : m.Converted) : (r.heed m).settings.isOn = r.settings.isOn := by
  cases m with
  | option setting value =>
    obtain ⟨text, htext⟩ := h setting value rfl
    obtain ⟨settings, hset⟩ := exists_set?_of_convert? r.settings htext
    simp only [heed, hset, Option.getD_some]
    exact isOn_of_set? hset
  | _ => rfl

theorem isOn_foldl_heed (hms : ∀ m ∈ ms, m.Converted) :
    (ms.foldl heed r).settings.isOn = r.settings.isOn := by
  induction ms generalizing r with
  | nil => rfl
  | cons m ms ih =>
    have hrest := ih (r.heed m) fun m' hm' => hms m' (List.mem_cons_of_mem _ hm')
    rw [List.foldl_cons, hrest, isOn_heed r (hms m List.mem_cons_self)]

theorem value_heed (h : m.Converted) (setting : Setting) :
    some ((r.heed m).settings.value setting) =
      (m.value? setting).or (some (r.settings.value setting)) := by
  cases m with
  | option s value =>
    obtain ⟨text, htext⟩ := h s value rfl
    obtain ⟨settings, hset⟩ := exists_set?_of_convert? r.settings htext
    simp only [heed, hset, Option.getD_some, value_of_set? hset, Mention.value?]
    by_cases hs : s = setting <;> simp [hs]
  | _ => rfl

theorem value_foldl_heed (hms : ∀ m ∈ ms, m.Converted) (setting : Setting) :
    (ms.foldl heed r).settings.value setting =
      (ms.filterMap (Mention.value? setting)).getLast?.getD (r.settings.value setting) := by
  have hlast := foldl_last (fun r : Reading => some (r.settings.value setting))
    (fun m hm r => value_heed r (hms m hm) setting) r
  rw [Option.or_some] at hlast
  exact Option.some.inj hlast

theorem flags_foldl_heed (ms : List Mention) (switch : Switch) :
    (ms.foldl heed r).flags.filterMap (fun f => if f.1 = switch then some f.2 else none) =
      r.flags.filterMap (fun f => if f.1 = switch then some f.2 else none) ++
        ms.filterMap (Mention.turn? switch) := by
  rw [List.filterMap_eq_flatMap_toList (Mention.turn? switch)]
  refine foldl_append
    (fun r : Reading => r.flags.filterMap fun f => if f.1 = switch then some f.2 else none) ?_ r ms
  intro r m
  cases m with
  | flag s on =>
    by_cases hs : s = switch <;> simp [heed, Mention.turn?, hs, List.filterMap_append]
  | _ => simp [heed, Mention.turn?]

theorem dumps_foldl_heed (ms : List Mention) :
    (ms.foldl heed r).dumps = r.dumps ++ (ms.filterMap Mention.dumps?).flatten := by
  induction ms generalizing r with
  | nil => simp
  | cons m ms ih =>
    rw [List.foldl_cons, ih]
    cases m with
    | dumps ds => simp [heed, Mention.dumps?]
    | _ => simp [heed, Mention.dumps?, List.filterMap_cons]

theorem dumpPrefix_foldl_heed (ms : List Mention) : (ms.foldl heed r).dumpPrefix =
    (ms.filterMap Mention.dumpPrefix?).getLast?.or r.dumpPrefix := by
  refine foldl_last dumpPrefix (fun m _ r => ?_) r
  cases m <;> rfl

theorem dryRun_foldl_heed (ms : List Mention) :
    (ms.foldl heed r).dryRun = (r.dryRun || decide (Mention.dryRun ∈ ms)) := by
  induction ms generalizing r with
  | nil => simp
  | cons m ms ih =>
    rw [List.foldl_cons, ih]
    cases m <;> simp [heed]

theorem request_eq_ok_iff {r : Reading} : r.request = .ok q ↔ r.input = some q.input ∧
    q.output = r.output.getD "" ∧ q.settings = r.flags.foldl (fun s f => s.turn f.1 f.2) r.settings ∧
      q.dumps = r.dumps ∧ q.dumpPrefix = r.dumpPrefix.getD q.output ∧ q.dryRun = r.dryRun := by
  cases q
  cases hinput : r.input with
  | none => simp [request, hinput]
  | some input =>
    simp only [request, hinput, Except.ok.injEq, Request.mk.injEq, Option.some.injEq]
    constructor
    · intro h
      obtain ⟨rfl, rfl, rfl, rfl, rfl, rfl⟩ := h
      exact ⟨rfl, rfl, rfl, rfl, rfl, rfl⟩
    · intro h
      obtain ⟨rfl, rfl, rfl, rfl, rfl, rfl⟩ := h
      exact ⟨rfl, rfl, rfl, rfl, rfl, rfl⟩

end Reading

/-! ## Requests as they are mentioned -/

/-- Everything that is requested is as it was mentioned last, or else as it is by default. -/
structure Heeds (ms : List Mention) (q : Request) : Prop where
  flag : ∀ switch, q.settings.isOn switch =
    (ms.filterMap (Mention.turn? switch)).getLast?.getD switch.default
  option : ∀ setting, q.settings.value setting =
    (ms.filterMap (Mention.value? setting)).getLast?.getD (({} : Settings).value setting)
  dumps : q.dumps = (ms.filterMap Mention.dumps?).flatten
  dumpPrefix : q.dumpPrefix = (ms.filterMap Mention.dumpPrefix?).getLast?.getD q.output
  dryRun : q.dryRun = decide (.dryRun ∈ ms)

/-- Settings are those in force behind mentions exactly if each is as it was mentioned last. -/
theorem settings_eq_iff {s : Settings} (hms : ∀ m ∈ ms, m.Converted) :
    s = (ms.foldl Reading.heed {}).flags.foldl (fun s f => s.turn f.1 f.2)
        (ms.foldl Reading.heed {}).settings ↔
      (∀ switch, s.isOn switch =
        (ms.filterMap (Mention.turn? switch)).getLast?.getD switch.default) ∧
      ∀ setting, s.value setting =
        (ms.filterMap (Mention.value? setting)).getLast?.getD (({} : Settings).value setting) := by
  have hflags : ∀ switch, ((ms.foldl Reading.heed {}).flags.foldl (fun s f => s.turn f.1 f.2)
      (ms.foldl Reading.heed {}).settings).isOn switch =
      (ms.filterMap (Mention.turn? switch)).getLast?.getD switch.default := by
    intro switch
    rw [isOn_foldl_turn, Reading.flags_foldl_heed, Reading.isOn_foldl_heed _ hms]
    rfl
  have hoptions : ∀ setting, ((ms.foldl Reading.heed {}).flags.foldl (fun s f => s.turn f.1 f.2)
      (ms.foldl Reading.heed {}).settings).value setting =
      (ms.filterMap (Mention.value? setting)).getLast?.getD (({} : Settings).value setting) := by
    intro setting
    rw [value_foldl_turn, Reading.value_foldl_heed _ hms]
  constructor
  · intro h
    rw [h]
    exact ⟨hflags, hoptions⟩
  · intro h
    refine settings_eq_of_value (fun switch => ?_) (fun setting => ?_)
    · rw [h.1, hflags]
    · rw [h.2, hoptions]

/-- **What mentions make of a request.** -/
theorem makes_iff (hms : ∀ m ∈ ms, m.Converted) : Makes ms q ↔
    ms.filterMap Mention.input? = [q.input] ∧
      q.output = (ms.filterMap Mention.names?).getLast?.getD "" ∧ Heeds ms q := by
  unfold Makes
  rw [Reading.request_eq_ok_iff, Reading.input_foldl_heed, Reading.output_foldl_heed,
    Reading.dumps_foldl_heed, Reading.dumpPrefix_foldl_heed, Reading.dryRun_foldl_heed,
    settings_eq_iff hms]
  simp only [Option.or_none, List.nil_append, Bool.false_or]
  constructor
  · intro h
    obtain ⟨hlength, hinput, houtput, ⟨hflag, hoption⟩, hdumps, hprefixed, hdry⟩ := h
    obtain ⟨front, hfront⟩ := List.getLast?_eq_some_iff.1 hinput
    rw [hfront, List.length_append, List.length_singleton] at hlength
    have hnil := List.eq_nil_of_length_eq_zero (by omega : front.length = 0)
    rw [hnil, List.nil_append] at hfront
    exact ⟨hfront, houtput, hflag, hoption, hdumps, hprefixed, hdry⟩
  · intro h
    obtain ⟨hinput, houtput, hheeds⟩ := h
    rw [hinput]
    exact ⟨Nat.le_refl _, rfl, houtput, ⟨hheeds.flag, hheeds.option⟩, hheeds.dumps,
      hheeds.dumpPrefix, hheeds.dryRun⟩

/-! ## Subjects -/

/-- What a mention is about. Both the input file and the output are about the program's name. -/
inductive Subject where
  | program
  | flag (switch : Switch)
  | option (setting : Setting)
  | dumps
  | dumpPrefix
  | dryRun
  deriving DecidableEq

def Mention.subject : Mention → Subject
  | input _ | output _ => .program
  | flag switch _ => .flag switch
  | option setting _ => .option setting
  | dumps _ => .dumps
  | dumpPrefix _ => .dumpPrefix
  | dryRun => .dryRun

namespace Mention

variable {m : Mention} {switch : Switch} {setting : Setting}

theorem input?_eq_none (h : m.subject ≠ .program) : m.input? = none := by
  cases m with
  | input path => exact absurd rfl h
  | _ => rfl

theorem names?_eq_none (h : m.subject ≠ .program) : m.names? = none := by
  cases m with
  | input path => exact absurd rfl h
  | output name => exact absurd rfl h
  | _ => rfl

theorem turn?_eq_none (h : m.subject ≠ .flag switch) : m.turn? switch = none := by
  cases m with
  | flag s on => exact if_neg fun hs => h (congrArg Subject.flag hs)
  | _ => rfl

theorem value?_eq_none (h : m.subject ≠ .option setting) : m.value? setting = none := by
  cases m with
  | option s value => exact if_neg fun hs => h (congrArg Subject.option hs)
  | _ => rfl

theorem dumps?_eq_none (h : m.subject ≠ .dumps) : m.dumps? = none := by
  cases m with
  | dumps ds => exact absurd rfl h
  | _ => rfl

theorem dumpPrefix?_eq_none (h : m.subject ≠ .dumpPrefix) : m.dumpPrefix? = none := by
  cases m with
  | dumpPrefix text => exact absurd rfl h
  | _ => rfl

end Mention

/-- What is said about a subject. -/
def about (subject : Subject) (ms : List Mention) : List Mention := ms.filter (·.subject = subject)

theorem filterMap_about {β : Type} {subject : Subject} {pick : Mention → Option β}
    (h : ∀ m, m.subject ≠ subject → pick m = none) (ms : List Mention) :
    (about subject ms).filterMap pick = ms.filterMap pick := by
  unfold about
  induction ms with
  | nil => rfl
  | cons m ms ih =>
    by_cases hm : m.subject = subject
    · rw [List.filter_cons_of_pos (by simpa using hm), List.filterMap_cons, List.filterMap_cons, ih]
    · rw [List.filter_cons_of_neg (by simpa using hm), List.filterMap_cons_none (h m hm), ih]

/-- The parts of two lists that a subject decides are the same where they say the same about it. -/
theorem filterMap_congr_about {β : Type} (subject : Subject) {pick : Mention → Option β}
    (h : ∀ m, m.subject ≠ subject → pick m = none) (hsame : about subject ms' = about subject ms) :
    ms'.filterMap pick = ms.filterMap pick := by
  rw [← filterMap_about h, hsame, filterMap_about h]

/-- Neighbours of different subjects change places without anyone's notice. -/
theorem about_swap {m' : Mention} (h : m.subject ≠ m'.subject) (front back : List Mention)
    (subject : Subject) :
    about subject (front ++ m' :: m :: back) = about subject (front ++ m :: m' :: back) := by
  unfold about
  rw [List.filter_append, List.filter_append]
  congr 1
  by_cases hm : m.subject = subject
  · have hm' : ¬ m'.subject = subject := fun hm' => h (hm.trans hm'.symm)
    simp [hm, hm']
  · simp [List.filter_cons, hm]

/-- Nothing that is said about the program's name decides anything but the input file and the output. -/
theorem Heeds.congr (h : Heeds ms q) (hsame : ∀ subject ≠ .program, about subject ms' = about subject ms) :
    Heeds ms' q := by
  have hflag (switch : Switch) : ms'.filterMap (Mention.turn? switch) =
      ms.filterMap (Mention.turn? switch) :=
    filterMap_congr_about (.flag switch) (fun _ => Mention.turn?_eq_none) (hsame _ nofun)
  have hoption (setting : Setting) : ms'.filterMap (Mention.value? setting) =
      ms.filterMap (Mention.value? setting) :=
    filterMap_congr_about (.option setting) (fun _ => Mention.value?_eq_none) (hsame _ nofun)
  have hdumps : ms'.filterMap Mention.dumps? = ms.filterMap Mention.dumps? :=
    filterMap_congr_about .dumps (fun _ => Mention.dumps?_eq_none) (hsame _ nofun)
  have hprefixed : ms'.filterMap Mention.dumpPrefix? = ms.filterMap Mention.dumpPrefix? :=
    filterMap_congr_about .dumpPrefix (fun _ => Mention.dumpPrefix?_eq_none) (hsame _ nofun)
  have hdry (ms : List Mention) : .dryRun ∈ ms ↔ .dryRun ∈ about .dryRun ms := by
    simp [about, Mention.subject]
  constructor
  · intro switch
    rw [hflag, h.flag]
  · intro setting
    rw [hoption, h.option]
  · rw [hdumps, h.dumps]
  · rw [hprefixed, h.dumpPrefix]
  · rw [h.dryRun]
    exact decide_eq_decide.2 (by rw [hdry ms, hdry ms', hsame _ (by simp)])

theorem Mentions.converted (h : Mentions arguments ms) : ∀ m ∈ ms, m.Converted := by
  obtain ⟨gs, -, hsays⟩ := h
  induction hsays with
  | nil => simp
  | cons hg _ ih => simpa using ⟨hg.converted, ih⟩

theorem Group.Says.mentions {g : Group} {words : List String} (h : g.Says m) (hg : g.WrittenAs words) :
    Mentions words [m] := by
  have hwritten := Written.group hg .nil
  rw [List.append_nil] at hwritten
  exact ⟨[g], hwritten, .cons h .nil⟩

theorem Mentions.append {arguments' : List String} (h : Mentions arguments ms)
    (h' : Mentions arguments' ms') : Mentions (arguments ++ arguments') (ms ++ ms') := by
  obtain ⟨gs, hgs, hsays⟩ := h
  obtain ⟨gs', hgs', hsays'⟩ := h'
  exact ⟨gs ++ gs', hgs.append hgs', List.rel_append hsays hsays'⟩

/-- **Arguments that say the same about everything make the same request.** -/
theorem demand_of_same {arguments' : List String} (h : demand arguments = .ok (.compile q))
    (hms : Mentions arguments ms) (hms' : Mentions arguments' ms')
    (hsame : ∀ subject, about subject ms' = about subject ms) :
    demand arguments' = .ok (.compile q) := by
  obtain ⟨hinput, houtput, hheeds⟩ := (makes_iff hms.converted).1 (makes_of_mentions h hms)
  have hinputs : ms'.filterMap Mention.input? = ms.filterMap Mention.input? :=
    filterMap_congr_about .program (fun _ => Mention.input?_eq_none) (hsame _)
  have hnames : ms'.filterMap Mention.names? = ms.filterMap Mention.names? :=
    filterMap_congr_about .program (fun _ => Mention.names?_eq_none) (hsame _)
  refine demand_of_makes hms' ((makes_iff hms'.converted).2 ⟨?_, ?_, ?_⟩)
  · rw [hinputs, hinput]
  · rw [hnames, houtput]
  · exact hheeds.congr fun subject _ => hsame subject

/-- Neighbours that are about different things may change places. -/
theorem demand_swap {words words' front back : List String} {m' : Mention}
    (hfront : Mentions front ms) (hm : Mentions words [m]) (hm' : Mentions words' [m'])
    (hback : Mentions back ms') (hne : m.subject ≠ m'.subject)
    (h : demand (front ++ (words ++ (words' ++ back))) = .ok (.compile q)) :
    demand (front ++ (words' ++ (words ++ back))) = .ok (.compile q) :=
  demand_of_same h (hfront.append (hm.append (hm'.append hback)))
    (hfront.append (hm'.append (hm.append hback))) (about_swap hne ms ms')

/-- An empty argument between groups has no effect. -/
theorem readFrom_drop_empty {front : List String} (h : Written gs front) (r : Reading)
    (back : List String) : readFrom r (front ++ "" :: back) = readFrom r (front ++ back) := by
  induction h generalizing r with
  | nil => exact readFrom_empty r back
  | empty _ ih =>
    rw [List.cons_append, List.cons_append, readFrom_empty, readFrom_empty, ih]
  | group hg _ ih =>
    rw [List.append_assoc, List.append_assoc, readFrom_group r hg, readFrom_group r hg]
    refine bind_congr fun effect => ?_
    cases effect with
    | go r' => exact ih r'
    | help all => rfl
    | version => rfl

/-- **Every setting ends at its last mention**, whatever was loaded before. Accepted arguments are cut into
groups in one way, so that the value of a word is never a group of its own; each group says something, and
what is requested is known from the last that is said about every subject. Therefore what is said about
different subjects may come in any order, and empty arguments between groups are as good as none. -/
theorem settings_end_at_last_mention {before : Loaded} (h : load before arguments = .ok (.compile q)) :
    (∃ gs, Written gs arguments ∧ ∀ gs', Written gs' arguments → gs' = gs) ∧
    (∃ ms, Mentions arguments ms) ∧
    (∀ ms, Mentions arguments ms → Heeds ms q ∧
      ∀ before' arguments' ms', Mentions arguments' ms' →
        (∀ subject, about subject ms' = about subject ms) →
          load before' arguments' = .ok (.compile q)) ∧
    (∀ front back gs, Written gs front →
      (∀ a word value, arguments = front ++ a :: value :: back → a.toList = '-' :: '-' :: word →
        String.ofList word ∉ bareWords → ∃ gs', Written gs' back ∧
          Written (gs ++ .option (String.ofList word) value :: gs') arguments) ∧
      ∀ before', load before' (front ++ "" :: back) = load before' (front ++ back)) := by
  obtain ⟨gs, _, hgs, _, _⟩ := demand_eq_compile_iff.1 h
  refine ⟨⟨gs, hgs, fun gs' hgs' => hgs'.unique hgs⟩, exists_mentions h, ?_, ?_⟩
  · intro ms hms
    have hmakes := makes_of_mentions h hms
    refine ⟨((makes_iff hms.converted).1 hmakes).2.2, ?_⟩
    intro before' arguments' ms' hms' hsame
    exact demand_of_same h hms hms' hsame
  · intro front back gs₁ hfront
    refine ⟨?_, fun before' => readFrom_drop_empty hfront {} back⟩
    intro a word value hcut ha hword
    rw [hcut] at hgs ⊢
    obtain ⟨gs₂, rfl, hrest⟩ := hfront.of_append hgs
    obtain ⟨gs', rfl, hback⟩ := hrest.of_group (.word ha hword)
    exact ⟨gs', hback, hgs⟩

theorem settings_end_at_last_mention_of_every_spelling :
    let arguments := ["--flag", "strict-actions=no", "-dtable", "", "-fSTRICT-actions", "--dry-run",
      "-fno-prune_Revisited", "--flag", "Verbose-Dispatch", "--flag", "verbose-search=on", "in.nfsm", "-t",
      "--Global_Name", "--target", "--dump", "parse"]
    ∃ q ms, load { dumps := [.traceback] } arguments = .ok (.compile q) ∧
      Mentions arguments ms ∧ Heeds ms q ∧ q.settings.isOn .strictActions = true ∧
      q.settings.isOn .pruneRevisited = false ∧ q.settings.isOn .verboseDispatch = true ∧
      q.settings.isOn .verboseSearch = true ∧ q.settings.value .globalName = .text "--target" ∧
      q.dumps = [.table, .parse] ∧ q.dryRun = true := by
  intro arguments
  have hrun : (match load { dumps := [.traceback] } arguments with
      | .ok (.compile q) => decide (q.settings.isOn .strictActions = true ∧
          q.settings.isOn .pruneRevisited = false ∧ q.settings.isOn .verboseDispatch = true ∧
          q.settings.isOn .verboseSearch = true ∧ q.settings.value .globalName = .text "--target" ∧
          q.dumps = [.table, .parse] ∧ q.dryRun = true)
      | _ => false) = true := by decide +kernel
  split at hrun
  · next q h =>
    obtain ⟨-, ⟨ms, hms⟩, hheeds, -⟩ := settings_end_at_last_mention h
    exact ⟨q, ms, h, hms, (hheeds ms hms).1, of_decide_eq_true hrun⟩
  · cases hrun

end ArrowMachine.Command
