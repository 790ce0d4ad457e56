import ArrowMachine.Command.Run
import ArrowMachine.Proofs.Command.Files
import ArrowMachine.Proofs.Outcome
import Mathlib

/-!
How the arguments of the command line are answered.

Arguments are read group by group (`Took`) until they end, ask for help or for the version, or make no
sense (`Refused`). All that makes no sense is reported, but for a flag that is assigned several values at
once (`Overassigned`), which ends the run without a report.
-/
namespace ArrowMachine.Command

/-! ## Groups as they are written -/

/-- The arguments that a group is written as. -/
inductive Group.WrittenAs : Group → List String → Prop
  | input {path : String} (hne : path ≠ "") (hhyphen : path.toList.head? ≠ some '-') :
      WrittenAs (.input path) [path]
  | letter {a : String} {letter : Char} {value : List Char} (ha : a.toList = '-' :: letter :: value)
      (hletter : letter ≠ '-') : WrittenAs (.option letter.toString (String.ofList value)) [a]
  | bare {a : String} {word : List Char} (ha : a.toList = '-' :: '-' :: word)
      (hword : String.ofList word ∈ bareWords) : WrittenAs (.option (String.ofList word) "") [a]
  | word {a value : String} {word : List Char} (ha : a.toList = '-' :: '-' :: word)
      (hword : String.ofList word ∉ bareWords) :
      WrittenAs (.option (String.ofList word) value) [a, value]

variable {g : Group} {words rest arguments : List String} {r r' : Reading} {e : ArgumentError}

theorem nextGroup?_of_writtenAs (h : g.WrittenAs words) (rest : List String) :
    nextGroup? (words ++ rest) = .ok (some (g, rest)) := by
  cases h with
  | @input path hne hhyphen =>
    rw [List.singleton_append, nextGroup?]
    split
    · next hcs => exact absurd (String.toList_eq_nil_iff.1 hcs) hne
    · next hcs => simp [hcs] at hhyphen
    · next hcs => simp [hcs] at hhyphen
    · next hcs => simp [hcs] at hhyphen
    · rfl
  | @letter a letter value ha hletter =>
    rw [List.singleton_append, nextGroup?, ha]
    split
    · next hcs => cases hcs
    · next hcs => cases hcs
    · next hcs => exact absurd (List.cons.inj (List.cons.inj hcs).2).1 hletter
    · next hcs =>
      cases hcs
      rfl
    · next hno => exact (hno _ _ rfl).elim
  | @bare a word ha hword =>
    rw [List.singleton_append, nextGroup?, ha]
    simp only [wordGroup, if_pos hword]
    rfl
  | @word a value word ha hword =>
    rw [List.cons_append, List.singleton_append, nextGroup?, ha]
    simp only [wordGroup, if_neg hword]
    rfl

/-- What a list of arguments begins with, as far as reading goes. -/
inductive Headed : List String → Prop
  | nil : Headed []
  | empty (as : List String) : Headed ("" :: as)
  | hyphen (as : List String) : Headed ("-" :: as)
  | alone {a : String} {word : List Char} (ha : a.toList = '-' :: '-' :: word)
      (hword : String.ofList word ∉ bareWords) : Headed [a]
  | group {g : Group} {words : List String} (h : g.WrittenAs words) (rest : List String) :
      Headed (words ++ rest)

theorem headed (as : List String) : Headed as := by
  rcases as with _ | ⟨a, as⟩
  · exact .nil
  -- The first argument is told by its hyphens: two before a word, one before a letter or alone, or none.
  rcases ha : a.toList with _ | ⟨c, cs⟩
  · rw [String.toList_eq_nil_iff.1 ha]
    exact .empty as
  by_cases hc : c = '-'
  · subst hc
    rcases cs with _ | ⟨letter, value⟩
    · rw [String.toList_inj.1 (ha.trans (show ['-'] = "-".toList by decide))]
      exact .hyphen as
    by_cases hletter : letter = '-'
    · subst hletter
      by_cases hword : String.ofList value ∈ bareWords
      · exact .group (.bare ha hword) as
      · cases as with
        | nil => exact .alone ha hword
        | cons v rest => exact .group (.word ha hword) rest
    · exact .group (.letter ha hletter) as
  · refine .group (.input ?_ ?_) as
    · rintro rfl
      cases ha
    · rw [ha]
      simpa using hc

/-! ## Reading on -/

/-- The arguments have been read, and what they say is in force. -/
inductive Took : List String → Reading → Prop
  | nil : Took [] {}
  | empty {as : List String} {r : Reading} (h : Took as r) : Took (as ++ [""]) r
  | group {as words : List String} {g : Group} {r r' : Reading} (h : Took as r)
      (hg : g.WrittenAs words) (htake : r.take g = .ok (.go r')) : Took (as ++ words) r'

/-- What becomes of a group that has the arguments `rest` behind it. -/
def readOn (rest : List String) : Effect → Except ArgumentError Demand
  | .go r => readFrom r rest
  | .help all => .ok (.help all)
  | .version => .ok .version

theorem readFrom_eq (r : Reading) (as : List String) : readFrom r as = nextGroup? as >>= fun
    | none => r.request.map .compile
    | some (g, rest) => r.take g >>= readOn rest := by
  rw [readFrom]
  split
  · next h =>
    rw [h]
    rfl
  · next h =>
    rw [h]
    rfl
  · next g rest h =>
    rw [h]
    change _ = r.take g >>= readOn rest
    split <;> next htake => rw [htake]; rfl

theorem readFrom_nil (r : Reading) : readFrom r [] = r.request.map .compile := readFrom_eq r []

theorem readFrom_empty (r : Reading) (as : List String) : readFrom r ("" :: as) = readFrom r as := by
  rw [readFrom_eq, readFrom_eq r as]
  rfl

theorem readFrom_hyphen (r : Reading) (as : List String) :
    readFrom r ("-" :: as) = .error (.invalidArgument "-") := readFrom_eq r _

theorem readFrom_alone (r : Reading) {a : String} {word : List Char} (ha : a.toList = '-' :: '-' :: word)
    (hword : String.ofList word ∉ bareWords) : readFrom r [a] = .error (.missingValue a) := by
  rw [readFrom_eq, nextGroup?, ha]
  simp only [wordGroup, if_neg hword]
  rfl

theorem readFrom_group (r : Reading) (h : g.WrittenAs words) (rest : List String) :
    readFrom r (words ++ rest) = r.take g >>= readOn rest := by
  rw [readFrom_eq, nextGroup?_of_writtenAs h]
  rfl

/-- Behind arguments that have been read, reading goes on with what is in force. -/
theorem demand_of_took (h : Took arguments r) (rest : List String) :
    demand (arguments ++ rest) = readFrom r rest := by
  induction h generalizing rest with
  | nil => rfl
  | empty _ ih => rw [List.append_assoc, ih, List.singleton_append, readFrom_empty]
  | group _ hg htake ih =>
    rw [List.append_assoc, ih, readFrom_group _ hg, htake]
    rfl

/-! ## Answers -/

/-- What arguments ask for: all that they say together, or whatever a group asks for that ends reading. -/
inductive Asks (arguments : List String) : Demand → Prop
  | compile {r : Reading} {q : Request} (h : Took arguments r) (hq : r.request = .ok q) :
      Asks arguments (.compile q)
  | help {before words rest : List String} {g : Group} {r : Reading} {all : Bool}
      (h : arguments = before ++ (words ++ rest)) (hbefore : Took before r) (hg : g.WrittenAs words)
      (htake : r.take g = .ok (.help all)) : Asks arguments (.help all)
  | version {before words rest : List String} {g : Group} {r : Reading}
      (h : arguments = before ++ (words ++ rest)) (hbefore : Took before r) (hg : g.WrittenAs words)
      (htake : r.take g = .ok .version) : Asks arguments .version

/-- Why arguments make no sense: behind some that were read stands a hyphen with nothing behind it, or a word
without its value, or a group that cannot be taken; or all were read, and there is no input file. -/
inductive Refused (arguments : List String) : ArgumentError → Prop
  | hyphen {before rest : List String} {r : Reading} (h : arguments = before ++ "-" :: rest)
      (hbefore : Took before r) : Refused arguments (.invalidArgument "-")
  | alone {before : List String} {a : String} {word : List Char} {r : Reading}
      (h : arguments = before ++ [a]) (hbefore : Took before r) (ha : a.toList = '-' :: '-' :: word)
      (hword : String.ofList word ∉ bareWords) : Refused arguments (.missingValue a)
  | group {before words rest : List String} {g : Group} {r : Reading} {e : ArgumentError}
      (h : arguments = before ++ (words ++ rest)) (hbefore : Took before r) (hg : g.WrittenAs words)
      (htake : r.take g = .error e) : Refused arguments e
  | noInput {r : Reading} (h : Took arguments r) (hinput : r.input = none) :
      Refused arguments .noInput

/-- The answer to arguments is right. -/
def Answers (arguments : List String) : Except ArgumentError Demand → Prop
  | .ok d => Asks arguments d
  | .error e => Refused arguments e

theorem Group.WrittenAs.ne_nil (h : g.WrittenAs words) : words ≠ [] := by
  cases h <;> exact List.cons_ne_nil _ _

theorem answers_request (h : Took arguments r) : Answers arguments (r.request.map .compile) := by
  cases hq : r.request with
  | ok q => exact .compile h hq
  | error e =>
    unfold Reading.request at hq
    split at hq
    · next hinput =>
      cases hq
      exact .noInput h hinput
    · cases hq

/-- Whatever stands behind arguments that have been read, the answer is right. -/
theorem answers_readFrom {before : List String} {r : Reading} (hbefore : Took before r) (as : List String) :
    Answers (before ++ as) (readFrom r as) := by
  cases headed as with
  | nil =>
    rw [readFrom_nil, List.append_nil]
    exact answers_request hbefore
  | empty as =>
    have hrest := answers_readFrom hbefore.empty as
    rwa [List.append_assoc, List.singleton_append, ← readFrom_empty] at hrest
  | hyphen as =>
    rw [readFrom_hyphen]
    exact .hyphen rfl hbefore
  | alone ha hword =>
    rw [readFrom_alone r ha hword]
    exact .alone rfl hbefore ha hword
  | @group g words hg rest =>
    rw [readFrom_group r hg]
    cases htake : r.take g with
    | error e => exact .group rfl hbefore hg htake
    | ok effect =>
      cases effect with
      | help all => exact .help rfl hbefore hg htake
      | version => exact .version rfl hbefore hg htake
      | go r' =>
        -- A group takes at least one argument away, so less is left to be read.
        have hwords := List.length_pos_iff.2 hg.ne_nil
        have hrest := answers_readFrom (hbefore.group hg htake) rest
        rwa [List.append_assoc] at hrest
termination_by as.length

/-- **Every list of arguments is answered, and in one way.** -/
theorem demand_eq_iff {answer : Except ArgumentError Demand} :
    demand arguments = answer ↔ Answers arguments answer := by
  constructor
  · rintro rfl
    exact answers_readFrom .nil arguments
  · intro h
    cases answer with
    | ok d =>
      cases h with
      | compile h hq =>
        have hdemand := demand_of_took h []
        rw [List.append_nil, readFrom_nil, hq] at hdemand
        exact hdemand
      | help h hbefore hg htake =>
        rw [h, demand_of_took hbefore, readFrom_group _ hg, htake]
        rfl
      | version h hbefore hg htake =>
        rw [h, demand_of_took hbefore, readFrom_group _ hg, htake]
        rfl
    | error e =>
      cases h with
      | hyphen h hbefore => rw [h, demand_of_took hbefore, readFrom_hyphen]
      | alone h hbefore ha hword => rw [h, demand_of_took hbefore, readFrom_alone _ ha hword]
      | group h hbefore hg htake =>
        rw [h, demand_of_took hbefore, readFrom_group _ hg, htake]
        rfl
      | @noInput r h hinput =>
        have hdemand := demand_of_took h []
        have hrequest : r.request = .error .noInput := by
          unfold Reading.request
          rw [hinput]
        rw [List.append_nil, readFrom_nil, hrequest] at hdemand
        exact hdemand

/-! ## Flags with several values -/

theorem length_cutAt (c : Char) (cs : List Char) : (cutAt c cs).length = cs.count c + 1 := by
  induction cs with
  | nil => rfl
  | cons d cs ih =>
    rw [cutAt]
    split
    · next hd => rw [List.length_cons, ih, hd, List.count_cons_self]
    · next hd =>
      rw [List.count_cons_of_ne hd, ← ih]
      cases hcut : cutAt c cs with
      | nil =>
        rw [hcut] at ih
        cases ih
      | cons l ls => rfl

theorem flagMention_eq_error_iff {short : Bool} {value : List Char} : flagMention short value = .error e ↔
    short = false ∧ 2 ≤ value.count '=' ∧ e = .manyValues := by
  cases short with
  | true =>
    unfold flagMention
    simp only [if_true]
    split <;> simp
  | false =>
    have hlength := length_cutAt '=' value
    unfold flagMention
    rcases hcut : cutAt '=' value with _ | ⟨name, _ | ⟨setting, _ | ⟨more, pieces⟩⟩⟩ <;>
      simp only [hcut, List.length_cons, List.length_nil] at hlength
    · omega
    · simp
      omega
    · simp
      omega
    · simp [eq_comm]
      omega

namespace Reading

theorem setFlag_eq_manyValues_iff {short : Bool} {value : List Char} :
    r.setFlag short value = .error .manyValues ↔ short = false ∧ 2 ≤ value.count '=' := by
  constructor
  · intro h
    rcases bind_eq_error h with h | ⟨⟨name, on⟩, _, h⟩
    · obtain ⟨hshort, hcount, _⟩ := flagMention_eq_error_iff.1 h
      exact ⟨hshort, hcount⟩
    · simp only at h
      split at h <;> cases h
  · rintro ⟨hshort, hcount⟩
    unfold setFlag
    rw [flagMention_eq_error_iff.2 ⟨hshort, hcount, rfl⟩]
    rfl

theorem addDumps_ne_manyValues (names : List (List Char)) : r.addDumps names ≠ .error .manyValues := by
  intro h
  induction names generalizing r with
  | nil => cases h
  | cons name names ih =>
    rw [addDumps] at h
    split at h
    · exact ih h
    · cases h

theorem setOption_ne_manyValues (name value : String) : r.setOption name value ≠ .error .manyValues := by
  intro h
  unfold setOption at h
  split at h
  · cases h
  · simp only at h
    split at h <;> cases h

/-- All that taking a group may come to. -/
inductive Taken (r : Reading) : Group → Except ArgumentError Effect → Prop
  | inputTwice {path : String} : Taken r (.input path) (.error .inputTwice)
  | input {path : String} :
      Taken r (.input path) (.ok (.go { r with input := some path, output := some (outputOf path) }))
  | dotted {name value : String} : Taken r (.option name value) (.error .dottedOutput)
  | output {name value : String} : Taken r (.option name value) (.ok (.go { r with output := some value }))
  | flag {name value : String} {x : Except ArgumentError Effect} (hname : name ∈ ["f", "flag"])
      (hx : (r.setFlag (name = "f") value.toList).map .go = x) : Taken r (.option name value) x
  | help {name value : String} {all : Bool} : Taken r (.option name value) (.ok (.help all))
  | version {name value : String} : Taken r (.option name value) (.ok .version)
  | dumps {name value : String} {x : Except ArgumentError Effect}
      (hx : (r.addDumps (cutAt ',' value.toList)).map .go = x) : Taken r (.option name value) x
  | dumpPrefix {name value : String} :
      Taken r (.option name value) (.ok (.go { r with dumpPrefix := some value }))
  | dryRun {name value : String} : Taken r (.option name value) (.ok (.go { r with dryRun := true }))
  | setting {name value : String} {x : Except ArgumentError Effect}
      (hx : (r.setOption name value).map .go = x) : Taken r (.option name value) x

theorem taken (r : Reading) (g : Group) : r.Taken g (r.take g) := by
  cases g with
  | input path =>
    simp only [take]
    split
    · exact .inputTwice
    · exact .input
  | option name value =>
    simp only [take]
    split
    · split
      · exact .dotted
      · exact .output
    split
    · next hname => exact .flag hname rfl
    split
    · exact .help
    split
    · exact .help
    split
    · exact .version
    split
    · exact .dumps rfl
    split
    · exact .dumpPrefix
    split
    · exact .dryRun
    · exact .setting rfl

/-- Only a flag that is assigned several values at once has this error. -/
theorem take_eq_manyValues_iff : r.take g = .error .manyValues ↔
    ∃ value, g = .option "flag" value ∧ 2 ≤ value.toList.count '=' := by
  have hmap : ∀ {x : Except ArgumentError Reading}, x.map Effect.go = .error .manyValues →
      x = .error .manyValues := by
    intro x h
    cases x with
    | error e =>
      cases h
      rfl
    | ok r => cases h
  constructor
  · intro h
    have htaken := r.taken g
    rw [h] at htaken
    cases htaken with
    | @flag name value _ hname hx =>
      obtain ⟨hshort, hcount⟩ := setFlag_eq_manyValues_iff.1 (hmap hx)
      have hflag : name = "flag" := by simpa [of_decide_eq_false hshort] using hname
      exact ⟨value, hflag ▸ rfl, hcount⟩
    | dumps hx => exact absurd (hmap hx) (addDumps_ne_manyValues _)
    | setting hx => exact absurd (hmap hx) (setOption_ne_manyValues _ _)
  · rintro ⟨value, rfl, hcount⟩
    have hset : r.setFlag false value.toList = .error .manyValues :=
      setFlag_eq_manyValues_iff.2 ⟨rfl, hcount⟩
    change (r.setFlag false value.toList).map Effect.go = _
    rw [hset]
    rfl

end Reading

/-- Behind arguments that can be read, a flag is assigned more than one value at once. -/
def Overassigned (arguments : List String) : Prop :=
  ∃ before value rest r, arguments = before ++ "--flag" :: value :: rest ∧ Took before r ∧
    2 ≤ value.toList.count '='

theorem writtenAs_flag_iff {value : String} :
    (Group.option "flag" value).WrittenAs words ↔ words = ["--flag", value] := by
  constructor
  · intro h
    generalize hg : Group.option "flag" value = g at h
    cases h with
    | input => cases hg
    | @letter a letter v ha =>
      have hname := congrArg String.length (Group.option.inj hg).1
      have hletter : letter.toString.length = 1 := String.length_singleton
      rw [hletter] at hname
      cases hname
    | bare ha hword =>
      rw [← (Group.option.inj hg).1] at hword
      exact absurd hword (by decide)
    | @word a v word ha hword =>
      obtain ⟨hname, rfl⟩ := Group.option.inj hg
      have hflag : a = "--flag" := by
        rw [← String.toList_inj, ha, ← String.toList_ofList (l := word), ← hname]
        decide
      rw [hflag]
  · rintro rfl
    have ha : "--flag".toList = '-' :: '-' :: "flag".toList := by decide
    have hword : String.ofList "flag".toList ∉ bareWords := by decide
    rw [← String.ofList_toList (s := "flag")]
    exact .word ha hword

theorem refused_manyValues_iff : Refused arguments .manyValues ↔ Overassigned arguments := by
  constructor
  · intro h
    cases h with
    | @group before words rest g r _ h hbefore hg htake =>
      obtain ⟨value, rfl, hcount⟩ := Reading.take_eq_manyValues_iff.1 htake
      rw [writtenAs_flag_iff.1 hg] at h
      exact ⟨before, value, rest, r, h, hbefore, hcount⟩
  · rintro ⟨before, value, rest, r, h, hbefore, hcount⟩
    exact .group h hbefore (writtenAs_flag_iff.2 rfl) (Reading.take_eq_manyValues_iff.2 ⟨value, rfl, hcount⟩)

/-! ## How a run begins -/

/-- The report on arguments that make no sense. -/
def complaint (e : ArgumentError) : Outcome where
  reported := [e.message, "Try nfsm --help for more information"]
  ending := .exited 1

/-- The arguments are received as they should be: as a request for the file that they name, with a name for
the output; with what is asked to be printed, which ends the run well; or with a report of what is wrong. -/
inductive Received (arguments : List String) : Outcome ⊕ Request → Prop
  | request {r : Reading} {q : Request} (h : Took arguments r) (hq : r.request = .ok q)
      (hinput : r.input = some q.input) (houtput : r.output = some q.output) : Received arguments (.inr q)
  | help {all : Bool} (h : Asks arguments (.help all)) :
      Received arguments (.inl { printed := helpLines all, ending := .exited 0 })
  | version (h : Asks arguments .version) :
      Received arguments (.inl { printed := versionLines, ending := .exited 0 })
  | refused {e : ArgumentError} (h : Refused arguments e) (he : e ≠ .manyValues) :
      Received arguments (.inl (complaint e))

namespace Reading

theorem eq_ok_of_map_go {x : Except ArgumentError Reading} (h : x.map Effect.go = .ok (.go r')) :
    x = .ok r' := by
  cases x with
  | error e => cases h
  | ok r =>
    cases h
    rfl

/-- Who names the input names the output. -/
def Named (r : Reading) : Prop := r.input.isSome = true → r.output.isSome = true

theorem exists_of_setFlag {short : Bool} {value : List Char} (h : r.setFlag short value = .ok r') :
    ∃ flags, r' = { r with flags } := by
  obtain ⟨⟨name, on⟩, _, h⟩ := bind_eq_ok h
  simp only at h
  split at h
  · exact ⟨_, (Except.ok.inj h).symm⟩
  · cases h

theorem exists_of_addDumps {names : List (List Char)} (h : r.addDumps names = .ok r') :
    ∃ dumps, r' = { r with dumps } := by
  induction names generalizing r with
  | nil => exact ⟨r.dumps, (Except.ok.inj h).symm⟩
  | cons name names ih =>
    rw [addDumps] at h
    split at h
    · obtain ⟨dumps, rfl⟩ := ih h
      exact ⟨dumps, rfl⟩
    · cases h

theorem exists_of_setOption {name value : String} (h : r.setOption name value = .ok r') :
    ∃ settings, r' = { r with settings } := by
  unfold setOption at h
  split at h
  · cases h
  · simp only at h
    split at h
    · exact ⟨_, (Except.ok.inj h).symm⟩
    · cases h

theorem Named.take (hr : r.Named) (h : r.take g = .ok (.go r')) : r'.Named := by
  have htaken := r.taken g
  rw [h] at htaken
  cases htaken with
  | input | output => exact fun _ => rfl
  | dumpPrefix | dryRun => exact hr
  | flag _ hx =>
    obtain ⟨_, rfl⟩ := exists_of_setFlag (eq_ok_of_map_go hx)
    exact hr
  | dumps hx =>
    obtain ⟨_, rfl⟩ := exists_of_addDumps (eq_ok_of_map_go hx)
    exact hr
  | setting hx =>
    obtain ⟨_, rfl⟩ := exists_of_setOption (eq_ok_of_map_go hx)
    exact hr

end Reading

theorem Took.named (h : Took arguments r) : r.Named := by
  induction h with
  | nil => exact fun h => Bool.noConfusion h
  | empty _ ih => exact ih
  | group _ _ htake ih => exact ih.take htake

theorem received_of_request {q : Request} (h : Took arguments r) (hq : r.request = .ok q) :
    Received arguments (.inr q) := by
  have hrequest := hq
  unfold Reading.request at hrequest
  split at hrequest
  · cases hrequest
  · next input hinput =>
    obtain ⟨output, houtput⟩ := Option.isSome_iff_exists.1 (h.named (by rw [hinput]; rfl))
    cases hrequest
    exact .request h hq hinput (by rw [houtput]; rfl)

theorem begin_of_overassigned (h : Overassigned arguments) :
    begin arguments = .inl { ending := .escaped (.arguments .manyValues) } := by
  have hanswers : Answers arguments (.error .manyValues) := refused_manyValues_iff.2 h
  rw [begin, demand_eq_iff.2 hanswers]

/-- **How arguments are received.** Whatever they are, they are received as they should be, unless some flag is
assigned more than one value at once; then the run ends without a report. Where no file is asked for, the
directory stays as it was. -/
theorem arguments_received (arguments : List String) :
    (Received arguments (begin arguments) ↔ ¬ Overassigned arguments) ∧
    (Overassigned arguments →
      begin arguments = .inl { ending := .escaped (.arguments .manyValues) }) ∧
    ∀ outcome, begin arguments = .inl outcome →
      ∀ {W : Type} (sys : System (StateM W)) (w : W), runIn sys arguments w = (outcome, w) := by
  refine ⟨⟨fun h hmany => ?_, fun hnot => ?_⟩, begin_of_overassigned,
    fun outcome h W sys w => by rw [runIn, h]; rfl⟩
  · rw [begin_of_overassigned hmany] at h
    cases h
  · have hanswers := demand_eq_iff.1 (rfl : demand arguments = demand arguments)
    unfold begin
    cases hdemand : demand arguments with
    | ok d =>
      rw [hdemand] at hanswers
      cases hanswers with
      | compile h hq => exact received_of_request h hq
      | help h hbefore hg htake => exact .help (.help h hbefore hg htake)
      | version h hbefore hg htake => exact .version (.version h hbefore hg htake)
    | error e =>
      rw [hdemand] at hanswers
      have he : e ≠ .manyValues := by
        rintro rfl
        exact hnot (refused_manyValues_iff.1 hanswers)
      cases e with
      | manyValues => exact absurd rfl he
      | _ => exact .refused hanswers he

/-- Arguments that assign a flag two values are not reported. -/
theorem two_values_escape : runIn Shelf.system ["--flag", "strict-actions=yes=no", "p"] [] =
    ({ ending := .escaped (.arguments .manyValues) }, []) := by
  have hover : Overassigned ["--flag", "strict-actions=yes=no", "p"] :=
    ⟨[], "strict-actions=yes=no", ["p"], {}, rfl, .nil, by decide⟩
  rw [runIn, begin_of_overassigned hover]
  rfl

end ArrowMachine.Command
