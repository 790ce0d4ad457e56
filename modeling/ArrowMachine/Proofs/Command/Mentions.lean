import ArrowMachine.Proofs.Command.Grouping
import Mathlib

/-!
What the groups of the arguments say.

A group that can be taken says one thing (`Group.Says`), in one of the spellings that there are for it
(`Reading.exists_says_of_take`), and taking the group heeds just that (`Reading.take_of_says`). So reading
groups is heeding their mentions in turn, and nothing else about a group matters.
-/
namespace ArrowMachine.Command

/-! ## Names of settings -/

/-- The text is the name, but for case and with hyphens and underscores not told apart. -/
def Spells (text : List Char) (name : String) : Prop := settingName text = settingName name.toList

theorem settingName_switch (switch : Switch) : settingName switch.name.toList = switch.name := by
  cases switch <;> decide +kernel

theorem settingName_setting (setting : Setting) :
    settingName setting.name.toList = setting.name := by
  cases setting <;> decide +kernel

theorem switch?_eq_some_iff_spells {text : List Char} {switch : Switch} :
    Switch.ofName? (settingName text) = some switch ↔ Spells text switch.name := by
  rw [Spells, settingName_switch]
  constructor
  · intro h
    have hname := List.find?_some h
    simpa [eq_comm] using hname
  · intro h
    rw [h]
    cases switch <;> decide

theorem setting?_eq_some_iff_spells {text : List Char} {setting : Setting} :
    Setting.ofName? (settingName text) = some setting ↔ Spells text setting.name := by
  rw [Spells, settingName_setting]
  constructor
  · intro h
    have hname := List.find?_some h
    simpa [eq_comm] using hname
  · intro h
    rw [h]
    cases setting <;> decide

/-! ## Mentions -/

/-- What a group says. -/
inductive Mention where
  | input (path : String)
  | output (name : String)
  | flag (switch : Switch) (on : Bool)
  | option (setting : Setting) (value : Value)
  | dumps (ds : List Dump)
  | dumpPrefix (text : String)
  | dryRun
  deriving DecidableEq

/-- The value that a text stands for as that of an option, which is of the kind of the default. -/
def convert? (setting : Setting) (text : String) : Option Value :=
  match ({} : Settings).value setting with
  | .int _ => (Text.integer? text).map .int
  | .text _ => some (.text text)

/-- The spellings of what may be said. -/
inductive Group.Says : Group → Mention → Prop
  | input (path : String) : Says (.input path) (.input path)
  | output {name value : String} (hname : name ∈ ["o", "output"]) (hdot : '.' ∉ value.toList) :
      Says (.option name value) (.output value)
  | on {text : List Char} {switch : Switch} (h : Spells text switch.name) :
      Says (.option "f" (.ofList text)) (.flag switch true)
  | off {text : List Char} {switch : Switch} (h : Spells text switch.name) :
      Says (.option "f" (.ofList ("no-".toList ++ text))) (.flag switch false)
  | mentioned {text : List Char} {switch : Switch} (h : Spells text switch.name) (htext : '=' ∉ text) :
      Says (.option "flag" (.ofList text)) (.flag switch true)
  | assigned {text setting : List Char} {switch : Switch} (h : Spells text switch.name)
      (htext : '=' ∉ text) (hsetting : '=' ∉ setting) :
      Says (.option "flag" (.ofList (text ++ '=' :: setting)))
        (.flag switch (setting = "yes".toList || setting = "on".toList))
  | dumps {name value : String} {ds : List Dump} (hname : name ∈ ["d", "dump"]) (hds : ds ≠ [])
      (hvalue : value.toList = [','].intercalate (ds.map (·.name.toList))) :
      Says (.option name value) (.dumps ds)
  | dumpPrefix (value : String) : Says (.option "dump-prefix" value) (.dumpPrefix value)
  | dryRun {name value : String} (hname : name ∈ ["t", "dry-run"]) : Says (.option name value) .dryRun
  | option {name text : String} {setting : Setting} {value : Value}
      (h : Spells name.toList setting.name) (hvalue : convert? setting text = some value) :
      Says (.option name text) (.option setting value)

/-! ## Spellings as they are read -/

theorem cutAt_eq_splitOn (c : Char) (cs : List Char) : cutAt c cs = cs.splitOn c := by
  induction cs with
  | nil => rw [cutAt, List.splitOn_nil]
  | cons d ds ih =>
    rw [cutAt, List.splitOn_cons_eq_if_modifyHead, ih]
    by_cases hd : d = c
    · simp [hd]
    · have hne : (d == c) = false := by simpa using hd
      rw [if_neg hd, hne]
      cases hsplit : ds.splitOn c with
      | nil => exact absurd hsplit (List.splitOn_ne_nil c ds)
      | cons l ls => rfl

theorem not_mem_splitOn (a : Char) (cs : List Char) : ∀ l ∈ cs.splitOn a, a ∉ l := by
  induction cs with
  | nil => simp
  | cons c cs ih =>
    rw [List.splitOn_cons_eq_if_modifyHead]
    split
    · exact List.forall_mem_cons.2 ⟨List.not_mem_nil, ih⟩
    · next hne =>
      have hc : a ≠ c := fun h => hne (by simp [h])
      cases hsplit : cs.splitOn a with
      | nil => exact fun l hl => (nomatch hl)
      | cons l ls =>
        rw [hsplit] at ih
        obtain ⟨hl, hls⟩ := List.forall_mem_cons.1 ih
        exact List.forall_mem_cons.2 ⟨by simp [hc, hl], hls⟩

/-- A text is cut into pieces without the character that it is put together from with it. -/
theorem cutAt_eq_iff {c : Char} {cs : List Char} {pieces : List (List Char)} : cutAt c cs = pieces ↔
    pieces ≠ [] ∧ (∀ l ∈ pieces, c ∉ l) ∧ cs = [c].intercalate pieces := by
  rw [cutAt_eq_splitOn]
  constructor
  · intro h
    refine ⟨h ▸ List.splitOn_ne_nil c cs, ?_, ?_⟩
    · intro l hl
      rw [← h] at hl
      exact not_mem_splitOn c cs l hl
    · rw [← h, List.intercalate_splitOn]
  · intro h
    obtain ⟨hne, hpieces, hcs⟩ := h
    rw [hcs, List.splitOn_intercalate c hpieces hne]

theorem flagMention_short_iff {value text : List Char} {on : Bool} :
    flagMention true value = .ok (text, on) ↔ (on = false ∧ value = "no-".toList ++ text) ∨
      (on = true ∧ value = text ∧ ¬ "no-".toList <+: value) := by
  have hno : "no-".toList = ['n', 'o', '-'] := by decide
  rw [hno]
  unfold flagMention
  simp only [if_true]
  split
  · next name =>
    have hbegins : ['n', 'o', '-'] <+: 'n' :: 'o' :: '-' :: name := ⟨name, rfl⟩
    simp only [Except.ok.injEq, Prod.mk.injEq, hbegins, not_true, and_false, or_false]
    simp [and_comm, eq_comm]
  · next name hplain =>
    have hbegins : ∀ more, value ≠ ['n', 'o', '-'] ++ more := fun more h => hplain more h
    have hnot : ¬ ['n', 'o', '-'] <+: value := by
      intro h
      obtain ⟨more, hmore⟩ := h
      exact hbegins more hmore.symm
    simp only [Except.ok.injEq, Prod.mk.injEq, hbegins text, hnot, not_false_eq_true, and_false,
      and_true, false_or]
    rw [and_comm, eq_comm (a := true)]

theorem flagMention_long_iff {value text : List Char} {on : Bool} :
    flagMention false value = .ok (text, on) ↔ (on = true ∧ value = text ∧ '=' ∉ value) ∨
      ∃ setting, value = text ++ '=' :: setting ∧ '=' ∉ text ∧ '=' ∉ setting ∧
        on = (setting = "yes".toList || setting = "on".toList) := by
  constructor
  · intro h
    unfold flagMention at h
    simp only [Bool.false_eq_true, if_false] at h
    split at h
    · next name setting hcut =>
      obtain ⟨_, hpieces, hvalue⟩ := cutAt_eq_iff.1 hcut
      obtain ⟨rfl, rfl⟩ := Prod.mk.inj (Except.ok.inj h)
      refine Or.inr ⟨setting, ?_, hpieces name (by simp), hpieces setting (by simp), rfl⟩
      rw [hvalue, List.intercalate_cons_cons, List.intercalate_singleton, List.append_assoc,
        List.singleton_append]
    · next name hcut =>
      obtain ⟨_, hpieces, hvalue⟩ := cutAt_eq_iff.1 hcut
      rw [List.intercalate_singleton] at hvalue
      obtain ⟨rfl, rfl⟩ := Prod.mk.inj (Except.ok.inj h)
      rw [hvalue]
      exact Or.inl ⟨rfl, rfl, hpieces name (by simp)⟩
    · cases h
  · intro h
    unfold flagMention
    simp only [Bool.false_eq_true, if_false]
    rcases h with ⟨rfl, rfl, hplain⟩ | ⟨setting, rfl, htext, hsetting, rfl⟩
    · have hcut : cutAt '=' value = [value] := by
        refine cutAt_eq_iff.2 ⟨List.cons_ne_nil _ _, ?_, ?_⟩
        · intro l hl
          rw [List.mem_singleton.1 hl]
          exact hplain
        · rw [List.intercalate_singleton]
      rw [hcut]
    · have hcut : cutAt '=' (text ++ '=' :: setting) = [text, setting] := by
        refine cutAt_eq_iff.2 ⟨List.cons_ne_nil _ _, ?_, ?_⟩
        · simp [htext, hsetting]
        · rw [List.intercalate_cons_cons, List.intercalate_singleton, List.append_assoc,
            List.singleton_append]
      rw [hcut]

/-- No name of a flag begins like a negation. -/
theorem Spells.not_negated {text : List Char} {switch : Switch} (h : Spells text switch.name) :
    ¬ "no-".toList <+: text := by
  intro hno
  obtain ⟨name, rfl⟩ := hno
  have hchars := congrArg String.toList h
  rw [settingName_switch, settingName, String.toList_ofList, List.flatMap_append,
    List.map_append] at hchars
  have hfront : ("no-".toList.flatMap Text.capitals).map (fun c => if c = '-' then '_' else c) =
      "NO_".toList := by decide +kernel
  rw [hfront] at hchars
  have hbegins : "NO_".toList <+: switch.name.toList := ⟨_, hchars⟩
  revert hbegins
  cases switch <;> decide

/-- The words that are taken to be no names of options. -/
def ownWords : List String :=
  ["o", "output", "f", "flag", "h", "help", "help-all", "version", "d", "dump", "dump-prefix", "t", "dry-run"]

theorem Spells.not_own {name : String} {setting : Setting} (h : Spells name.toList setting.name) :
    name ∉ ownWords := by
  intro hname
  have hnone : ∀ word ∈ ownWords, Setting.ofName? (settingName word.toList) = none := by
    decide +kernel
  have hsome := setting?_eq_some_iff_spells.2 h
  rw [hnone name hname] at hsome
  cases hsome

/-! ## Heeding a mention -/

namespace Reading

variable {r r' : Reading} {g : Group} {m : Mention}

/-- What is in force with a mention more. -/
def heed (r : Reading) : Mention → Reading
  | .input path => { r with input := some path, output := some (outputOf path) }
  | .output name => { r with output := some name }
  | .flag switch on => { r with flags := r.flags ++ [(switch, on)] }
  | .option setting value => { r with settings := (r.settings.set? setting value).getD r.settings }
  | .dumps ds => { r with dumps := r.dumps ++ ds }
  | .dumpPrefix text => { r with dumpPrefix := some text }
  | .dryRun => { r with dryRun := true }

theorem setFlag_eq_ok_iff {short : Bool} {value : List Char} : r.setFlag short value = .ok r' ↔
    ∃ text on switch, flagMention short value = .ok (text, on) ∧ Spells text switch.name ∧
      r' = r.heed (.flag switch on) := by
  unfold setFlag
  constructor
  · intro h
    obtain ⟨⟨text, on⟩, hmention, h⟩ := bind_eq_ok h
    simp only at h
    split at h
    · next switch hswitch =>
      exact ⟨text, on, switch, hmention, switch?_eq_some_iff_spells.1 hswitch, (Except.ok.inj h).symm⟩
    · cases h
  · intro h
    obtain ⟨text, on, switch, hmention, hspells, rfl⟩ := h
    rw [hmention]
    simp only [bind, Except.bind, switch?_eq_some_iff_spells.2 hspells]
    rfl

theorem dump?_eq_some_iff {name : String} {d : Dump} :
    Dump.ofName? name = some d ↔ name = d.name := by
  constructor
  · intro h
    have hname := List.find?_some h
    simpa [eq_comm] using hname
  · intro h
    rw [h]
    cases d <;> decide

theorem addDumps_eq_ok_iff {names : List (List Char)} : r.addDumps names = .ok r' ↔
    ∃ ds, names = ds.map (·.name.toList) ∧ r' = r.heed (.dumps ds) := by
  induction names generalizing r with
  | nil =>
    simp only [addDumps, Except.ok.injEq, List.nil_eq, List.map_eq_nil_iff, exists_eq_left]
    simp [heed, eq_comm]
  | cons name names ih =>
    rw [addDumps]
    constructor
    · intro h
      split at h
      · next d hd =>
        obtain ⟨ds, hds, hr'⟩ := ih.1 h
        have hname := dump?_eq_some_iff.1 hd
        refine ⟨d :: ds, ?_, ?_⟩
        · rw [List.map_cons, ← hds, ← hname, String.toList_ofList]
        · rw [hr']
          simp [heed]
      · cases h
    · intro h
      obtain ⟨ds, hds, rfl⟩ := h
      obtain ⟨d, ds, rfl, rfl, rfl⟩ := List.map_eq_cons_iff.1 hds.symm
      rw [String.ofList_toList, dump?_eq_some_iff.2 rfl]
      refine ih.2 ⟨ds, rfl, ?_⟩
      simp [heed]

/-- A value that a text stands for can be set. -/
theorem exists_set?_of_convert? (s : Settings) {setting : Setting} {text : String} {value : Value}
    (h : convert? setting text = some value) : ∃ s', s.set? setting value = some s' := by
  have hint : (Text.integer? text).map Value.int = some value → ∃ n, value = .int n := by
    intro hvalue
    obtain ⟨n, _, rfl⟩ := Option.map_eq_some_iff.1 hvalue
    exact ⟨n, rfl⟩
  have htext : some (Value.text text) = some value → value = .text text := fun hvalue =>
    (Option.some.inj hvalue).symm
  cases setting with
  | maxSearchSteps | stackCount =>
    obtain ⟨n, rfl⟩ := hint h
    exact ⟨_, rfl⟩
  | target | globalName | debugGraphDumpFormat =>
    obtain rfl := htext h
    exact ⟨_, rfl⟩

/-- What a text is converted to depends on the kind of the option, which no value changes. -/
theorem setOption_eq (r : Reading) (name text : String) : r.setOption name text =
    match Setting.ofName? (settingName name.toList) with
    | none => .error (.unknownOption name)
    | some setting =>
      match (convert? setting text).bind (r.settings.set? setting) with
      | some settings => .ok { r with settings }
      | none => .error (.invalidValue name) := by
  unfold setOption
  cases Setting.ofName? (settingName name.toList) with
  | none => rfl
  | some setting => cases setting <;> rfl

theorem setOption_eq_ok_iff {name text : String} : r.setOption name text = .ok r' ↔
    ∃ setting value, Spells name.toList setting.name ∧ convert? setting text = some value ∧
      r' = r.heed (.option setting value) := by
  rw [setOption_eq]
  constructor
  · intro h
    split at h
    · cases h
    · next setting hsetting =>
      split at h
      · next settings hset =>
        obtain ⟨value, hvalue, hset⟩ := Option.bind_eq_some_iff.1 hset
        refine ⟨setting, value, setting?_eq_some_iff_spells.1 hsetting, hvalue, ?_⟩
        rw [← Except.ok.inj h, heed, hset]
        rfl
      · cases h
  · intro h
    obtain ⟨setting, value, hspells, hvalue, rfl⟩ := h
    obtain ⟨settings, hset⟩ := exists_set?_of_convert? r.settings hvalue
    rw [setting?_eq_some_iff_spells.2 hspells]
    simp only [hvalue, Option.bind_some, hset, heed, Option.getD_some]

/-- An input file is named once only. -/
def Admits (r : Reading) (m : Mention) : Prop := (∃ path, m = .input path) → r.input = none

theorem map_go_eq_iff {x : Except ArgumentError Reading} :
    x.map Effect.go = .ok (.go r') ↔ x = .ok r' := by
  constructor
  · exact eq_ok_of_map_go
  · intro h
    rw [h]
    rfl

/-- A flag that can be set is spelled in one of the four ways. -/
theorem exists_says_of_setFlag {name value : String} (hname : name ∈ ["f", "flag"])
    (h : r.setFlag (name = "f") value.toList = .ok r') : ∃ m, (Group.option name value).Says m := by
  obtain ⟨text, on, switch, hmention, hspells, _⟩ := setFlag_eq_ok_iff.1 h
  rw [← String.ofList_toList (s := value)]
  rcases List.mem_pair.1 hname with rfl | rfl
  · rw [decide_eq_true rfl] at hmention
    rcases flagMention_short_iff.1 hmention with ⟨_, hvalue⟩ | ⟨_, hvalue, _⟩
    · rw [hvalue]
      exact ⟨_, .off hspells⟩
    · rw [hvalue]
      exact ⟨_, .on hspells⟩
  · rw [decide_eq_false (by decide)] at hmention
    rcases flagMention_long_iff.1 hmention with ⟨_, hvalue, hplain⟩ | ⟨setting, hvalue, htext, hsetting, _⟩
    · rw [hvalue] at hplain ⊢
      exact ⟨_, .mentioned hspells hplain⟩
    · rw [hvalue]
      exact ⟨_, .assigned hspells htext hsetting⟩

/-- A group that can be taken says something. -/
theorem exists_says_of_take (h : r.take g = .ok (.go r')) : ∃ m, g.Says m := by
  cases g with
  | input path => exact ⟨_, .input path⟩
  | option name value =>
    simp only [take] at h
    split at h
    · next hname =>
      split at h
      · cases h
      · next hdot => exact ⟨_, .output hname (by simpa using hdot)⟩
    split at h
    · next hname =>
      rw [map_go_eq_iff] at h
      exact exists_says_of_setFlag hname h
    -- Help and the version end the reading, so nothing goes on behind them.
    split at h
    · cases h
    split at h
    · cases h
    split at h
    · cases h
    split at h
    · next hname =>
      rw [map_go_eq_iff, addDumps_eq_ok_iff] at h
      obtain ⟨ds, hds, _⟩ := h
      obtain ⟨hne, _, hvalue⟩ := cutAt_eq_iff.1 hds
      exact ⟨_, .dumps hname (fun hnone => hne (by rw [hnone]; rfl)) hvalue⟩
    split at h
    · next hname =>
      rw [hname]
      exact ⟨_, .dumpPrefix value⟩
    split at h
    · next hname => exact ⟨_, .dryRun hname⟩
    · rw [map_go_eq_iff, setOption_eq_ok_iff] at h
      obtain ⟨setting, v, hspells, hvalue, _⟩ := h
      exact ⟨_, .option hspells hvalue⟩

/-- Words for options of their own are read as such. -/
theorem take_option {name : String} {setting : Setting} (h : Spells name.toList setting.name)
    (text : String) : r.take (.option name text) = (r.setOption name text).map .go := by
  have hown := h.not_own
  simp only [ownWords, List.mem_cons, List.not_mem_nil, or_false, not_or] at hown
  obtain ⟨_, _, _, _, _, _, _, _, _, _, _, _, _⟩ := hown
  simp [take, *]

theorem take_short (text : List Char) :
    r.take (.option "f" (.ofList text)) = (r.setFlag true text).map .go := by
  rw [← String.toList_ofList (l := text), String.ofList_toList]
  rfl

theorem take_long (text : List Char) :
    r.take (.option "flag" (.ofList text)) = (r.setFlag false text).map .go := by
  rw [← String.toList_ofList (l := text), String.ofList_toList]
  rfl

/-- **Taking a group is heeding what it says.** -/
theorem take_of_says (h : g.Says m) (hadmits : r.Admits m) : r.take g = .ok (.go (r.heed m)) := by
  cases h with
  | input path =>
    have hnone : r.input = none := hadmits ⟨path, rfl⟩
    rw [take, hnone]
    rfl
  | output hname hdot =>
    have hdots := mt List.contains_iff_mem.1 hdot
    rw [take, if_pos hname, if_neg hdots]
    rfl
  | on hspells =>
    have hmention := flagMention_short_iff.2 (Or.inr ⟨rfl, rfl, hspells.not_negated⟩)
    rw [take_short, map_go_eq_iff]
    exact setFlag_eq_ok_iff.2 ⟨_, _, _, hmention, hspells, rfl⟩
  | @off text switch hspells =>
    have hmention : flagMention true ("no-".toList ++ text) = .ok (text, false) :=
      flagMention_short_iff.2 (Or.inl ⟨rfl, rfl⟩)
    rw [take_short, map_go_eq_iff]
    exact setFlag_eq_ok_iff.2 ⟨_, _, _, hmention, hspells, rfl⟩
  | mentioned hspells htext =>
    have hmention := flagMention_long_iff.2 (Or.inl ⟨rfl, rfl, htext⟩)
    rw [take_long, map_go_eq_iff]
    exact setFlag_eq_ok_iff.2 ⟨_, _, _, hmention, hspells, rfl⟩
  | assigned hspells htext hsetting =>
    have hmention := flagMention_long_iff.2 (Or.inr ⟨_, rfl, htext, hsetting, rfl⟩)
    rw [take_long, map_go_eq_iff]
    exact setFlag_eq_ok_iff.2 ⟨_, _, _, hmention, hspells, rfl⟩
  | @dumps name value ds hname hds hvalue =>
    have hcomma : ∀ l ∈ ds.map (·.name.toList), ',' ∉ l := by
      intro l hl
      obtain ⟨d, _, rfl⟩ := List.mem_map.1 hl
      cases d <;> decide
    have hcut : cutAt ',' value.toList = ds.map (·.name.toList) :=
      cutAt_eq_iff.2 ⟨by simpa using hds, hcomma, hvalue⟩
    have hadd : r.addDumps (cutAt ',' value.toList) = .ok (r.heed (.dumps ds)) :=
      addDumps_eq_ok_iff.2 ⟨ds, hcut, rfl⟩
    have htake : r.take (.option name value) = (r.addDumps (cutAt ',' value.toList)).map .go := by
      rcases List.mem_pair.1 hname with rfl | rfl <;> rfl
    rw [htake, map_go_eq_iff]
    exact hadd
  | dumpPrefix value => rfl
  | dryRun hname => rcases List.mem_pair.1 hname with rfl | rfl <;> rfl
  | option hspells hvalue =>
    rw [take_option hspells, map_go_eq_iff]
    exact setOption_eq_ok_iff.2 ⟨_, _, hspells, hvalue, rfl⟩

/-- A second input file is refused. -/
theorem admits_of_take (h : g.Says m) (htake : r.take g = .ok (.go r')) : r.Admits m := by
  intro hinput
  obtain ⟨path, rfl⟩ := hinput
  cases h with
  | input =>
    rw [take] at htake
    cases hinput : r.input with
    | none => rfl
    | some named =>
      rw [hinput] at htake
      cases htake

end Reading

end ArrowMachine.Command
