import ArrowMachine.Proofs.Outcome
import ArrowMachine.Proofs.Table.Reordering
import ArrowMachine.Table.Document

/-!
Storing a table and loading it again.

The source positions of a table are all that its document leaves out (`Compiled.unplaced`). What is written
for an operation, an entry or a table is looked up and read as just that (`Op.read_parts`,
`Entry.read_parts`, `Compiled.read_parts`), provided that the accepting states are a set of names in order,
which they are in a table that was compiled or loaded (`Compiled.Obtained.accepting`). So loading what was
stored gives the table without its positions (`Compiled.ofDocument_toDocument`).

Documents are the same in whatever order their records have the fields (`Document.Same`). Two tables with
the same document are alike (`Compiled.alike_of_same`): they may list the states in another order, but find
the same rows for each of them.
-/
namespace ArrowMachine

variable {ε α β γ : Type}

/-- Where every step reads what was written, all of them together do. -/
theorem mapM_map_eq_ok {f : α → Except ε β} {g : γ → α} {h : γ → β} {cs : List γ}
    (hf : ∀ c, f (g c) = .ok (h c)) : (cs.map g).mapM f = .ok (cs.map h) := by
  rw [mapM_eq_ok_iff, List.map_map, List.map_map]
  exact List.map_congr_left fun c _ => hf c

theorem mapM_map_eq_self {f : α → Except ε γ} {g : γ → α} {cs : List γ} (hf : ∀ c, f (g c) = .ok c) :
    (cs.map g).mapM f = .ok cs := by
  have h : (cs.map g).mapM f = .ok (cs.map id) := mapM_map_eq_ok hf
  rwa [List.map_id] at h

/-! ## Names -/

/-- A set of names is the set of its members. -/
theorem nameSet_nameSet (names : List String) : nameSet (nameSet names) = nameSet names :=
  nameSet_congr fun _ => by rw [nameSet, List.mem_mergeSort, List.mem_eraseDups]

namespace Document

theorem mapM_asText (names : List String) : (names.map text).mapM asText = .ok names :=
  mapM_map_eq_self fun _ => rfl

theorem keys_texts (names : List String) : (texts names).keys = .ok (names.map .text) :=
  mapM_map_eq_ok fun _ => rfl

theorem mapM_key_asText (names : List String) : (names.map Key.text).mapM Key.asText = .ok names :=
  mapM_map_eq_self fun _ => rfl

theorem mapM_asTextOrNull (reads : List (Option String)) :
    (reads.map textOrNull).mapM asTextOrNull = .ok reads :=
  mapM_map_eq_self fun r => by cases r <;> rfl

end Document

/-! ## Operations -/

namespace Op

/-- What is looked up in the document of an operation. -/
def parts : Op → Parts
  | consume => ⟨"consume", []⟩
  | pop channel => ⟨"pop", [.int channel]⟩
  | push channel value => ⟨"push", [.int channel, .text value]⟩
  | set state => ⟨"set", [.text state]⟩

theorem ofDocument_toDocument (op : Op) : Parts.ofDocument op.toDocument = .ok op.parts := by
  cases op <;> rfl

theorem read_parts (op : Op) : op.parts.read = .ok op := by
  cases op <;> rfl

end Op

/-! ## Entries -/

namespace Entry

/-- The entry without its place in the source. -/
def unplaced (e : Entry) : Entry := { e with pos := none }

/-- What is looked up in the document of an entry. -/
def parts (e : Entry) : Parts where
  label := .text e.label
  input := .text e.filter.input
  reads := e.filter.reads.map Document.textOrNull
  target := .text e.action.target
  ops := e.action.ops.map Op.parts

theorem ofDocument_toDocument (e : Entry) : Parts.ofDocument e.toDocument = .ok e.parts := by
  have hops : (e.action.ops.map Op.toDocument).mapM Op.Parts.ofDocument =
      .ok (e.action.ops.map Op.parts) := mapM_map_eq_ok Op.ofDocument_toDocument
  unfold Parts.ofDocument
  change (do let ops ← (e.action.ops.map Op.toDocument).mapM Op.Parts.ofDocument; _) = _
  rw [hops]
  rfl

theorem read_parts (e : Entry) : e.parts.read = .ok e.unplaced := by
  have hreads := Document.mapM_asTextOrNull e.filter.reads
  have hops : (e.action.ops.map Op.parts).mapM Op.Parts.read = .ok e.action.ops :=
    mapM_map_eq_self Op.read_parts
  unfold Parts.read parts
  simp only [hreads, hops]
  rfl

end Entry

/-! ## Tables -/

namespace Compiled

/-- The table without the places of its entries in the source. -/
def unplaced (t : Compiled) : Compiled :=
  { t with transitions := t.transitions.map fun row => (row.1, row.2.map Entry.unplaced) }

/-- What is looked up in the document of a table. -/
def parts (t : Compiled) : Parts where
  initial := .text t.initial
  transitions := t.transitions.map fun row => (row.1, row.2.map Entry.parts)
  accepting := t.accepting.map .text
  stackCount := .int t.stackCount
  states := t.states.map .text
  labels := t.labels.map .text

theorem parts_toDocument (t : Compiled) : Parts.ofDocument t.toDocument = .ok t.parts := by
  have hentries : ∀ row : String × List Entry,
      (row.2.map Entry.toDocument).mapM Entry.Parts.ofDocument = .ok (row.2.map Entry.parts) :=
    fun _ => mapM_map_eq_ok Entry.ofDocument_toDocument
  have hkeys := Document.keys_texts t.accepting
  unfold Parts.ofDocument
  change (do let transitions ← (t.transitions.map _).mapM _; _ : Except LoadError Parts) = _
  rw [mapM_map_eq_ok (h := fun row : String × List Entry => (row.1, row.2.map Entry.parts))]
  · change (do let accepting ← (Document.texts t.accepting).keys; _ : Except LoadError Parts) = _
    rw [hkeys]
    rfl
  · intro row
    change (do let entries ← (row.2.map Entry.toDocument).mapM _; _ : Except LoadError _) = _
    rw [hentries]
    rfl

theorem read_parts {t : Compiled} (h : nameSet t.accepting = t.accepting) :
    t.parts.read = .ok t.unplaced := by
  have hentries : ∀ row : String × List Entry,
      (row.2.map Entry.parts).mapM Entry.Parts.read = .ok (row.2.map Entry.unplaced) :=
    fun _ => mapM_map_eq_ok Entry.read_parts
  have haccepting : t.parts.accepting.mapM Document.Key.asText = .ok t.accepting :=
    Document.mapM_key_asText t.accepting
  have hstates : t.parts.states.mapM Document.asText = .ok t.states := Document.mapM_asText t.states
  have hlabels : t.parts.labels.mapM Document.asText = .ok t.labels := Document.mapM_asText t.labels
  unfold Parts.read
  rw [haccepting, hstates, hlabels]
  change (do let transitions ← (t.transitions.map _).mapM _; _ : Except LoadError Compiled) = _
  rw [mapM_map_eq_ok (h := fun row : String × List Entry => (row.1, row.2.map Entry.unplaced))]
  · change Except.ok { t.unplaced with accepting := nameSet t.accepting } = _
    rw [h]
    rfl
  · intro row
    change (do let entries ← (row.2.map Entry.parts).mapM _; _ : Except LoadError _) = _
    rw [hentries]
    rfl

/-- **Loading what was stored gives the table without its positions.** -/
theorem ofDocument_toDocument {t : Compiled} (h : nameSet t.accepting = t.accepting) :
    ofDocument t.toDocument = .ok t.unplaced := by
  unfold ofDocument
  rw [parts_toDocument]
  exact read_parts h

theorem toDocument_unplaced (t : Compiled) : t.unplaced.toDocument = t.toDocument := by
  have hentries : ∀ entries : List Entry,
      (entries.map Entry.unplaced).map Entry.toDocument = entries.map Entry.toDocument := fun entries =>
    List.map_map.trans (List.map_congr_left fun _ _ => rfl)
  simp [toDocument, unplaced, Function.comp_def, hentries]

/-! ## Tables that were compiled or loaded -/

/-- A table that statements compile to, or that was loaded from a document. -/
inductive Obtained (t : Compiled) : Prop
  | compiled {settings : Settings} {ss : List Statement}
      (h : (compileStatements cap settings ss).result = .ok t) : Obtained t
  | loaded {d : Document} (h : ofDocument d = .ok t) : Obtained t

theorem accepting_of_ofDocument {d : Document} {t : Compiled} (h : ofDocument d = .ok t) :
    nameSet t.accepting = t.accepting := by
  obtain ⟨p, _, h⟩ := bind_eq_ok h
  unfold Parts.read at h
  obtain ⟨transitions, _, h⟩ := bind_eq_ok h
  obtain ⟨initial, _, h⟩ := bind_eq_ok h
  obtain ⟨accepting, _, h⟩ := bind_eq_ok h
  obtain ⟨stackCount, _, h⟩ := bind_eq_ok h
  obtain ⟨states, _, h⟩ := bind_eq_ok h
  obtain ⟨labels, _, h⟩ := bind_eq_ok h
  rw [← Except.ok.inj h]
  exact nameSet_nameSet accepting

/-- The accepting states are each named once, in ascending order. -/
theorem Obtained.accepting {t : Compiled} (h : t.Obtained) : nameSet t.accepting = t.accepting := by
  cases h with
  | compiled h =>
    obtain ⟨rules, initial, _, _, rfl⟩ := compiled_iff.1 h
    exact nameSet_nameSet _
  | loaded h => exact accepting_of_ofDocument h

end Compiled

/-! ## Documents that are the same -/

/-- Two documents are the same if they are made of the same, in whatever order records have their
fields. -/
inductive Document.Same : Document → Document → Prop
  | refl (d : Document) : Same d d
  | list {ds es : List Document} (h : List.Forall₂ Same ds es) : Same (.list ds) (.list es)
  | record {fs gs : List (String × Document)}
      (h : ∀ key, Option.Rel Same (fs.lookup key) (gs.lookup key)) : Same (.record fs) (.record gs)

namespace Document

theorem same_text {s s' : String} : (text s).Same (text s') ↔ s = s' := by
  constructor
  · rintro ⟨⟩
    rfl
  · rintro rfl
    exact .refl _

theorem same_int {n n' : Int} : (int n).Same (int n') ↔ n = n' := by
  constructor
  · rintro ⟨⟩
    rfl
  · rintro rfl
    exact .refl _

theorem same_list {ds es : List Document} : (list ds).Same (list es) ↔ List.Forall₂ Same ds es := by
  constructor
  · rintro (_ | h)
    · exact List.forall₂_same.2 fun d _ => .refl d
    · exact h
  · exact .list

theorem Same.lookup {fs gs : List (String × Document)} (h : Same (.record fs) (.record gs))
    (key : String) : Option.Rel Same (fs.lookup key) (gs.lookup key) := by
  cases h with
  | refl =>
    cases fs.lookup key with
    | none => exact .none
    | some d => exact .some (.refl d)
  | record h => exact h key

/-- The fields of one name are the same. -/
theorem Same.field {fs gs : List (String × Document)} (h : Same (.record fs) (.record gs))
    (key : String) {d e : Document} (hd : fs.lookup key = some d) (he : gs.lookup key = some e) : d.Same e := by
  have hfield := h.lookup key
  rw [hd, he] at hfield
  cases hfield with
  | some hsame => exact hsame

/-- Lists agree in what can be told from the documents of their members. -/
theorem map_eq_of_same {f : α → Document} {g : α → β} (hf : ∀ a b, (f a).Same (f b) → g a = g b)
    {as bs : List α} (h : (list (as.map f)).Same (list (bs.map f))) : as.map g = bs.map g := by
  rw [same_list, List.forall₂_map_left_iff, List.forall₂_map_right_iff] at h
  induction h with
  | nil => rfl
  | cons hfirst _ ih => rw [List.map_cons, List.map_cons, hf _ _ hfirst, ih]

theorem eq_of_same {f : α → Document} (hf : ∀ a b, (f a).Same (f b) → a = b) {as bs : List α}
    (h : (list (as.map f)).Same (list (bs.map f))) : as = bs := by
  simpa using map_eq_of_same (g := id) hf h

theorem names_of_same {as bs : List String} (h : (texts as).Same (texts bs)) : as = bs :=
  eq_of_same (fun _ _ => same_text.1) h

theorem textOrNull_of_same {r r' : Option String} (h : (textOrNull r).Same (textOrNull r')) :
    r = r' := by
  cases r with
  | none =>
    cases r' with
    | none => rfl
    | some s' => cases h
  | some s =>
    cases r' with
    | none => cases h
    | some s' => rw [same_text.1 h]

end Document

theorem Op.eq_of_same {op op' : Op} (h : op.toDocument.Same op'.toDocument) : op = op' := by
  cases op <;> cases op' <;>
    simp [toDocument, Document.same_list, Document.same_text, Document.same_int] at h ⊢ <;> exact h

theorem Entry.unplaced_eq_of_same {e e' : Entry} (h : e.toDocument.Same e'.toDocument) :
    e.unplaced = e'.unplaced := by
  have hlabel := Document.same_text.1 (h.field "label" rfl rfl)
  have hinput := Document.same_text.1 (h.field "input" rfl rfl)
  have hreads := Document.eq_of_same (fun _ _ => Document.textOrNull_of_same)
    (h.field "reads" rfl rfl)
  have htarget := Document.same_text.1 (h.field "target" rfl rfl)
  have hops := Document.eq_of_same (fun _ _ => Op.eq_of_same) (h.field "ops" rfl rfl)
  obtain ⟨label, ⟨input, reads⟩, ⟨target, ops⟩, pos⟩ := e
  obtain ⟨label', ⟨input', reads'⟩, ⟨target', ops'⟩, pos'⟩ := e'
  simp only at hlabel hinput hreads htarget hops
  rw [hlabel, hinput, hreads, htarget, hops]
  rfl

namespace Compiled

/-- Two tables that differ at most in the order in which they list the states, and in where their entries
stand in the source. -/
structure Alike (t u : Compiled) : Prop where
  initial : t.initial = u.initial
  accepting : t.accepting = u.accepting
  stackCount : t.stackCount = u.stackCount
  states : t.states = u.states
  labels : t.labels = u.labels
  rows : ∀ state, (t.entriesFor state).map Entry.unplaced = (u.entriesFor state).map Entry.unplaced

/-- **Tables with the same document are alike.** -/
theorem alike_of_same {t u : Compiled} (h : t.toDocument.Same u.toDocument) : t.Alike u where
  initial := Document.same_text.1 (h.field "initial" rfl rfl)
  accepting := Document.names_of_same (h.field "accept_states" rfl rfl)
  stackCount := Document.same_int.1 (h.field "stack_count" rfl rfl)
  states := Document.names_of_same (h.field "states" rfl rfl)
  labels := Document.names_of_same (h.field "labels" rfl rfl)
  rows := by
    intro state
    have hrows : ∀ v : Compiled, List.lookup state (v.transitions.map fun row =>
        (row.1, Document.list (row.2.map Entry.toDocument))) =
        (v.transitions.lookup state).map fun es => .list (es.map Entry.toDocument) :=
      fun v => lookup_map_snd (fun es => Document.list (es.map Entry.toDocument)) v.transitions state
    have hstate : Option.Rel Document.Same
        (List.lookup state (t.transitions.map fun row =>
          (row.1, Document.list (row.2.map Entry.toDocument))))
        (List.lookup state (u.transitions.map fun row =>
          (row.1, Document.list (row.2.map Entry.toDocument)))) :=
      (h.field "transitions" rfl rfl).lookup state
    rw [hrows, hrows] at hstate
    unfold entriesFor
    generalize t.transitions.lookup state = es at hstate ⊢
    generalize u.transitions.lookup state = es' at hstate ⊢
    cases es with
    | none =>
      cases es' with
      | none => rfl
      | some rows' => cases hstate
    | some rows =>
      cases es' with
      | none => cases hstate
      | some rows' =>
        cases hstate with
        | some hsame => exact Document.map_eq_of_same (fun _ _ => Entry.unplaced_eq_of_same) hsame

end Compiled

end ArrowMachine
