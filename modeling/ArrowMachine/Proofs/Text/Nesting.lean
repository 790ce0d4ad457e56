import ArrowMachine.Proofs.Text.Readable

/-!
Literals and brackets in the text of a program.

A reader of a program is in its code, in a string literal, or behind a backslash in one (`Mode`), and only
what it reads in the code counts for the brackets (`outside`). `Nested` says that these are nested
properly; `scan` decides it with a stack of the brackets that are to be closed (`nested_of_scan`). A text is
`Neat` if it prints, opens no literal that it does not close, and takes the stack from one state to
another; neat texts make up neat texts (`Neat.append`), and a literal is neat whatever it holds
(`neat_literal`).
-/
namespace ArrowMachine.Text

/-! ## Reading literals -/

/-- Where the reader of a program is: in its code, in a string literal, or behind a backslash in one. -/
inductive Mode where
  | code | literal | escaped
  deriving DecidableEq, Repr

def Mode.next : Mode → Char → Mode
  | code, c => if c = '"' then literal else code
  | literal, c => if c = '"' then code else if c = '\\' then escaped else literal
  | escaped, _ => literal

/-- The characters that a reader meets in the code, quotes apart. -/
def outside : Mode → List Char → List Char
  | _, [] => []
  | mode, c :: cs =>
    if mode = .code ∧ c ≠ '"' then c :: outside (mode.next c) cs else outside (mode.next c) cs

theorem outside_append (mode : Mode) (cs ds : List Char) :
    outside mode (cs ++ ds) = outside mode cs ++ outside (cs.foldl Mode.next mode) ds := by
  induction cs generalizing mode with
  | nil => rfl
  | cons c cs ih =>
    rw [List.cons_append, outside, outside, ih]
    split <;> rfl

/-! ## Nesting -/

/-- What closes an opening bracket. -/
def closer? (c : Char) : Option Char :=
  if c = '\x7b' then some '\x7d' else if c = '[' then some ']' else if c = '(' then some ')' else none

def isCloser (c : Char) : Bool := c = '\x7d' || c = ']' || c = ')'

/-- Braces, brackets and parentheses are nested properly, and all of them are closed. -/
inductive Nested : List Char → Prop
  | nil : Nested []
  | plain {c : Char} {cs : List Char} (hopener : closer? c = none) (hcloser : isCloser c = false)
      (hrest : Nested cs) : Nested (c :: cs)
  | enclosed {c d : Char} {inner cs : List Char} (hpair : closer? c = some d) (hinner : Nested inner)
      (hrest : Nested cs) : Nested (c :: (inner ++ d :: cs))

/-- Reads a character, with the brackets that are to be closed, the innermost first. There is no answer if
it closes another one. -/
def scanStep (awaited : List Char) (c : Char) : Option (List Char) :=
  match closer? c with
  | some d => some (d :: awaited)
  | none =>
    if isCloser c then (if awaited.head? = some c then some awaited.tail else none) else some awaited

/-- Reads the brackets of a text. -/
def scan (awaited cs : List Char) : Option (List Char) := cs.foldlM scanStep awaited

/-- The ways a step can go. -/
theorem scanStep_cases {c : Char} {awaited next : List Char} (h : scanStep awaited c = some next) :
    (∃ d, closer? c = some d ∧ next = d :: awaited) ∨
    (closer? c = none ∧ isCloser c = true ∧ awaited = c :: next) ∨
    (closer? c = none ∧ isCloser c = false ∧ next = awaited) := by
  unfold scanStep at h
  cases hpair : closer? c with
  | some d =>
    rw [hpair] at h
    exact Or.inl ⟨d, rfl, (Option.some.inj h).symm⟩
  | none =>
    rw [hpair] at h
    simp only at h
    split at h
    · next hcloser =>
      split at h
      · next hhead =>
        right
        left
        obtain rfl : awaited.tail = next := Option.some.inj h
        exact ⟨rfl, hcloser, List.eq_cons_of_mem_head? hhead⟩
      · cases h
    · next hcloser =>
      exact Or.inr (Or.inr ⟨rfl, by simpa using hcloser, (Option.some.inj h).symm⟩)

theorem scanStep_of_plain {c : Char} (hopener : closer? c = none) (hcloser : isCloser c = false)
    (awaited : List Char) : scanStep awaited c = some awaited := by
  simp [scanStep, hopener, hcloser]

theorem scan_cons {c : Char} {cs awaited left : List Char} :
    scan awaited (c :: cs) = some left ↔ ∃ next, scanStep awaited c = some next ∧ scan next cs = some left := by
  unfold scan
  rw [List.foldlM_cons]
  exact Option.bind_eq_some_iff

theorem scan_append {cs ds awaited left left' : List Char} (h : scan awaited cs = some left)
    (h' : scan left ds = some left') : scan awaited (cs ++ ds) = some left' := by
  unfold scan at h h' ⊢
  rw [List.foldlM_append, h]
  exact h'

/-- Brackets that are to be closed further out do not matter. -/
theorem scan_deeper {cs awaited left : List Char} (h : scan awaited cs = some left)
    (outer : List Char) : scan (awaited ++ outer) cs = some (left ++ outer) := by
  induction cs generalizing awaited with
  | nil =>
    obtain rfl : awaited = left := Option.some.inj h
    rfl
  | cons c cs ih =>
    obtain ⟨next, hstep, hrest⟩ := scan_cons.1 h
    refine scan_cons.2 ⟨next ++ outer, ?_, ih hrest⟩
    unfold scanStep
    rcases scanStep_cases hstep with ⟨d, hpair, rfl⟩ | ⟨hpair, hcloser, rfl⟩ | ⟨hpair, hcloser, rfl⟩
    · simp [hpair]
    · simp [hpair, hcloser]
    · simp [hpair, hcloser]

/-- Nested text up to each of the brackets that are to be closed, and behind the last one. -/
def Closes : (awaited : List Char) → List Char → Prop
  | [], cs => Nested cs
  | d :: awaited, cs => ∃ inner rest, cs = inner ++ d :: rest ∧ Nested inner ∧ Closes awaited rest

theorem Closes.cons {awaited cs : List Char} {c : Char} (hopener : closer? c = none)
    (hcloser : isCloser c = false) (h : Closes awaited cs) : Closes awaited (c :: cs) := by
  cases awaited with
  | nil => exact Nested.plain hopener hcloser h
  | cons d awaited =>
    obtain ⟨inner, rest, rfl, hinner, hrest⟩ := h
    exact ⟨c :: inner, rest, rfl, Nested.plain hopener hcloser hinner, hrest⟩

theorem Closes.enclose {awaited inner cs : List Char} {c d : Char} (hpair : closer? c = some d)
    (hinner : Nested inner) (h : Closes awaited cs) : Closes awaited (c :: (inner ++ d :: cs)) := by
  cases awaited with
  | nil => exact Nested.enclosed hpair hinner h
  | cons e awaited =>
    obtain ⟨inner', rest, rfl, hinner', hrest⟩ := h
    exact ⟨c :: (inner ++ d :: inner'), rest, by simp, Nested.enclosed hpair hinner hinner', hrest⟩

theorem closes_of_scan {cs awaited : List Char} (h : scan awaited cs = some []) :
    Closes awaited cs := by
  induction cs generalizing awaited with
  | nil =>
    obtain rfl : awaited = [] := Option.some.inj h
    exact Nested.nil
  | cons c cs ih =>
    obtain ⟨next, hstep, hrest⟩ := scan_cons.1 h
    have hcloses := ih hrest
    rcases scanStep_cases hstep with ⟨d, hpair, rfl⟩ | ⟨_, _, rfl⟩ | ⟨hpair, hcloser, rfl⟩
    · obtain ⟨inner, rest, rfl, hinner, hcloses⟩ := hcloses
      exact hcloses.enclose hpair hinner
    · exact ⟨[], cs, rfl, Nested.nil, hcloses⟩
    · exact hcloses.cons hpair hcloser

/-- **What is scanned to the end is nested.** -/
theorem nested_of_scan {cs : List Char} (h : scan [] cs = some []) : Nested cs := closes_of_scan h

/-! ## Neat texts -/

/-- A text without line ends that prints and closes its literals. Its brackets come to have `behind` to be
closed when there was `before`. -/
structure Neat (cs before behind : List Char) : Prop where
  prints : ∀ c ∈ cs, ' ' ≤ c ∧ c ≤ '~'
  closed : cs.foldl Mode.next .code = .code
  scanned : scan before (outside .code cs) = some behind

/-- Whether a text is neat. -/
def isNeat (cs before behind : List Char) : Bool :=
  cs.all (fun c => ' ' ≤ c && c ≤ '~') && cs.foldl Mode.next .code == .code &&
    scan before (outside .code cs) == some behind

/-- A character that prints and is neither a quote nor a bracket. -/
def isPlain (c : Char) : Bool :=
  ' ' ≤ c && c ≤ '~' && c ≠ '"' && (closer? c).isNone && !isCloser c

variable {cs ds before behind further : List Char}

theorem neat_of_isNeat (before behind : List Char) (h : isNeat cs before behind = true)
    (outer : List Char) :
    Neat cs (before ++ outer) (behind ++ outer) := by
  simp only [isNeat, Bool.and_eq_true, List.all_eq_true, decide_eq_true_eq, beq_iff_eq] at h
  exact ⟨h.1.1, h.1.2, scan_deeper h.2 outer⟩

theorem neat_nil (awaited : List Char) : Neat [] awaited awaited := ⟨by simp, rfl, rfl⟩

theorem Neat.append (h : Neat cs before behind) (h' : Neat ds behind further) :
    Neat (cs ++ ds) before further where
  prints := by
    intro c hc
    exact (List.mem_append.1 hc).elim (h.prints c) (h'.prints c)
  closed := by rw [List.foldl_append, h.closed, h'.closed]
  scanned := by
    rw [outside_append, h.closed]
    exact scan_append h.scanned h'.scanned

theorem neat_of_plain (h : ∀ c ∈ cs, isPlain c = true) (awaited : List Char) :
    Neat cs awaited awaited := by
  induction cs with
  | nil => exact neat_nil awaited
  | cons c cs ih =>
    obtain ⟨hc, hcs⟩ := List.forall_mem_cons.1 h
    have hrest := ih hcs
    simp only [isPlain, Bool.and_eq_true, decide_eq_true_eq, Option.isNone_iff_eq_none,
      Bool.not_eq_true'] at hc
    obtain ⟨⟨⟨hprints, hquote⟩, hopener⟩, hcloser⟩ := hc
    have hnext : Mode.next .code c = .code := if_neg hquote
    refine ⟨List.forall_mem_cons.2 ⟨hprints, hrest.prints⟩, ?_, ?_⟩
    · rw [List.foldl_cons, hnext, hrest.closed]
    · rw [outside, if_pos ⟨rfl, hquote⟩, hnext]
      exact scan_cons.2 ⟨awaited, scanStep_of_plain hopener hcloser awaited, hrest.scanned⟩

/-! ## Literals -/

theorem hexDigit_mem (n : Nat) : hexDigit n ∈ "0123456789abcdef".toList := by
  have hdigits : ∀ k < 16, "0123456789abcdef".toList.getD k '0' ∈ "0123456789abcdef".toList := by decide
  exact hdigits (n % 16) (Nat.mod_lt n (by decide))

theorem mem_hexDigits {width n : Nat} {c : Char} (h : c ∈ hexDigits width n) :
    c ∈ "0123456789abcdef".toList := by
  induction width generalizing n with
  | zero => cases h
  | succ width ih =>
    rcases List.mem_append.1 h with h | h
    · exact ih h
    · rw [List.mem_singleton.1 h]
      exact hexDigit_mem n

/-- Text within a literal: it prints, and a reader who begins in the literal is still in it behind the
text. -/
structure Within (cs : List Char) : Prop where
  prints : ∀ c ∈ cs, ' ' ≤ c ∧ c ≤ '~'
  stays : cs.foldl Mode.next .literal = .literal
  hidden : outside .literal cs = []

theorem within_nil : Within [] := ⟨by simp, rfl, rfl⟩

theorem Within.append (h : Within cs) (h' : Within ds) : Within (cs ++ ds) where
  prints := by
    intro c hc
    exact (List.mem_append.1 hc).elim (h.prints c) (h'.prints c)
  stays := by rw [List.foldl_append, h.stays, h'.stays]
  hidden := by rw [outside_append, h.hidden, h.stays, h'.hidden, List.append_nil]

theorem within_flatMap {α : Type} {f : α → List Char} (as : List α) (h : ∀ a ∈ as, Within (f a)) :
    Within (as.flatMap f) := by
  induction as with
  | nil => exact within_nil
  | cons a as ih =>
    obtain ⟨ha, has⟩ := List.forall_mem_cons.1 h
    rw [List.flatMap_cons]
    exact ha.append (ih has)

theorem within_of_ordinary {c : Char} (hprints : ' ' ≤ c ∧ c ≤ '~') (hquote : c ≠ '"')
    (hbackslash : c ≠ '\\') : Within [c] := by
  have hnext : Mode.next .literal c = .literal := (if_neg hquote).trans (if_neg hbackslash)
  exact ⟨by simpa using hprints, hnext, rfl⟩

theorem within_of_escaped {c : Char} (hprints : ' ' ≤ c ∧ c ≤ '~') : Within ['\\', c] :=
  ⟨List.forall_mem_cons.2 ⟨by decide, by simpa using hprints⟩, rfl, rfl⟩

theorem within_unit (u : Nat) : Within ('\\' :: 'u' :: hexDigits 4 u) := by
  have hdigits : ∀ c ∈ "0123456789abcdef".toList, (' ' ≤ c ∧ c ≤ '~') ∧ c ≠ '"' ∧ c ≠ '\\' :=
    List.forall_iff_forall_mem.1 (by decide)
  have hrest : Within (hexDigits 4 u) := by
    rw [← List.flatMap_singleton' (hexDigits 4 u)]
    refine within_flatMap _ fun c hc => ?_
    obtain ⟨hprints, hquote, hbackslash⟩ := hdigits c (mem_hexDigits hc)
    exact within_of_ordinary hprints hquote hbackslash
  exact (within_of_escaped (c := 'u') (by decide)).append hrest

theorem within_literalChar (c : Char) : Within (literalChar c) := by
  unfold literalChar
  split
  · next h =>
    simp only [Bool.or_eq_true, decide_eq_true_eq] at h
    refine within_of_escaped ?_
    rcases h with rfl | rfl <;> decide
  next hspecial =>
  iterate 5
    split
    · exact within_of_escaped (by decide)
  split
  · next hprints =>
    simp only [Bool.or_eq_true, decide_eq_true_eq, not_or] at hspecial
    simp only [Bool.and_eq_true, decide_eq_true_eq] at hprints
    exact within_of_ordinary hprints hspecial.1 hspecial.2
  · exact within_flatMap _ fun u _ => within_unit u

/-- **A literal is neat, whatever it holds.** -/
theorem neat_literal (s : String) (awaited : List Char) :
    Neat (literal s).toList awaited awaited := by
  have hchars := within_flatMap s.toList fun c _ => within_literalChar c
  have hopen : Mode.next .code '"' = .literal := rfl
  have hclose : Mode.next .literal '"' = .code := rfl
  rw [literal, String.toList_ofList]
  refine ⟨?_, ?_, ?_⟩
  · intro c hc
    rcases List.mem_cons.1 hc with rfl | hc
    · decide
    · rcases List.mem_append.1 hc with hc | hc
      · exact hchars.prints c hc
      · rw [List.mem_singleton.1 hc]
        decide
  · rw [List.cons_append, List.foldl_cons, hopen, List.foldl_append, hchars.stays]
    exact hclose
  · rw [List.cons_append, outside, if_neg (by simp), hopen, outside_append, hchars.hidden, hchars.stays]
    rfl

theorem neat_literalOrNull (text : Option String) (awaited : List Char) :
    Neat (literalOrNull text).toList awaited awaited := by
  cases text with
  | none => exact neat_of_plain (List.all_eq_true.1 (by decide)) awaited
  | some s => exact neat_literal s awaited

/-! ## Numbers -/

theorem isPlain_of_isDigit {c : Char} (h : c.isDigit = true) : isPlain c = true := by
  rw [Char.isDigit_iff_toNat] at h
  have hdigits : ∀ n < 58, 48 ≤ n → isPlain (Char.ofNat n) = true := by decide
  have hplain := hdigits c.toNat (Nat.lt_succ_of_le h.2) h.1
  rwa [Char.ofNat_toNat] at hplain

theorem neat_int (n : Int) (awaited : List Char) : Neat (toString n).toList awaited awaited := by
  refine neat_of_plain (fun c hc => ?_) awaited
  rcases isDigit_or_minus_of_mem_int hc with hdigit | rfl
  · exact isPlain_of_isDigit hdigit
  · decide

end ArrowMachine.Text
