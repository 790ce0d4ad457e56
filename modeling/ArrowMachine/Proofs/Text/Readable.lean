import ArrowMachine.Text.Literal
import Mathlib.Algebra.Group.Nat.Defs
import Mathlib.Data.List.Basic
import Std.Data.String.ToInt

/-!
Texts that can be read off their beginning.

`Readable f g` says that a text which begins with what `f` writes for something tells `g` of it, and where
the part written for it ends, whatever follows. What is written part after part is readable if the parts
are (`Readable.append`), and so is a list, if its end cannot be taken for a member (`Readable.flatMap`).
String literals are readable (`readable_literal`): the characters of a text can be read off one by one,
and none of them is written with a quote in front.
-/
namespace ArrowMachine.Text

variable {α β γ δ : Type} {f : α → List Char} {g : α → β}

/-- A text that begins with what `f` writes for `a` tells `g a` and how it goes on. -/
def Readable (f : α → List Char) (g : α → β) : Prop :=
  ∀ a b u v, f a ++ u = f b ++ v → g a = g b ∧ u = v

namespace Readable

/-- What a reader reads is readable. -/
theorem of_reader (read : List Char → Option (β × List Char))
    (h : ∀ a u, read (f a ++ u) = some (g a, u)) : Readable f g := by
  intro a b u v heq
  have hread := h a u
  rw [heq, h b v] at hread
  exact ⟨(Prod.ext_iff.1 (Option.some.inj hread)).1.symm, (Prod.ext_iff.1 (Option.some.inj hread)).2.symm⟩

theorem const (α : Type) (text : List Char) : Readable (fun _ : α => text) fun _ => () :=
  fun _ _ _ _ h => ⟨rfl, List.append_cancel_left h⟩

theorem append {f' : α → List Char} {g' : α → γ} (h : Readable f g) (h' : Readable f' g') :
    Readable (fun a => f a ++ f' a) fun a => (g a, g' a) := by
  intro a b u v heq
  simp only [List.append_assoc] at heq
  obtain ⟨hfirst, hrest⟩ := h a b _ _ heq
  obtain ⟨hsecond, huv⟩ := h' a b u v hrest
  exact ⟨Prod.ext hfirst hsecond, huv⟩

/-- What can be told from what is told can be told. -/
theorem image (h : Readable f g) {g' : α → γ} (k : β → γ) (hk : ∀ a, k (g a) = g' a) :
    Readable f g' := by
  intro a b u v heq
  obtain ⟨hsame, huv⟩ := h a b u v heq
  exact ⟨by rw [← hk, ← hk, hsame], huv⟩

theorem comp (h : Readable f g) (k : γ → α) : Readable (fun c => f (k c)) fun c => g (k c) :=
  fun c d => h (k c) (k d)

theorem enclosed (h : Readable f g) (before behind : List Char) :
    Readable (fun a => before ++ f a ++ behind) g :=
  (((const α before).append h).append (const α behind)).image (fun x => x.1.2) fun _ => rfl

/-- Members one after the other and an end that no member begins with. -/
theorem flatMap (h : Readable f g) (stop : List Char) (hstop : ∀ a u v, f a ++ u ≠ stop ++ v) :
    Readable (fun as : List α => as.flatMap f ++ stop) (List.map g) := by
  intro as
  induction as with
  | nil =>
    rintro (_ | ⟨b, bs⟩) u v heq
    · exact ⟨rfl, List.append_cancel_left heq⟩
    · simp only [List.flatMap_cons, List.append_assoc] at heq
      exact absurd heq.symm (hstop b _ u)
  | cons a as ih =>
    rintro (_ | ⟨b, bs⟩) u v heq
    · simp only [List.flatMap_cons, List.append_assoc] at heq
      exact absurd heq (hstop a _ v)
    · simp only [List.flatMap_cons, List.append_assoc] at heq
      obtain ⟨hhead, hrest⟩ := h a b _ _ heq
      obtain ⟨htail, huv⟩ := ih bs u v (by simpa only [List.append_assoc] using hrest)
      exact ⟨by rw [List.map_cons, List.map_cons, hhead, htail], huv⟩

/-- What holds no `c` is readable up to a `c`. -/
theorem ended {c : Char} (hc : ∀ a, c ∉ f a) (hf : ∀ a b, f a = f b → g a = g b) :
    Readable (fun a => f a ++ [c]) g := by
  have hsplit : ∀ xs ys u v : List Char, c ∉ xs → c ∉ ys → xs ++ c :: u = ys ++ c :: v →
      xs = ys ∧ u = v := by
    intro xs
    induction xs with
    | nil =>
      rintro (_ | ⟨y, ys⟩) u v _ hys heq
      · exact ⟨rfl, (List.cons.inj heq).2⟩
      · exact absurd ((List.cons.inj heq).1 ▸ List.mem_cons_self) hys
    | cons x xs ih =>
      rintro (_ | ⟨y, ys⟩) u v hxs hys heq
      · exact absurd ((List.cons.inj heq).1 ▸ List.mem_cons_self) hxs
      · obtain ⟨rfl, htail⟩ := List.cons.inj heq
        obtain ⟨rfl, huv⟩ := ih ys u v (fun h => hxs (List.mem_cons_of_mem _ h))
          (fun h => hys (List.mem_cons_of_mem _ h)) htail
        exact ⟨rfl, huv⟩
  intro a b u v heq
  simp only [List.append_assoc] at heq
  obtain ⟨hsame, huv⟩ := hsplit (f a) (f b) u v (hc a) (hc b) heq
  exact ⟨hf a b hsame, huv⟩

end Readable

/-! ## Words that are joined -/

theorem toList_intercalate_cons (sep s : String) (ss : List String) :
    (sep.intercalate (s :: ss)).toList = s.toList ++ ss.flatMap fun t => sep.toList ++ t.toList := by
  induction ss generalizing s with
  | nil => simp
  | cons t ss ih =>
    rw [String.intercalate_cons_cons, String.toList_append, String.toList_append, ih,
      List.flatMap_cons, List.append_assoc, List.append_assoc]

/-! ## Literals -/

/-- What a hexadecimal digit is worth. -/
def hexValue (c : Char) : Nat := "0123456789abcdef".toList.idxOf c

/-- The number that hexadecimal digits make up. -/
def hexNumber (cs : List Char) : Nat := cs.foldl (fun n c => 16 * n + hexValue c) 0

theorem hexValue_hexDigit (n : Nat) : hexValue (hexDigit n) = n % 16 := by
  have hdigits : ∀ k < 16, hexValue ("0123456789abcdef".toList.getD k '0') = k := by decide
  exact hdigits (n % 16) (Nat.mod_lt n (by decide))

theorem hexNumber_hexDigits (width n : Nat) : hexNumber (hexDigits width n) = n % 16 ^ width := by
  induction width generalizing n with
  | zero => simp [hexDigits, hexNumber, Nat.mod_one]
  | succ width ih =>
    have hfold : hexNumber (hexDigits width (n / 16) ++ [hexDigit n]) =
        16 * hexNumber (hexDigits width (n / 16)) + hexValue (hexDigit n) := by
      rw [hexNumber, List.foldl_append]
      rfl
    rw [hexDigits, hfold, ih, hexValue_hexDigit, Nat.pow_succ, Nat.mul_comm (16 ^ width),
      Nat.mod_mul]
    omega

theorem length_hexDigits (width n : Nat) : (hexDigits width n).length = width := by
  induction width generalizing n with
  | zero => rfl
  | succ width ih => rw [hexDigits, List.length_append, ih, List.length_singleton]

theorem take_hexDigits {n : Nat} (hn : n < 0x10000) (cs : List Char) :
    hexNumber ((hexDigits 4 n ++ cs).take 4) = n ∧ (hexDigits 4 n ++ cs).drop 4 = cs := by
  rw [List.take_left' (length_hexDigits 4 n), List.drop_left' (length_hexDigits 4 n),
    hexNumber_hexDigits]
  exact ⟨Nat.mod_eq_of_lt hn, rfl⟩

/-- Reads the character whose UTF-16 units begin behind the first `\u`. -/
def readUnits (cs : List Char) : Char × List Char :=
  let unit := hexNumber (cs.take 4)
  let rest := cs.drop 4
  if 0xd800 ≤ unit ∧ unit < 0xdc00 then
    let second := hexNumber ((rest.drop 2).take 4)
    (Char.ofNat (0x10000 + (unit - 0xd800) * 0x400 + (second - 0xdc00)), (rest.drop 2).drop 4)
  else (Char.ofNat unit, rest)

/-- Reads what stands behind a backslash. -/
def readEscape : List Char → Option (Char × List Char)
  | [] => none
  | 'u' :: cs => some (readUnits cs)
  | 'n' :: cs => some ('\n', cs)
  | 'r' :: cs => some ('\r', cs)
  | 't' :: cs => some ('\t', cs)
  | 'f' :: cs => some ('\x0c', cs)
  | 'b' :: cs => some ('\x08', cs)
  | c :: cs => some (c, cs)

/-- Reads a character as it stands in a literal. -/
def readLiteralChar : List Char → Option (Char × List Char)
  | [] => none
  | c :: cs => if c = '\\' then readEscape cs else some (c, cs)

theorem readUnits_units16 (c : Char) (u : List Char) :
    ∃ cs, (units16 c).flatMap (fun n => '\\' :: 'u' :: hexDigits 4 n) ++ u = '\\' :: 'u' :: cs ∧
      readUnits cs = (c, u) := by
  have hvalid : c.toNat < 0xd800 ∨ 0xdfff < c.toNat ∧ c.toNat < 0x110000 := c.valid
  unfold units16
  split
  · next hshort =>
    obtain ⟨hunit, hrest⟩ := take_hexDigits hshort u
    refine ⟨hexDigits 4 c.toNat ++ u, by simp, ?_⟩
    have hplain : ¬ (0xd800 ≤ c.toNat ∧ c.toNat < 0xdc00) := by omega
    simp only [readUnits, hunit, hrest, if_neg hplain, Char.ofNat_toNat]
  · next hlong =>
    obtain ⟨hsecond, hrest⟩ :=
      take_hexDigits (n := 0xdc00 + (c.toNat - 0x10000) % 0x400) (by omega) u
    obtain ⟨hfirst, hdrop⟩ := take_hexDigits (n := 0xd800 + (c.toNat - 0x10000) / 0x400) (by omega)
      ('\\' :: 'u' :: (hexDigits 4 (0xdc00 + (c.toNat - 0x10000) % 0x400) ++ u))
    refine ⟨hexDigits 4 (0xd800 + (c.toNat - 0x10000) / 0x400) ++
      '\\' :: 'u' :: (hexDigits 4 (0xdc00 + (c.toNat - 0x10000) % 0x400) ++ u), by simp, ?_⟩
    have hhigh : 0xd800 ≤ 0xd800 + (c.toNat - 0x10000) / 0x400 ∧
        0xd800 + (c.toNat - 0x10000) / 0x400 < 0xdc00 := by omega
    have hnumber : 0x10000 + (0xd800 + (c.toNat - 0x10000) / 0x400 - 0xd800) * 0x400 +
        (0xdc00 + (c.toNat - 0x10000) % 0x400 - 0xdc00) = c.toNat := by omega
    simp only [readUnits, hfirst, hdrop, if_pos hhigh, List.drop_succ_cons, List.drop_zero, hsecond,
      hrest, hnumber, Char.ofNat_toNat]

theorem readLiteralChar_literalChar (c : Char) (u : List Char) :
    readLiteralChar (literalChar c ++ u) = some (c, u) := by
  unfold literalChar
  split
  · next h =>
    rcases (by simpa using h : c = '"' ∨ c = '\\') with rfl | rfl
    · rfl
    · rfl
  · next hmarks =>
    split_ifs with hn hr ht hf hb hplain
    · subst hn; rfl
    · subst hr; rfl
    · subst ht; rfl
    · subst hf; rfl
    · subst hb; rfl
    · have hbackslash : c ≠ '\\' := by
        rintro rfl
        simp at hmarks
      exact if_neg hbackslash
    · obtain ⟨cs, hcs, hread⟩ := readUnits_units16 c u
      rw [hcs]
      exact congrArg some hread

/-- What a character is written with in a literal does not begin with a quote. -/
theorem literalChar_ne_quote (c : Char) (u v : List Char) : literalChar c ++ u ≠ '"' :: v := by
  unfold literalChar
  split
  · simp
  · next hmarks =>
    split_ifs
    · simp
    · simp
    · simp
    · simp
    · simp
    · rintro h
      obtain rfl : c = '"' := (List.cons.inj h).1
      simp at hmarks
    · obtain ⟨cs, hcs, _⟩ := readUnits_units16 c u
      rw [hcs]
      simp

/-- **Literals are readable.** -/
theorem readable_literal : Readable (fun s : String => (literal s).toList) id := by
  have hchars := (Readable.of_reader readLiteralChar (g := id) readLiteralChar_literalChar).flatMap
    ['"'] literalChar_ne_quote
  have h : Readable _ id := ((hchars.comp String.toList).enclosed ['"'] []).image String.ofList
    fun s => by simp
  simpa [literal] using h

theorem readable_literalOrNull :
    Readable (fun text : Option String => (literalOrNull text).toList) id := by
  have hnull : ∀ (s : String) (u v : List Char), (literal s).toList ++ u ≠ "null".toList ++ v := by
    intro s u v
    simp [literal]
  rintro (_ | s) (_ | t) u v h
  · exact ⟨rfl, List.append_cancel_left h⟩
  · exact absurd h.symm (hnull t v u)
  · exact absurd h (hnull s u v)
  · obtain ⟨hsame, huv⟩ := readable_literal s t u v h
    exact ⟨congrArg some hsame, huv⟩

/-! ## Numbers -/

/-- Numbers are written with digits, perhaps behind a minus sign. -/
theorem isDigit_or_minus_of_mem_int {n : Int} {c : Char} (h : c ∈ (toString n).toList) :
    c.isDigit = true ∨ c = '-' := by
  have hnat : ∀ n : Nat, c ∈ n.repr.toList → c.isDigit = true := by
    intro n hmem
    rw [Nat.toList_repr] at hmem
    exact Nat.isDigit_of_mem_toDigits (by decide) (by decide) hmem
  rw [Int.toString_eq_repr, Int.repr_eq_if] at h
  split at h
  · exact Or.inl (hnat _ h)
  · rw [String.toList_append] at h
    rcases List.mem_append.1 h with hminus | h
    · exact Or.inr (by simpa using hminus)
    · exact Or.inl (hnat _ h)

/-- Numbers are readable up to a character that is no digit and no sign. -/
theorem readable_int {c : Char} (hdigit : c.isDigit = false) (hsign : c ≠ '-') :
    Readable (fun n : Int => (toString n).toList ++ [c]) id := by
  refine .ended (fun n hmem => ?_) fun m n h => Int.repr_injective (String.toList_inj.1 h)
  rcases isDigit_or_minus_of_mem_int hmem with h | h
  · rw [h] at hdigit
    cases hdigit
  · exact hsign h

end ArrowMachine.Text
