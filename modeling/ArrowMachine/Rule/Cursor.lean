import ArrowMachine.Rule.Token

/-!
A place in a source text, from which tokens are taken.

`Cursor.take` skips layout and takes one token of the expected kinds. What it returns comes with the
proof that less text is left, which is why reading ends.
-/
namespace ArrowMachine.Rule

open ArrowMachine.Text

structure Cursor where
  rest : List Char
  pos : Position
  /-- Where the last token was, if there was one. -/
  last : Option Position
  deriving DecidableEq, Repr

/-- Something read, with the cursor behind it and less than `n` characters left. -/
structure Read (α : Type) (n : Nat) where
  value : α
  after : Cursor
  shorter : after.rest.length < n

def Read.widen {α : Type} {m n : Nat} (r : Read α m) (h : m ≤ n) : Read α n :=
  ⟨r.value, r.after, Nat.lt_of_lt_of_le r.shorter h⟩

/-- Drops blanks and comments. `inComment` is set behind the sign that begins a comment. -/
def skipLayout (inComment : Bool) : List Char → Position → List Char × Position
  | [], p => ([], p)
  | c :: cs, p =>
    if inComment then skipLayout (c ≠ '\n') cs (p.next c)
    else if isLayout c then skipLayout false cs (p.next c)
    else if c = '#' then skipLayout true cs (p.next c)
    else (c :: cs, p)

theorem skipLayout_length (inComment : Bool) (cs : List Char) (p : Position) :
    (skipLayout inComment cs p).1.length ≤ cs.length := by
  induction cs generalizing inComment p with
  | nil => simp [skipLayout]
  | cons c cs ih =>
    rw [skipLayout]
    split
    · exact Nat.le_succ_of_le (ih _ _)
    · split
      · exact Nat.le_succ_of_le (ih _ _)
      · split
        · exact Nat.le_succ_of_le (ih _ _)
        · exact Nat.le_refl _

namespace Cursor

def ofText (cs : List Char) : Cursor := ⟨cs, .start, none⟩

/-- The cursor in front of the next token. -/
def skip (c : Cursor) : Cursor :=
  let r := skipLayout false c.rest c.pos
  { c with rest := r.1, pos := r.2 }

theorem skip_length (c : Cursor) : c.skip.rest.length ≤ c.rest.length := skipLayout_length ..

/-- The token that stands for the end of the text, at the place of the last one. -/
def finish (c : Cursor) : Token := ⟨.finish, "", c.last.getD .start⟩

/-- The first of the expected kinds that fits the text, with the text taken and what follows. -/
def fitting? (expected : List Terminal) (cs : List Char) :
    Option (Terminal × List Char × List Char) :=
  expected.findSome? fun k => (munch? k cs).map (k, ·)

theorem fitting?_length {expected : List Terminal} {cs : List Char}
    {r : Terminal × List Char × List Char} (h : fitting? expected cs = some r) :
    r.2.2.length < cs.length := by
  obtain ⟨k, _, hk⟩ := List.exists_of_findSome?_eq_some h
  obtain ⟨m, hm, rfl⟩ := Option.map_eq_some_iff.1 hk
  exact munch?_length hm

/-- Takes a token of one of the expected kinds. -/
def take (expected : List Terminal) (c : Cursor) : Except SyntaxFault (Read Token c.rest.length) :=
  match h : fitting? expected c.skip.rest with
  | some (kind, taken, rest) =>
    .ok ⟨⟨kind, String.ofList taken, c.skip.pos⟩, ⟨rest, c.skip.pos.advance taken, some c.skip.pos⟩,
      Nat.lt_of_lt_of_le (fitting?_length h) c.skip_length⟩
  | none =>
    match c.skip.rest with
    | [] => .error (.unexpectedToken c.finish)
    | d :: ds => .error (strayFault d ds c.skip.pos)

/-- Whether nothing but layout is left. -/
def atEnd (c : Cursor) : Bool := c.skip.rest.isEmpty

end Cursor

end ArrowMachine.Rule
