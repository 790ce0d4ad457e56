import ArrowMachine.Rule.Position
import ArrowMachine.Text.Blank
import ArrowMachine.Text.Quoted

/-!
The tokens of the rule language.

What the next characters mean depends on what may stand there: `a` is a name where a state is expected
and a symbol where a label is, and the dot is a mark, a symbol or part of one. So `munch?` reads one
given kind of token, and `lex` tries the kinds that are expected. When none of them fits, `strayToken?`
finds the token that stands there regardless, for the message.
-/
namespace ArrowMachine.Rule

open ArrowMachine.Text

/-- The kinds of token. -/
inductive Terminal where
  | name | symbol | regex | mark | star | colon | comma | less | lpar | lsqb | minus | more | rpar
  | rsqb | semicolon | finish
  deriving DecidableEq, Repr

namespace Terminal

/-- What a message calls a kind of token. -/
def title : Terminal → String
  | name => "NAME"
  | symbol => "SYMBOL"
  | regex => "REGEX"
  | mark => "INITIAL_MARK"
  | star => "STAR"
  | colon => "COLON"
  | comma => "COMMA"
  | less => "LESSTHAN"
  | lpar => "LPAR"
  | lsqb => "LSQB"
  | minus => "MINUS"
  | more => "MORETHAN"
  | rpar => "RPAR"
  | rsqb => "RSQB"
  | semicolon => "SEMICOLON"
  | finish => "$END"

/-- The character of a token that is always the same. -/
def char? : Terminal → Option Char
  | mark => some '.'
  | star => some '*'
  | colon => some ':'
  | comma => some ','
  | less => some '<'
  | lpar => some '('
  | lsqb => some '['
  | minus => some '-'
  | more => some '>'
  | rpar => some ')'
  | rsqb => some ']'
  | semicolon => some ';'
  | name | symbol | regex | finish => none

/-- The tokens of one character that cut a text wherever they stand. -/
def cutters : List Terminal :=
  [colon, comma, less, lpar, lsqb, minus, more, rpar, rsqb, semicolon]

end Terminal

def isNameChar (c : Char) : Bool := c.isAlphanum || c = '_'

/-- Symbols hold anything but blanks and the characters that rules are built with. -/
def isSymbolChar (c : Char) : Bool :=
  !(isBlank c || ['[', ']', ',', ':', ';', '<', '>', '(', ')', '-', '#'].contains c)

/-- The body of a pattern up to its closing slash, and what follows. A backslash keeps the next
character, whatever it is, from ending the pattern; a line feed may not stand in it. -/
def regexBody : List Char → Option (List Char × List Char)
  | [] => none
  | '/' :: cs => some ([], cs)
  | '\\' :: c :: cs =>
    if c = '\n' then none else (regexBody cs).map fun r => ('\\' :: c :: r.1, r.2)
  | c :: cs =>
    if c = '\n' || c = '\\' then none else (regexBody cs).map fun r => (c :: r.1, r.2)

/-- Splits a nonempty run of characters off a text. -/
def run? (ok : Char → Bool) (cs : List Char) : Option (List Char × List Char) :=
  match cs.takeWhile ok with
  | [] => none
  | taken => some (taken, cs.dropWhile ok)

/-- Reads a token of the given kind: its text and what follows. -/
def munch? (kind : Terminal) (cs : List Char) : Option (List Char × List Char) :=
  match kind with
  | .name => run? isNameChar cs
  | .symbol => run? isSymbolChar cs
  | .regex =>
    match cs with
    | '/' :: rest =>
      match regexBody rest with
      | some (c :: body, after) => some ('/' :: c :: body ++ ['/'], after)
      | _ => none
    | _ => none
  | .finish => none
  | kind =>
    match cs with
    | c :: rest => if kind.char? = some c then some ([c], rest) else none
    | [] => none

structure Token where
  kind : Terminal
  text : String
  pos : Position
  deriving DecidableEq, Repr

/-- Why a text is no list of rules. -/
inductive SyntaxFault where
  | unexpectedToken (token : Token)
  | unexpectedChar (c : Char) (pos : Position)
  deriving DecidableEq, Repr

namespace SyntaxFault

def pos : SyntaxFault → Position
  | unexpectedToken t => t.pos
  | unexpectedChar _ p => p

def message : SyntaxFault → String
  | unexpectedToken t =>
    "Unexpected token Token('" ++ t.kind.title ++ "', " ++ quoted t.text ++ ") at line " ++
      toString t.pos.line ++ ", column " ++ toString t.pos.column ++ "."
  | unexpectedChar c p =>
    "No terminal matches '" ++ c.toString ++ "' in the current parser context, at line " ++
      toString p.line ++ " col " ++ toString p.column

end SyntaxFault

/-- The token that stands at the front of a text whatever is expected there: one of the cutters, or
else a symbol as long as can be, which is a mark or a star if it is just that. -/
def strayToken? (cs : List Char) (pos : Position) : Option Token :=
  match Terminal.cutters.find? fun k => (munch? k cs).isSome, cs with
  | some k, c :: _ => some ⟨k, c.toString, pos⟩
  | _, _ =>
    (run? isSymbolChar cs).map fun r =>
      let kind := if r.1 = ['.'] then .mark else if r.1 = ['*'] then .star else .symbol
      ⟨kind, String.ofList r.1, pos⟩

/-- Why a nonempty text does not begin with an expected token. -/
def strayFault (c : Char) (cs : List Char) (pos : Position) : SyntaxFault :=
  match strayToken? (c :: cs) pos with
  | some t => .unexpectedToken t
  | none => .unexpectedChar c pos

theorem regexBody_length {cs : List Char} {r : List Char × List Char} (h : regexBody cs = some r) :
    r.2.length < cs.length := by
  fun_induction regexBody cs generalizing r with
  | case1 => simp at h
  | case2 cs => cases h; simp
  | case3 => simp at h
  | case4 c cs _ ih =>
    obtain ⟨s, hs, rfl⟩ := Option.map_eq_some_iff.1 h
    have := ih hs
    simp; omega
  | case5 => simp at h
  | case6 c cs _ _ _ ih =>
    obtain ⟨s, hs, rfl⟩ := Option.map_eq_some_iff.1 h
    have := ih hs
    simp; omega

theorem run?_length {ok : Char → Bool} {cs : List Char} {r : List Char × List Char}
    (h : run? ok cs = some r) : r.2.length < cs.length := by
  unfold run? at h
  split at h
  · cases h
  · cases h
    have hl := congrArg List.length (List.takeWhile_append_dropWhile (p := ok) (l := cs))
    have hne : (cs.takeWhile ok).length ≠ 0 := by
      intro h0
      simp_all
    simp only [List.length_append] at hl
    show (cs.dropWhile ok).length < cs.length
    omega

theorem munch?_length {kind : Terminal} {cs : List Char} {r : List Char × List Char}
    (h : munch? kind cs = some r) : r.2.length < cs.length := by
  unfold munch? at h
  split at h
  · exact run?_length h
  · exact run?_length h
  · split at h
    · split at h
      · next hb =>
        cases h
        have := regexBody_length hb
        simp at this ⊢
        omega
      · cases h
    · cases h
  · cases h
  · split at h
    · split at h
      · cases h; simp
      · cases h
    · cases h

end ArrowMachine.Rule
