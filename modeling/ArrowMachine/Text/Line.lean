/-!
Cutting a text into lines.

A line ends at any of ten characters, and a carriage return with a line feed behind it ends one line,
not two. `keptLines` leaves each line its end, so the lines together are the text (`flatten_keptLines`);
`lines` drops the ends.
-/
namespace ArrowMachine.Text

/-- Line feed, vertical tab, form feed, carriage return, the information separators U+001C to U+001E,
next line, line separator and paragraph separator. -/
def isLineBreak (c : Char) : Bool :=
  c = '\n' || c = '\x0b' || c = '\x0c' || c = '\r' || c = '\x1c' || c = '\x1d' || c = '\x1e' ||
    c = '\x85' || c = '\u2028' || c = '\u2029'

/-- Whether a line ends behind `c`, when `rest` follows it. -/
def endsLine (c : Char) (rest : List Char) : Bool :=
  isLineBreak c && !(c = '\r' && rest.head? = some '\n')

/-- The lines of a text, each with its end. -/
def keptLines : List Char → List (List Char)
  | [] => []
  | c :: cs =>
    if endsLine c cs then [c] :: keptLines cs
    else match keptLines cs with
      | [] => [[c]]
      | l :: ls => (c :: l) :: ls

/-- The lines of a text without their ends. -/
def lines (cs : List Char) : List (List Char) :=
  (keptLines cs).map fun l => l.takeWhile (!isLineBreak ·)

/-- The text up to its first line break; all of it, if it has none. -/
def firstLine (cs : List Char) : List Char := cs.takeWhile (!isLineBreak ·)

theorem flatten_keptLines (cs : List Char) : (keptLines cs).flatten = cs := by
  induction cs with
  | nil => rfl
  | cons c cs ih =>
    rw [keptLines]
    split
    · simp [ih]
    · split <;> simp_all

theorem keptLines_ne_nil {cs : List Char} (h : cs ≠ []) : keptLines cs ≠ [] := by
  intro hk
  have := flatten_keptLines cs
  simp_all

end ArrowMachine.Text
