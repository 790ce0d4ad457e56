import ArrowMachine.Text.CodeSet

/-!
White space.

`isBlank` is the wide notion (the Unicode property, with the four information separators), the one
that ends a symbol in the rule language. `isLayout` is the narrow notion: the five characters that may
stand between the tokens of a rule. Every layout character is blank.
-/
namespace ArrowMachine.Text

/-- The white space of Unicode together with U+001C to U+001F. -/
def blanks : CodeSet := .ofRuns [
    (9, 13), (28, 32), (133, 133), (160, 160), (5760, 5760), (8192, 8202), (8232, 8233),
    (8239, 8239), (8287, 8287), (12288, 12288)]

def isBlank (c : Char) : Bool := blanks.contains c

/-- Space, tab, form feed, carriage return and line feed. -/
def isLayout (c : Char) : Bool :=
  c = ' ' || c = '\t' || c = '\x0c' || c = '\r' || c = '\n'

theorem isBlank_of_isLayout {c : Char} (h : isLayout c = true) : isBlank c = true := by
  simp only [isLayout, Bool.or_eq_true, decide_eq_true_eq] at h
  rcases h with (((rfl | rfl) | rfl) | rfl) | rfl <;> decide

end ArrowMachine.Text
