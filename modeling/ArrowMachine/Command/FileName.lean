/-!
Names of files: the stem that a program is called by.
-/
namespace ArrowMachine.Command

/-- The part of a path behind its last slash. -/
def baseName (path : List Char) : List Char := (path.reverse.takeWhile (· ≠ '/')).reverse

/-- A file name less its extension. Dots at the front of a name begin no extension. -/
def stem (name : List Char) : List Char :=
  let front := ((name.reverse.dropWhile (· ≠ '.')).drop 1).reverse
  if front.any (· ≠ '.') then front else name

end ArrowMachine.Command
