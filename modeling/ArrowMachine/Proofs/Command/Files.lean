import ArrowMachine.Command.System
import Mathlib.Data.List.Basic

/-!
What a system does to files.

Files are looked at from outside (`Files`): what is in the file that a path leads to. `System.Keeps` says what is
relied on, and a shelf of files is a system that keeps to it.
-/
namespace ArrowMachine.Command

variable {W : Type}

theorem bind_run {α β : Type} (x : StateM W α) (f : α → StateM W β) (w : W) :
    (x >>= f) w = f (x w).1 (x w).2 := rfl

/-- How the files of a world are looked at. -/
structure Files (W : Type) where
  Content : Type
  /-- What is in the file that a path leads to, if it leads to a file. -/
  at? : W → String → Option Content
  /-- The text that a file holds, if it holds one. -/
  text? : Content → Option String
  /-- Two paths may lead to one file. -/
  Meet : String → String → Prop

namespace Files

variable (files : Files W)

/-- The text of the file that a path leads to. -/
def textAt? (w : W) (path : String) : Option String := (files.at? w path).bind files.text?

/-- Every file is as it was, but for those that some paths lead to. -/
def SameBut (paths : List String) (w w' : W) : Prop :=
  ∀ other, (∀ p ∈ paths, ¬ files.Meet p other) → files.at? w' other = files.at? w other

variable {files} {paths more : List String} {w w' w'' : W}

theorem SameBut.refl (paths : List String) (w : W) : files.SameBut paths w w := fun _ _ => rfl

theorem SameBut.mono (h : files.SameBut paths w w') (hsub : paths ⊆ more) : files.SameBut more w w' :=
  fun other hother => h other fun p hp => hother p (hsub hp)

theorem SameBut.trans (h : files.SameBut paths w w') (h' : files.SameBut paths w' w'') :
    files.SameBut paths w w'' := fun other hother => (h' other hother).trans (h other hother)

end Files

/-- What the system does to files. Reading changes nothing; a text that is written is the whole text of its
file; and writing and drawing change only the files that they are given paths for, of which a graph has two, one
of them for its format. -/
structure System.Keeps (sys : System (StateM W)) (files : Files W) : Prop where
  read : ∀ path w, (sys.read path w).2 = w
  write : ∀ path text w, (sys.write path text w).1 = .ok () →
    files.textAt? (sys.write path text w).2 path = some text
  write_others : ∀ path text w, files.SameBut [path] w (sys.write path text w).2
  outline_others : ∀ plotter ∈ sys.plotter?, ∀ o path w,
    files.SameBut [path] w (plotter.drawOutline o path w).2
  graph_others : ∀ plotter ∈ sys.plotter?, ∀ g path format w,
    files.SameBut [path, path ++ "." ++ format] w (plotter.drawGraph g path format w).2

/-- Pictures are drawn whenever there is something to draw with. -/
def System.Draws (sys : System (StateM W)) : Prop :=
  ∀ plotter ∈ sys.plotter?, (∀ o path w, (plotter.drawOutline o path w).1 = .ok ()) ∧
    ∀ g path format w, (plotter.drawGraph g path format w).1 = .ok ()

/-! ## A system of its own -/

/-- Files with their paths, the first of a path being the one that is there. -/
abbrev Shelf := List (String × String)

def Shelf.files : Files Shelf where
  Content := String
  at? shelf path := shelf.lookup path
  text? := some
  Meet := Eq

/-- A shelf to read from and to put files on; pictures are empty files. -/
def Shelf.system : System (StateM Shelf) where
  capacity := .ample
  read path shelf := ((shelf.lookup path).elim (.error (.refused "there is no such file")) .ok, shelf)
  write path text shelf := (.ok (), (path, text) :: shelf)
  plotter? := some {
    escape := id
    drawOutline := fun _ path shelf => (.ok (), (path, "") :: shelf)
    drawGraph := fun _ path format shelf => (.ok (), (path ++ "." ++ format, "") :: shelf) }

theorem Shelf.sameBut_cons {paths : List String} {path : String} (hpath : path ∈ paths) (text : String)
    (shelf : Shelf) : Shelf.files.SameBut paths shelf ((path, text) :: shelf) := by
  intro other hother
  have hne : (other == path) = false := by simpa using Ne.symm (hother path hpath)
  change List.lookup other ((path, text) :: shelf) = _
  rw [List.lookup_cons, hne]
  rfl

theorem Shelf.keeps : Shelf.system.Keeps Shelf.files where
  read _ _ := rfl
  write path text shelf _ := by
    change (List.lookup path ((path, text) :: shelf)).bind some = some text
    rw [List.lookup_cons_self]
    rfl
  write_others path text shelf := sameBut_cons (List.mem_singleton_self path) text shelf
  outline_others := by
    rintro _ ⟨⟩ o path shelf
    exact sameBut_cons (List.mem_singleton_self path) "" shelf
  graph_others := by
    rintro _ ⟨⟩ g path format shelf
    exact sameBut_cons (by simp) "" shelf

theorem Shelf.draws : Shelf.system.Draws := by
  rintro _ ⟨⟩
  exact ⟨fun _ _ _ => rfl, fun _ _ _ _ => rfl⟩

end ArrowMachine.Command
