import ArrowMachine.Proofs.Rule.Blaming
import ArrowMachine.Proofs.Text.Lines

/-!
What the message of a refused text quotes.

Every place that a text is refused for is shown with some line of the text, and with its own one if
nothing but line ends breaks lines up to there (`refusal_quotes_lines`). A form feed, or any other
character at which lines are cut although positions do not count it, puts the quotes out of step
(`form_feed_misquotes`).
-/
namespace ArrowMachine

open Text (lines fedLines Whole isLayout)

/-- No problem is without words. -/
theorem Problem.message_ne_empty (problem : Problem) : problem.message ≠ "" := by
  have happend : ∀ {a : String} (b : String), a ≠ "" → a ++ b ≠ "" := by
    intro a b ha
    simp [ha]
  cases problem with
  | unframed | noTransition | noInitial => decide
  | syntaxFault | severalInitial => exact happend _ (by decide)
  | badPattern => exact happend _ (happend _ (happend _ (by decide)))
  | writtenTwice | wildcardTarget => exact happend _ (happend _ (by decide))
  | duplicate | ambiguous => exact happend _ (happend _ (happend _ (happend _ (by decide))))

namespace Refusal

variable {r : Refusal} {source : String} {P : Position → String → Prop}

/-- The places of a refusal as they are shown with the lines of a source. -/
def shownIn (r : Refusal) (source : String) : List String :=
  r.places.filterMap fun p => (r.diagnostic.attach source).placeText? p.place

/-- The problem is told of first, and then the places, if any are shown. -/
theorem textIn_eq (r : Refusal) (source : String) : r.textIn source = r.problem.message ++
    match r.shownIn source with
    | [] => ""
    | shown => "\nDue to:\n" ++ "\n".intercalate shown := by
  have hplaces : (r.diagnostic.attach source).placesText "Due to:\n" =
      match r.shownIn source with
      | [] => ""
      | shown => "Due to:\n" ++ "\n".intercalate shown := by
    unfold Diagnostic.placesText shownIn
    rw [show (r.diagnostic.attach source).places = r.places.map (·.place) from rfl, List.filterMap_map]
    rfl
  unfold textIn Diagnostic.text
  rw [show (r.diagnostic.attach source).message = some r.problem.message from rfl, hplaces]
  have hmessage : r.problem.message.isEmpty = false := by simpa using r.problem.message_ne_empty
  simp only [hmessage]
  cases r.shownIn source with
  | nil => simp
  | cons shown rest =>
    have hheader : "\nDue to:\n" = "\n" ++ "Due to:\n" := by decide
    have hplaces : ("Due to:\n" ++ "\n".intercalate (shown :: rest)).isEmpty = false := by simp
    simp only [hplaces, Bool.false_eq_true, if_false]
    rw [hheader, String.append_assoc, String.append_assoc]

theorem forall₂_shownIn (h : ∀ p ∈ r.places, ∃ shown,
    (r.diagnostic.attach source).placeText? p.place = some shown ∧ P p shown) :
    List.Forall₂ P r.places (r.shownIn source) := by
  unfold shownIn
  generalize r.places = ps at h
  induction ps with
  | nil => exact .nil
  | cons p ps ih =>
    obtain ⟨⟨shown, hshown, hp⟩, hrest⟩ := List.forall_mem_cons.1 h
    rw [List.filterMap_cons, hshown]
    exact .cons hp (ih hrest)

end Refusal

variable {cap : Capacity} {settings : Settings} {source : String} {r : Refusal} {p : Position}

/-- How a place is shown that something stands at: with a line of the text, and if nothing but line ends
breaks lines up to there, with the line that it is in. -/
structure Pointed (source : String) (p : Position) (shown : String) : Prop where
  occupied : Rule.Occupied source.toList p
  quoted : ∃ line ∈ lines source.toList, shown = Diagnostic.quote p line
  quotes : (∀ l ∈ (fedLines source.toList).take p.line, Whole l) → Diagnostic.Quotes source.toList p shown

theorem exists_pointed (d : Diagnostic) (h : Rule.Occupied source.toList p) :
    ∃ shown, (d.attach source).placeText? p.place = some shown ∧ Pointed source p shown := by
  have hoccupied := h
  obtain ⟨c, ⟨before, after, hsource, hp⟩, hc⟩ := h
  have hfeed : c ≠ '\n' := by
    rintro rfl
    cases hc
  have hreturn : c ≠ '\r' := by
    rintro rfl
    cases hc
  obtain ⟨line, hline, hshown⟩ := d.exists_quote hsource hp hfeed
  refine ⟨_, hshown, hoccupied, ⟨line, hline, rfl⟩, fun hwhole => ?_⟩
  obtain ⟨shown, hshown', hquotes⟩ := d.exists_quotes hsource hp hfeed hreturn hwhole
  rw [Option.some.inj (hshown.symm.trans hshown')]
  exact hquotes

/-- **The message of a refused text shows all its places**, in order, each with a line of the text: the
line that the place is in, as far as no other line breaks than line ends come before. -/
theorem refusal_quotes_lines (h : (compile cap settings source).result = .error (.refused r)) :
    ∃ shown : List String, List.Forall₂ (Pointed source) r.places shown ∧
      r.textIn source = r.problem.message ++ if shown = [] then "" else
        "\nDue to:\n" ++ "\n".intercalate shown := by
  refine ⟨r.shownIn source, Refusal.forall₂_shownIn fun p hp => exists_pointed _ ?_, ?_⟩
  · exact Rule.occupied_of_compile h hp
  · rw [r.textIn_eq]
    cases r.shownIn source <;> rfl

/-- Two lines that both mark a state as initial are shown, each with a caret under its mark. -/
theorem two_marks_quoted :
    (compile .ample {} ".a -x> b;\n.c -x> d;").result =
      .error (.refused ⟨.severalInitial ["a", "c"], [⟨1, 1⟩, ⟨2, 1⟩]⟩) ∧
    ∃ shown : List String,
      List.Forall₂ (Pointed ".a -x> b;\n.c -x> d;") [⟨1, 1⟩, ⟨2, 1⟩] shown ∧
      (⟨.severalInitial ["a", "c"], [⟨1, 1⟩, ⟨2, 1⟩]⟩ : Refusal).textIn ".a -x> b;\n.c -x> d;" =
        (Problem.severalInitial ["a", "c"]).message ++ if shown = [] then "" else
          "\nDue to:\n" ++ "\n".intercalate shown := by
  have h : (compile .ample {} ".a -x> b;\n.c -x> d;").result =
      .error (.refused ⟨.severalInitial ["a", "c"], [⟨1, 1⟩, ⟨2, 1⟩]⟩) := by decide +kernel
  exact ⟨h, refusal_quotes_lines h⟩

/-- With a form feed before them, neither is shown with its line: positions count one line less than the
lines that are quoted. -/
theorem form_feed_misquotes :
    ∃ r : Refusal, (compile .ample {} "\x0c.a -x> b;\n.c -x> d;").result = .error (.refused r) ∧
      r.textIn "\x0c.a -x> b;\n.c -x> d;" =
        "Multiple initial states: 'a', 'c'\nDue to:\n- line 1:\n\n ^\n- line 2:\n.a -x> b;\n^" ∧
      List.Forall₂ (fun p shown => ¬ Diagnostic.Quotes "\x0c.a -x> b;\n.c -x> d;".toList p shown)
        r.places ["- line 1:\n\n ^", "- line 2:\n.a -x> b;\n^"] := by
  refine ⟨⟨.severalInitial ["a", "c"], [⟨1, 2⟩, ⟨2, 1⟩]⟩, by decide +kernel, by decide +kernel,
    .cons (fun h => ?_) (.cons (fun h => ?_) .nil)⟩
  · have hquotes : Diagnostic.Quotes "\x0c.a -x> b;\n.c -x> d;".toList ⟨1, 2⟩
        "- line 1:\n\x0c.a -x> b;\n ^" :=
      ⟨"\x0c.a -x> b;\n".toList, [' '], by decide, by decide, by decide, by decide, by decide⟩
    exact absurd (h.unique hquotes) (by decide)
  · have hquotes : Diagnostic.Quotes "\x0c.a -x> b;\n.c -x> d;".toList ⟨2, 1⟩
        "- line 2:\n.c -x> d;\n^" :=
      ⟨".c -x> d;".toList, [], by decide, by decide, by decide, by decide, by decide⟩
    exact absurd (h.unique hquotes) (by decide)

end ArrowMachine
