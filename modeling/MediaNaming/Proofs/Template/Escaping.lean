import MediaNaming.Proofs.Template.Composition
import MediaNaming.Proofs.Template.Conditionals

/-
Escaped text. A template shows it as it was, the scan for a group passes over it, and a conditional
adds nothing to it; so any text can stand in a template, in a group and outside.
-/
namespace MediaNaming

def Text.escape : Text → Text
  | [] => []
  | c :: t => '\\' :: c :: escape t

theorem Text.length_escape (t : Text) : t.escape.length = 2 * t.length := by
  induction t with
  | nil => rfl
  | cons c t ih =>
    simp only [escape, List.length_cons, ih]
    omega

theorem balanced_escape (t : Text) : Balanced t.escape := by
  induction t with
  | nil => exact .nil
  | cons c t ih => exact .escaped c ih

namespace Directive

theorem spellsAll_escape (t : Text) : SpellsAll t.escape (t.map literal) := by
  induction t with
  | nil => exact .nil
  | cons c t ih => exact .cons (.escape c (Text.escape t)) ih

theorem showAll_literals (fields : Fields) (t : Text) : showAll fields (t.map literal) = t := by
  induction t with
  | nil => rfl
  | cons c t ih => simp [showAll, render, Rendered.shown, ih]

/-- A conditional group on escaped text is as long again as what it would show. -/
theorem suppressed_escape (fields : Fields) (t : Text) :
    (group t.escape (t.map literal)).render fields = .suppressed := by
  have nothing : AddsNothing t.escape t := by
    cases t with
    | nil => exact Or.inl rfl
    | cons c t =>
      have double := Text.length_escape (c :: t)
      simp only [List.length_cons] at double
      right
      simp only [List.length_cons]
      omega
  rw [render, showAll_literals]
  exact nothing.suppressed

end Directive
open Directive

theorem escape_faithful (t : Text) (fields : Fields) (cache : GroupCache) :
    (renderTemplate t.escape fields cache).1 = .ok t ∧
      (∀ before rest, ∃ g,
        (cache.extract (before ++ '(' :: t.escape ++ ')' :: rest) before.byteSize).1 = .ok g ∧
          g.content = t.escape ∧ g.stop = Text.byteSize (before ++ '(' :: t.escape ++ [')'])) ∧
      (renderTemplate ('?' :: '(' :: t.escape ++ [')']) fields cache).1 = .ok [] := by
  have spells := spellsAll_escape t
  refine ⟨renderTemplate_ok_iff.2 ⟨_, spells, showAll_literals fields t⟩, ?_, ?_⟩
  · intro before rest
    have opens : Text.dropBytes? (before ++ '(' :: t.escape ++ ')' :: rest) before.byteSize =
        some ('(' :: (t.escape ++ ')' :: rest)) := by
      rw [List.append_assoc]
      exact Text.dropBytes?_append before _
    have scanned := scanGroup_balanced opens (balanced_escape t)
    rw [← cache.extract_answer] at scanned
    obtain ⟨g, found, same⟩ := map_eq_ok.1 scanned
    refine ⟨g, found, by rw [same], ?_⟩
    rw [same]
    simp [show '('.utf8Size = 1 from rfl, show ')'.utf8Size = 1 from rfl]
    omega
  · have group : Directive.Spells ('?' :: '(' :: t.escape ++ [')'])
        (.group t.escape (t.map literal)) [] := .group [] (balanced_escape t) spells
    have whole := SpellsAll.cons group .nil
    rw [List.append_nil] at whole
    refine renderTemplate_ok_iff.2 ⟨_, whole, ?_⟩
    rw [showAll, suppressed_escape]
    rfl

end MediaNaming
