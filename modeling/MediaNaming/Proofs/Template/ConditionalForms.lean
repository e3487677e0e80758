import MediaNaming.Proofs.Template.Composition

/-
The two forms of a conditional. A question mark in front of a directive gates that directive; in
front of a group it gates all that the group holds. A group that holds a single directive has the
raw text of that directive as its content, so both forms compare the same two texts.
-/
namespace MediaNaming
namespace Directive

variable {raw rest : Text} {d : Directive}

theorem Spells.alone (spells : Spells raw d rest) : SpellsAll raw [d] := by
  have here : Leads raw [d] rest := .snoc (.nil (raw ++ rest)) spells
  exact here.alone

theorem Spells.gated {c : Char} (spells : Spells (c :: raw) d rest) (single : c ≠ '(')
    (balanced : Balanced (c :: raw)) :
    Spells ('?' :: c :: raw) (.optional (c :: raw) d) rest ∧
      Spells ('?' :: '(' :: (c :: raw) ++ [')']) (.group (c :: raw) [d]) rest :=
  ⟨.optional single spells, .group rest balanced spells.alone⟩

theorem render_group_single (fields : Fields) (raw : Text) (d : Directive) :
    (group raw [d]).render fields = (optional raw d).render fields := by
  simp only [render, showAll, List.append_nil]

/-- A letter or a character that means itself, brackets and marks apart, or any escaped
    character. -/
inductive Simple : Text → Directive → Prop
  | letter {c : Char} (unmarked : c ≠ '\\' ∧ c ≠ '?') (unbracketed : c ≠ '(' ∧ c ≠ ')') :
      Simple [c] (.letter c)
  | escape (c : Char) : Simple ['\\', c] (.literal c)

theorem Simple.spells (simple : Simple raw d) (rest : Text) : Spells raw d rest := by
  cases simple with
  | letter unmarked _ => exact .letter rest unmarked
  | escape c => exact .escape c rest

theorem Simple.balanced (simple : Simple raw d) : Balanced raw := by
  cases simple with
  | letter unmarked unbracketed => exact .plain ⟨unmarked.1, unbracketed⟩ .nil
  | escape c => exact .escaped c .nil

theorem Simple.single (simple : Simple raw d) : ∃ c more, raw = c :: more ∧ c ≠ '(' := by
  cases simple with
  | letter _ unbracketed => exact ⟨_, [], rfl, unbracketed.1⟩
  | escape c => exact ⟨'\\', [c], rfl, by decide⟩

end Directive
open Directive

theorem renderTemplate_spelled {raw rest more : Text} {d : Directive} {fields : Fields}
    {cache : GroupCache} (spells : Directive.Spells raw d rest)
    (renders : (renderTemplate rest fields cache).1 = .ok more) (other : GroupCache) :
    (renderTemplate (raw ++ rest) fields other).1 = .ok ((d.render fields).shown ++ more) := by
  obtain ⟨ds, after, rfl⟩ := renderTemplate_ok_iff.1 renders
  exact renderTemplate_ok_iff.2 ⟨d :: ds, .cons spells after, rfl⟩

theorem conditional_forms_agree {raw rest more : Text} {d : Directive} (simple : Simple raw d)
    (fields : Fields) {cache : GroupCache}
    (renders : (renderTemplate rest fields cache).1 = .ok more) (first second : GroupCache) :
    (renderTemplate ('?' :: raw ++ rest) fields first).1 =
        .ok ((Rendered.gate raw (d.render fields).shown).shown ++ more) ∧
      (renderTemplate ('?' :: raw ++ rest) fields first).1 =
        (renderTemplate ('?' :: '(' :: raw ++ ')' :: rest) fields second).1 := by
  obtain ⟨c, tail, rfl, single⟩ := simple.single
  obtain ⟨short, long⟩ := (simple.spells rest).gated single simple.balanced
  have shortly := renderTemplate_spelled short renders first
  have grouped := renderTemplate_spelled long renders second
  rw [render_group_single, List.append_assoc] at grouped
  exact ⟨by rw [shortly, render], shortly.trans grouped.symm⟩

theorem conditional_forms_agree_bracket :
    let fields : Fields := fun c => if c = 'Y' then some ['9', '3'] else none
    (renderTemplate ['?', '\\', ')', 'Y'] fields {}).1 = .ok ['9', '3'] ∧
      (renderTemplate ['?', '\\', ')', 'Y'] fields {}).1 =
        (renderTemplate ['?', '(', '\\', ')', ')', 'Y'] fields {}).1 := by
  intro fields
  have year : (renderTemplate ['Y'] fields {}).1 = .ok ['9', '3'] :=
    renderTemplate_ok_iff.2 ⟨_, .cons (.letter [] (by decide)) .nil, by decide⟩
  exact conditional_forms_agree (.escape ')') fields year {} {}

end MediaNaming
