import MediaNaming.Template.Renderer
import MediaNaming.Proofs.Text.Splitting

/-
What is read at an index of a template. A plain directive is read from the text alone, a group by
way of its content, and a conditional on one directive by way of that directive; so what holds of
reading is shown for these three, and then for one directive after the other.
-/
namespace MediaNaming.Directive

inductive Plain : Text → Directive → Text → Prop
  | ended : Plain [] .blank []
  | trailing {c : Char} (mark : c = '\\' ∨ c = '?') : Plain [c] .blank []
  | escape (c : Char) (rest : Text) : Plain ('\\' :: c :: rest) (.literal c) rest
  | letter {c : Char} (rest : Text) (plain : c ≠ '\\' ∧ c ≠ '?') : Plain (c :: rest) (.letter c) rest

variable {template t rest : Text} {index : Nat}

theorem readAt_outside (here : template.dropBytes? index = none) :
    readAt template index = pure ⟨.blank, template.byteSize, id⟩ := by
  rw [readAt]
  split
  case h_1 => rfl
  all_goals
    rename_i other
    cases here.symm.trans other

theorem readAt_plain {d : Directive} (here : template.dropBytes? index = some t)
    (plain : Plain t d rest) :
    ∃ found, readAt template index = pure found ∧ found.directive = d ∧
      template.dropBytes? found.next = some rest := by
  rw [readAt]
  split
  case h_1 other => cases here.symm.trans other
  case h_2 other =>
    cases here.symm.trans other
    cases plain
    exact ⟨_, rfl, rfl, Text.dropBytes?_byteSize template⟩
  case h_3 other =>
    cases here.symm.trans other
    cases plain with
    | trailing mark => exact ⟨_, rfl, rfl, Text.dropBytes?_later ['\\'] here⟩
    | letter rest plain => exact absurd rfl plain.1
  case h_4 other =>
    cases here.symm.trans other
    cases plain with
    | trailing mark => exact ⟨_, rfl, rfl, Text.dropBytes?_later ['?'] here⟩
    | letter rest plain => exact absurd rfl plain.2
  case h_5 c _ other =>
    cases here.symm.trans other
    cases plain with
    | escape c rest =>
      have after := Text.dropBytes?_later ['\\'] here
      exact ⟨_, rfl, rfl, Text.dropBytes?_later [c] after⟩
    | letter rest plain => exact absurd rfl plain.1
  case h_6 other =>
    cases here.symm.trans other
    cases plain with
    | letter rest plain => exact absurd rfl plain.2
  case h_7 other =>
    cases here.symm.trans other
    cases plain with
    | letter rest plain => exact absurd rfl plain.2
  case h_8 c tail bare_escape bare_mark escape group optional other =>
    cases here.symm.trans other
    cases plain with
    | trailing mark => exact absurd rfl (mark.elim bare_escape bare_mark)
    | escape d rest => exact absurd rfl (escape d rest rfl)
    | letter rest plain => exact ⟨_, rfl, rfl, Text.dropBytes?_later [c] here⟩

theorem group_advances (g : ScannedGroup template (index + 1)) : index < g.stop := by
  have := g.sizes
  omega

theorem optional_advances {raw : Text} {next : Nat}
    (cut : template.slice? (index + 1) next = some raw) : index < next := by
  have := (Text.byteSize_slice? cut).1
  omega

theorem readAt_group (here : template.dropBytes? index = some ('?' :: '(' :: rest)) :
    readAt template index =
      (do
        let g ← TemplateReader.extract template (index + 1)
        let body ← readFrom g.content 0
        return ⟨.group g.content body, g.stop, fun _ => group_advances g⟩) := by
  rw [readAt]
  split
  case h_6 => rfl
  case h_7 single other =>
    cases here.symm.trans other
    exact absurd rfl single
  case h_8 group _ other =>
    cases here.symm.trans other
    exact absurd rfl (group rest rfl)
  all_goals
    rename_i other
    cases here.symm.trans other

theorem readAt_optional {c : Char} (here : template.dropBytes? index = some ('?' :: c :: rest))
    (single : c ≠ '(') :
    readAt template index =
      (do
        let inner ← readAt template (index + 1)
        match cut : template.slice? (index + 1) inner.next with
        | some raw =>
          return ⟨.optional raw inner.directive, inner.next, fun _ => optional_advances cut⟩
        | none => throw (.brokenCut template (index + 1) inner.next)) := by
  rw [readAt]
  split
  case h_6 other =>
    cases here.symm.trans other
    exact absurd rfl single
  case h_7 => rfl
  case h_8 optional other =>
    cases here.symm.trans other
    exact absurd rfl (optional c rest rfl)
  all_goals
    rename_i other
    cases here.symm.trans other

/-- What holds of reading at every index follows from the three kinds of directives, and what holds
    of reading on from there follows from one directive after the other. -/
theorem reading_induct {At From : Text → Nat → Prop}
    (outside : ∀ {template index}, template.dropBytes? index = none → At template index)
    (plain : ∀ {template index t d rest}, template.dropBytes? index = some t → Plain t d rest →
      At template index)
    (group : ∀ {template index rest}, template.dropBytes? index = some ('?' :: '(' :: rest) →
      (∀ g : ScannedGroup template (index + 1), From g.content 0) → At template index)
    (optional : ∀ {template index c rest}, template.dropBytes? index = some ('?' :: c :: rest) →
      c ≠ '(' → At template (index + 1) → At template index)
    (done : ∀ {template index}, template.byteSize ≤ index → From template index)
    (more : ∀ {template index}, index < template.byteSize → At template index →
      (∀ first : DirectiveAt template index, From template first.next) → From template index) :
    (∀ template index, At template index) ∧ ∀ template index, From template index := by
  apply readAt.mutual_induct At From
  · intro template index here
    exact outside here
  · intro template index here
    exact plain here .ended
  · intro template index here
    exact plain here (.trailing (Or.inl rfl))
  · intro template index here
    exact plain here (.trailing (Or.inr rfl))
  · intro template index c rest here
    exact plain here (.escape c rest)
  · intro template index rest here inner
    exact group here inner
  · intro template index c rest single here _ inner
    exact optional here single inner
  · intro template index c rest bare_escape bare_mark escape _ other here
    refine plain here (.letter rest ⟨?_, ?_⟩)
    · rintro rfl
      cases rest with
      | nil => exact bare_escape rfl rfl
      | cons d rest => exact escape d rest rfl rfl
    · rintro rfl
      cases rest with
      | nil => exact bare_mark rfl rfl
      | cons d rest => exact other d rest rfl rfl
  · intro template index inside first later
    exact more inside first later
  · intro template index outside
    exact done (by omega)

end MediaNaming.Directive
