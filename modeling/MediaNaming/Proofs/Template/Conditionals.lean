import MediaNaming.Proofs.Template.Spelling

/-
Conditionals and the fields in them. What is shown without any field is never longer than the raw
text, and as long as it only where it is the raw text; such a text is suppressed. So a conditional
that is kept shows a field.
-/
namespace MediaNaming

def AddsNothing (raw shown : Text) : Prop := shown = raw ∨ shown.length < raw.length

theorem AddsNothing.append {raw more shown after : Text} (first : AddsNothing raw shown)
    (next : AddsNothing more after) : AddsNothing (raw ++ more) (shown ++ after) := by
  unfold AddsNothing at *
  simp only [List.length_append]
  rcases first with rfl | shorter
  · rcases next with rfl | shorter
    · exact Or.inl rfl
    · right
      omega
  · right
    have most : after.length ≤ more.length := by
      rcases next with rfl | shorter
      · exact Nat.le_refl _
      · omega
    omega

theorem AddsNothing.suppressed {raw shown : Text} (nothing : AddsNothing raw shown) :
    Rendered.gate raw shown = .suppressed := if_pos (Or.inr nothing)

namespace Directive

inductive Occurs (d : Directive) : Directive → Prop
  | here : Occurs d d
  | group {content : Text} {body : List Directive} {e : Directive} (member : e ∈ body)
      (inside : Occurs d e) : Occurs d (.group content body)
  | optional {raw : Text} {e : Directive} (inside : Occurs d e) : Occurs d (.optional raw e)

def IsConditional : Directive → Prop
  | group _ _ => True
  | optional _ _ => True
  | _ => False

/-- The directive is a field that is not empty, or a conditional that is kept and in which such a
    field is shown. -/
inductive ShowsField (fields : Fields) : Directive → Prop
  | letter {c : Char} {t : Text} (value : fields c = some t) (some_text : t ≠ []) :
      ShowsField fields (.letter c)
  | group {content : Text} {body : List Directive} {d : Directive}
      (kept : (Directive.group content body).render fields ≠ .suppressed) (member : d ∈ body)
      (inside : ShowsField fields d) : ShowsField fields (.group content body)
  | optional {raw : Text} {d : Directive}
      (kept : (Directive.optional raw d).render fields ≠ .suppressed)
      (inside : ShowsField fields d) : ShowsField fields (.optional raw d)

theorem ShowsField.field {fields : Fields} {d : Directive} (shows : ShowsField fields d) :
    ∃ c t, Occurs (.letter c) d ∧ fields c = some t ∧ t ≠ [] := by
  induction shows with
  | letter value some_text => exact ⟨_, _, .here, value, some_text⟩
  | group _ member _ ih =>
    obtain ⟨c, t, inside, value⟩ := ih
    exact ⟨c, t, .group member inside, value⟩
  | optional _ _ ih =>
    obtain ⟨c, t, inside, value⟩ := ih
    exact ⟨c, t, .optional inside, value⟩

def Unfielded (fields : Fields) (raw : Text) (d : Directive) : Prop :=
  (d.IsConditional → d.render fields = .suppressed) ∧ AddsNothing raw (d.render fields).shown

theorem fielded_conditional {fields : Fields} {raw inner shown : Text} {d : Directive} {inside : Prop}
    (render : d.render fields = .gate inner shown) (some_text : raw ≠ [])
    (kept : d.render fields ≠ .suppressed → inside → ShowsField fields d)
    (body : inside ∨ AddsNothing inner shown) : ShowsField fields d ∨ Unfielded fields raw d := by
  -- a field inside counts only if the conditional around it is kept
  by_cases gone : d.render fields = .suppressed
  · refine Or.inr ⟨fun _ => gone, ?_⟩
    rw [gone]
    exact Or.inr (List.length_pos_iff.2 some_text)
  · rcases body with fielded | nothing
    · exact Or.inl (kept gone fielded)
    · exact absurd (render.trans nothing.suppressed) gone

theorem spelled_fields (fields : Fields) :
    (∀ {raw d rest}, Spells raw d rest → ShowsField fields d ∨ Unfielded fields raw d) ∧
      ∀ {t ds}, SpellsAll t ds →
        (∃ d ∈ ds, ShowsField fields d) ∨ AddsNothing t (showAll fields ds) := by
  apply spelling_induct
  case trailing =>
    intro c mark
    exact Or.inr ⟨False.elim, Or.inr (by simp [render, Rendered.shown])⟩
  case escape =>
    intro c rest
    exact Or.inr ⟨False.elim, Or.inr (by simp [render, Rendered.shown])⟩
  case letter =>
    intro c rest plain
    cases value : fields c with
    | none => exact Or.inr ⟨False.elim, Or.inl (by simp [render, Rendered.shown, value])⟩
    | some t =>
      by_cases empty : t = []
      · exact Or.inr ⟨False.elim, Or.inr (by simp [render, Rendered.shown, value, empty])⟩
      · exact Or.inl (.letter value empty)
  case group =>
    intro content body rest balanced inner
    refine fielded_conditional (by rw [render]) (by simp) ?_ inner
    rintro kept ⟨d, member, shows⟩
    exact .group kept member shows
  case optional =>
    intro c raw rest d single inner
    refine fielded_conditional (by rw [render]) (by simp) ?_ (inner.imp_right And.right)
    exact fun kept shows => .optional kept shows
  case nil => exact Or.inr (Or.inl rfl)
  case cons =>
    intro raw rest d ds some_text first more
    rcases first with shows | ⟨_, nothing⟩
    · exact Or.inl ⟨d, List.mem_cons_self, shows⟩
    · rcases more with ⟨e, member, shows⟩ | nothing_more
      · exact Or.inl ⟨e, List.mem_cons_of_mem d member, shows⟩
      · exact Or.inr (nothing.append nothing_more)

theorem SpellsAll.member {t : Text} {ds : List Directive} {d : Directive} (spells : SpellsAll t ds)
    (member : d ∈ ds) : ∃ raw rest, Spells raw d rest := by
  induction ds generalizing t with
  | nil => simp at member
  | cons e ds ih =>
    cases spells with
    | cons first more =>
      rcases List.mem_cons.1 member with rfl | later
      · exact ⟨_, _, first⟩
      · exact ih more later

theorem Occurs.spelled {d e : Directive} (occurs : Occurs d e)
    (spells : ∃ raw rest, Spells raw e rest) : ∃ raw rest, Spells raw d rest := by
  induction occurs with
  | here => exact spells
  | group member _ ih =>
    obtain ⟨_, _, spells⟩ := spells
    cases spells with
    | group rest balanced inner => exact ih (inner.member member)
  | optional _ ih =>
    obtain ⟨_, _, spells⟩ := spells
    cases spells with
    | optional single inner => exact ih ⟨_, _, inner⟩

end Directive
open Directive

theorem conditional_shows_field {template : Text} {cache : GroupCache} {ds : List Directive}
    (read : (readFrom template 0 cache).1 = .ok ds) (fields : Fields) :
    (renderTemplate template fields cache).1 = .ok (showAll fields ds) ∧
      ∀ d, (∃ e ∈ ds, Occurs d e) → d.IsConditional →
        (d.render fields ≠ .suppressed → ShowsField fields d ∧
          ∃ c t, Occurs (.letter c) d ∧ fields c = some t ∧ t ≠ []) ∧
        ((∀ c t, fields c = some t → t = []) → d.render fields = .suppressed) := by
  have spells := spellsAll_of_read read
  refine ⟨renderTemplate_ok_iff.2 ⟨ds, spells, rfl⟩, ?_⟩
  rintro d ⟨e, member, inside⟩ conditional
  have kept : d.render fields ≠ .suppressed → ShowsField fields d := by
    intro kept
    obtain ⟨raw, rest, spelled⟩ := inside.spelled (spells.member member)
    rcases (spelled_fields fields).1 spelled with shows | ⟨gone, _⟩
    · exact shows
    · exact absurd (gone conditional) kept
  refine ⟨fun shown => ⟨kept shown, (kept shown).field⟩, fun empty => ?_⟩
  by_contra shown
  obtain ⟨c, t, _, value, some_text⟩ := (kept shown).field
  exact some_text (empty c t value)

/-- In `-?(?Y)` the inner conditional is kept for a year and suppressed without one. -/
theorem conditional_shows_field_year :
    (readFrom ['-', '?', '(', '?', 'Y', ')'] 0 {}).1 =
        .ok [.letter '-', .group ['?', 'Y'] [.optional ['Y'] (.letter 'Y')]] ∧
      ShowsField (fun c => if c = 'Y' then some ['9', '3'] else none)
        (.optional ['Y'] (.letter 'Y')) ∧
      (Directive.optional ['Y'] (.letter 'Y')).render (fun _ => none) = .suppressed := by
  have body : SpellsAll ['?', 'Y'] [.optional ['Y'] (.letter 'Y')] :=
    .cons (.optional (by decide) (.letter [] (by decide))) .nil
  have balanced : Balanced ['?', 'Y'] := .plain (by decide) (.plain (by decide) .nil)
  have spells : SpellsAll ['-', '?', '(', '?', 'Y', ')']
      [.letter '-', .group ['?', 'Y'] [.optional ['Y'] (.letter 'Y')]] :=
    .cons (.letter _ (by decide)) (.cons (.group [] balanced body) .nil)
  have read := congrArg Prod.fst (spells.reads {}).choose_spec
  have inside : ∃ e ∈ [.letter '-', .group ['?', 'Y'] [.optional ['Y'] (.letter 'Y')]],
      Occurs (.optional ['Y'] (.letter 'Y')) e :=
    ⟨.group ['?', 'Y'] [.optional ['Y'] (.letter 'Y')], by simp, .group (by simp) .here⟩
  refine ⟨read, ?_, ?_⟩
  · exact (((conditional_shows_field read _).2 _ inside trivial).1 (by decide)).1
  · exact ((conditional_shows_field read _).2 _ inside trivial).2 (by simp)

end MediaNaming
