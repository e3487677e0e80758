import MediaNaming.Proofs.Template.Spelling

/-
Rendering in parts. No directive looks past its own end, so a template that is cut where a directive
begins shows what its two parts show.
-/
namespace MediaNaming

namespace Directive

inductive Leads : Text → List Directive → Text → Prop
  | nil (rest : Text) : Leads [] [] rest
  | snoc {lead raw rest : Text} {ds : List Directive} {d : Directive}
      (before : Leads lead ds (raw ++ rest)) (last : Spells raw d rest) :
      Leads (lead ++ raw) (ds ++ [d]) rest

/-- What follows a directive may change, unless the directive ends the text. -/
theorem spelled_locally :
    (∀ {raw d rest}, Spells raw d rest → ∀ other, (rest = [] → other = []) → Spells raw d other) ∧
      ∀ {t ds}, SpellsAll t ds → SpellsAll t ds := by
  apply spelling_induct
  case trailing =>
    intro c mark other ended
    rw [ended rfl]
    exact .trailing mark
  case escape => exact fun c rest other _ => .escape c other
  case letter => exact fun rest plain other _ => .letter other plain
  case group => exact fun rest balanced inner other _ => .group other balanced inner
  case optional => exact fun single inner other ended => .optional single (inner other ended)
  case nil => exact .nil
  case cons =>
    intro raw rest d ds _ first more
    exact .cons (first rest id) more

variable {lead raw rest : Text} {d : Directive} {ds : List Directive}

theorem Spells.unique {raw' rest' : Text} {d' : Directive} (spells : Spells raw d rest)
    (other : Spells raw' d' rest') (same : raw ++ rest = raw' ++ rest') :
    d = d' ∧ rest = rest' := by
  have here : Text.dropBytes? (raw ++ rest) 0 = some (raw ++ rest) := by rw [Text.dropBytes?]
  obtain ⟨found, _, read, rfl, next⟩ := spelled_reads.1 spells _ 0 here {}
  obtain ⟨found', _, read', rfl, next'⟩ := spelled_reads.1 other _ 0 (here.trans (by rw [same])) {}
  obtain rfl : found = found' := Except.ok.inj (congrArg Prod.fst (read.symm.trans read'))
  have size : raw.byteSize = raw'.byteSize := by omega
  have after := Text.dropBytes?_append raw rest
  rw [same, size, Text.dropBytes?_append] at after
  exact ⟨rfl, (Option.some.inj after).symm⟩

theorem SpellsAll.unique {t : Text} {es : List Directive} (spells : SpellsAll t ds)
    (other : SpellsAll t es) : ds = es := by
  obtain ⟨_, read⟩ := spells.reads {}
  obtain ⟨_, read'⟩ := other.reads {}
  exact Except.ok.inj (congrArg Prod.fst (read.symm.trans read'))

namespace Leads

theorem finish {es : List Directive} (leads : Leads lead ds rest) (more : SpellsAll rest es) :
    SpellsAll (lead ++ rest) (ds ++ es) := by
  induction leads generalizing es with
  | nil rest => exact more
  | snoc before last ih =>
    rw [List.append_assoc, List.append_assoc]
    exact ih (.cons last more)

theorem locally (leads : Leads lead ds rest) (other : Text) (ended : rest = [] → other = []) :
    Leads lead ds other := by
  induction leads generalizing other with
  | nil rest => exact .nil other
  | snoc before last ih =>
    refine .snoc (ih _ fun none => ?_) (spelled_locally.1 last other ended)
    exact absurd (List.append_eq_nil_iff.1 none).1 last.ne_nil

theorem alone (leads : Leads lead ds rest) : SpellsAll lead ds := by
  have front := (leads.locally [] fun _ => rfl).finish .nil
  simpa using front

theorem split {es : List Directive} (leads : Leads lead ds rest)
    (whole : SpellsAll (lead ++ rest) es) : ∃ fs, es = ds ++ fs ∧ SpellsAll rest fs := by
  induction leads with
  | nil rest => exact ⟨es, rfl, whole⟩
  | @snoc _ raw rest _ _ before last ih =>
    rw [List.append_assoc] at whole
    obtain ⟨fs, rfl, spells⟩ := ih whole
    -- the last directive is read from the rest as well, and a text begins with one directive only
    generalize text : raw ++ rest = t at spells
    cases spells with
    | nil => exact absurd (List.append_eq_nil_iff.1 text).1 last.ne_nil
    | @cons _ _ _ fs first more =>
      obtain ⟨rfl, rfl⟩ := last.unique first text
      exact ⟨fs, by simp, more⟩

end Leads

end Directive
open Directive

inductive Visits (fields : Fields) (template : Text) : Nat → Prop
  | start : Visits fields template 0
  | next {index next : Nat} {shown : Rendered} {cache : GroupCache}
      (seen : Visits fields template index) (inside : index < template.byteSize)
      (rendered : (renderAt template index fields cache).1 = .ok (shown, next)) :
      Visits fields template next

theorem visits_iff {fields : Fields} {template : Text} {index : Nat} :
    Visits fields template index ↔
      ∃ lead ds rest, template = lead ++ rest ∧ lead.byteSize = index ∧ Leads lead ds rest := by
  constructor
  · intro visits
    induction visits with
    | start => exact ⟨[], [], template, rfl, rfl, .nil template⟩
    | @next index next shown cache seen inside rendered ih =>
      obtain ⟨lead, ds, rest, whole, rfl, leads⟩ := ih
      have here : template.dropBytes? lead.byteSize = some rest := by
        rw [whole]
        exact Text.dropBytes?_append lead rest
      have some_text := (Text.dropBytes?_inside here).2 inside
      obtain ⟨found, read, rfl⟩ := renderAt_ok rendered
      obtain ⟨raw, after, rfl, spells, goes⟩ :=
        (reading_spelled.1 template _ rest here some_text).ok read
      refine ⟨lead ++ raw, ds ++ [found.directive], after, ?_, ?_, .snoc leads spells⟩
      · rw [whole, List.append_assoc]
      · have start := Text.dropBytes?_position here
        have stop := Text.dropBytes?_position goes
        rw [Text.byteSize_append] at start ⊢
        omega
  · rintro ⟨lead, ds, rest, rfl, rfl, leads⟩
    induction leads with
    | nil rest => exact .start
    | @snoc lead raw rest ds d before last ih =>
      have here := Text.dropBytes?_append lead (raw ++ rest)
      obtain ⟨found, after, reads, _, next⟩ := spelled_reads.1 last _ _ here {}
      have rendered : (renderAt (lead ++ (raw ++ rest)) lead.byteSize fields {}).1 =
          .ok (found.directive.render fields, found.next) := by
        rw [renderAt, TemplateReader.bind_ok reads]
        rfl
      have inside := (Text.dropBytes?_inside here).1 (by simp [last.ne_nil])
      rw [List.append_assoc, Text.byteSize_append, ← next]
      exact .next ih inside rendered

theorem render_append {before after : Text} {fields : Fields}
    (boundary : Visits fields (before ++ after) before.byteSize) (first second both : GroupCache) :
    (∀ shown more, (renderTemplate before fields first).1 = .ok shown →
        (renderTemplate after fields second).1 = .ok more →
        (renderTemplate (before ++ after) fields both).1 = .ok (shown ++ more)) ∧
      (∃ shown, (renderTemplate before fields first).1 = .ok shown) ∧
      ((∃ whole, (renderTemplate (before ++ after) fields both).1 = .ok whole) →
        ∃ more, (renderTemplate after fields second).1 = .ok more) := by
  obtain ⟨lead, ds, rest, whole, size, leads⟩ := visits_iff.1 boundary
  have cut := Text.dropBytes?_append before after
  rw [whole, ← size, Text.dropBytes?_append] at cut
  obtain rfl : rest = after := Option.some.inj cut
  obtain rfl : before = lead := List.append_cancel_right whole
  simp only [renderTemplate_ok_iff]
  refine ⟨?_, ⟨_, ds, leads.alone, rfl⟩, ?_⟩
  · rintro shown more ⟨es, spells, rfl⟩ ⟨fs, after, rfl⟩
    obtain rfl := leads.alone.unique spells
    exact ⟨ds ++ fs, leads.finish after, showAll_append fields ds fs⟩
  · rintro ⟨_, es, spells, _⟩
    obtain ⟨fs, _, more⟩ := leads.split spells
    exact ⟨_, fs, more, rfl⟩

theorem render_append_conditional :
    let fields : Fields := fun c => if c = 'Y' then some ['9', '3'] else none
    Visits fields (['?', 'é'] ++ ['Y']) (Text.byteSize ['?', 'é']) ∧
      (renderTemplate (['?', 'é'] ++ ['Y']) fields {}).1 = .ok ['9', '3'] := by
  intro fields
  have leads : Leads ['?', 'é'] [.optional ['é'] (.letter 'é')] ['Y'] :=
    .snoc (.nil _) (.optional (by decide) (.letter _ (by decide)))
  have boundary : Visits fields (['?', 'é'] ++ ['Y']) (Text.byteSize ['?', 'é']) :=
    visits_iff.2 ⟨_, _, _, rfl, rfl, leads⟩
  have front : (renderTemplate ['?', 'é'] fields {}).1 = .ok [] :=
    renderTemplate_ok_iff.2 ⟨_, leads.alone, by decide⟩
  have back : (renderTemplate ['Y'] fields {}).1 = .ok ['9', '3'] :=
    renderTemplate_ok_iff.2 ⟨_, .cons (.letter [] (by decide)) .nil, by decide⟩
  exact ⟨boundary, (render_append boundary {} {} {}).1 _ _ front back⟩

end MediaNaming
