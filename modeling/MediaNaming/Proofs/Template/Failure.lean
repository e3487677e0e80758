import MediaNaming.Lookup.Completer
import MediaNaming.Proofs.Template.Balance
import MediaNaming.Proofs.Template.Transparency

/-
Failure of rendering. Only a group that is never closed makes reading fail. The content of a group
that is closed is balanced, so no group in it can fail; the group that fails stands in the template
itself. What the fields hold plays no part in it.
-/
namespace MediaNaming

namespace TemplateReader

variable {α β : Type}

def Ends (x : TemplateReader α) (good : α → Prop) (bad : NamingError → Prop) : Prop :=
  ∀ cache, match (x cache).1 with
    | .ok a => good a
    | .error e => bad e

theorem ends_pure {a : α} {good : α → Prop} {bad : NamingError → Prop} (here : good a) :
    Ends (pure a) good bad := fun _ => here

theorem Ends.bind {x : TemplateReader α} {f : α → TemplateReader β} {mid : α → Prop}
    {good : β → Prop} {bad : NamingError → Prop} (first : Ends x mid bad)
    (more : ∀ a, mid a → Ends (f a) good bad) : Ends (x >>= f) good bad := by
  intro cache
  have here := first cache
  rcases bind_cases x f cache with ⟨a, ran, goes⟩ | ⟨e, ran, stops⟩ <;> rw [ran] at here
  · rw [goes]
    exact more a here _
  · rw [stops]
    exact here

theorem Ends.weaken {x : TemplateReader α} {good wider : α → Prop} {bad worse : NamingError → Prop}
    (ends : Ends x good bad) (results : ∀ a, good a → wider a) (errors : ∀ e, bad e → worse e) :
    Ends x wider worse := by
  intro cache
  have here := ends cache
  split
  · rename_i a ran
    rw [ran] at here
    exact results a here
  · rename_i e ran
    rw [ran] at here
    exact errors e here

theorem Ends.ok {x : TemplateReader α} {good : α → Prop} {bad : NamingError → Prop}
    {cache : GroupCache} {a : α} (ends : Ends x good bad) (ran : (x cache).1 = .ok a) : good a := by
  have here := ends cache
  rwa [ran] at here

theorem Ends.error {x : TemplateReader α} {good : α → Prop} {bad : NamingError → Prop}
    {cache : GroupCache} {e : NamingError} (ends : Ends x good bad)
    (failed : (x cache).1 = .error e) : bad e := by
  have here := ends cache
  rwa [failed] at here

theorem ends_extract (template : Text) (start : Nat) :
    Ends (extract template start) (fun g => scanGroup template start = .ok g.toGroup)
      fun e => scanGroup template start = .error e := by
  intro cache
  have answer := cache.extract_answer template start
  simp only [extract]
  split <;> rename_i ran <;> rw [ran] at answer <;> exact answer.symm

end TemplateReader

def UnclosedIn (template : Text) (e : NamingError) : Prop :=
  ∃ before rest, template = before ++ '?' :: '(' :: rest ∧
    e = .unterminatedGroup template (before.byteSize + 1)

theorem UnclosedIn.of_scan {template rest : Text} {index : Nat}
    (here : template.dropBytes? index = some ('?' :: '(' :: rest)) :
    UnclosedIn template (.unterminatedGroup template (index + 1)) := by
  obtain ⟨before, rfl, rfl⟩ := Text.dropBytes?_some here
  exact ⟨before, rest, rfl, rfl⟩

namespace Directive
open TemplateReader

variable {template t rest : Text} {index : Nat} {d : Directive}

theorem Plain.closed (plain : Plain t d rest) (closed : Closed t) : Closed rest := by
  cases plain with
  | ended => exact .nil
  | trailing _ => exact .nil
  | escape c rest => exact closed.of_escape
  | letter rest plain => exact closed.of_cons plain.1

theorem Plain.suffix (plain : Plain t d rest) : rest <:+ t := by
  cases plain with
  | ended => exact List.suffix_refl _
  | trailing _ => exact List.nil_suffix
  | escape c rest => exact ⟨['\\', c], rfl⟩
  | letter rest _ => exact List.suffix_cons _ rest

/-- The next directive begins in a later part of the text, which is closed if the text is. -/
def GoesOn (template t : Text) (next : Nat) : Prop :=
  ∃ rest, rest <:+ t ∧ template.dropBytes? next = some rest ∧ (Closed t → Closed rest)

def Fails (template t : Text) (e : NamingError) : Prop := UnclosedIn template e ∧ ¬ Closed t

theorem reading_ends :
    (∀ template index t, template.dropBytes? index = some t →
      Ends (readAt template index) (fun found => GoesOn template t found.next) (Fails template t)) ∧
    ∀ template index t, template.dropBytes? index = some t →
      Ends (readFrom template index) (fun _ => True) (Fails template t) := by
  apply reading_induct
  case outside =>
    intro template index here t other
    cases here.symm.trans other
  case plain =>
    intro template index t d rest here plain u same
    obtain rfl : u = t := Option.some.inj (same.symm.trans here)
    obtain ⟨found, reads, _, after⟩ := readAt_plain here plain
    rw [reads]
    exact ends_pure ⟨rest, plain.suffix, after, plain.closed⟩
  case group =>
    intro template index rest here inner u same
    obtain rfl : u = _ := Option.some.inj (same.symm.trans here)
    rw [readAt_group here]
    have opens : template.dropBytes? (index + 1) = some ('(' :: rest) :=
      Text.dropBytes?_later ['?'] here
    refine ((ends_extract _ _).weaken (fun _ => id) fun e failed => ?_).bind fun g found => ?_
    · rcases scanGroup_cases opens with ⟨_, _, _, _, scanned⟩ | ⟨unclosed, open_left⟩
      · rw [scanned] at failed
        contradiction
      · obtain rfl := Except.error.inj (unclosed.symm.trans failed)
        exact ⟨.of_scan here, fun closed => open_left (closed.of_cons (by decide))⟩
    · obtain ⟨after, rfl, balanced, goes⟩ := scanGroup_ok opens found
      -- the content is balanced, so no group in it is left open
      have whole : g.content.dropBytes? 0 = some g.content := by rw [Text.dropBytes?]
      refine ((inner g g.content whole).weaken (fun _ => id) fun e failed => ?_).bind fun _ _ => ?_
      · exact absurd balanced.closed failed.2
      · refine ends_pure ⟨after, ⟨'?' :: '(' :: g.content ++ [')'], by simp⟩, goes, fun closed => ?_⟩
        have brackets := (closed.of_cons (by decide)).of_cons (by decide)
        exact (brackets.of_append balanced).of_cons (by decide)
  case optional =>
    intro template index c rest here single inner u same
    obtain rfl : u = _ := Option.some.inj (same.symm.trans here)
    rw [readAt_optional here single]
    have opens : template.dropBytes? (index + 1) = some (c :: rest) :=
      Text.dropBytes?_later ['?'] here
    refine ((inner _ opens).weaken (fun _ => id) fun e failed => ?_).bind fun found goes => ?_
    · exact ⟨failed.1, fun closed => failed.2 (closed.of_cons (by decide))⟩
    · obtain ⟨after, ⟨lead, text⟩, later, closes⟩ := goes
      rw [← text] at opens
      split
      · refine ends_pure ⟨after, ⟨'?' :: lead, by simp [← text]⟩, later, fun closed => ?_⟩
        exact closes (closed.of_cons (by decide))
      · rename_i uncut
        rw [Text.slice?_between opens later] at uncut
        contradiction
  case done =>
    intro template index outside t here
    rw [readFrom, dif_neg (by omega)]
    exact ends_pure trivial
  case more =>
    intro template index inside first later t here
    rw [readFrom, dif_pos inside]
    refine (first t here).bind fun found reached => ?_
    obtain ⟨rest, _, goes, closes⟩ := reached
    refine ((later found rest goes).weaken (fun _ => id) fun e failed => ?_).bind fun _ _ => ?_
    · exact ⟨failed.1, fun closed => failed.2 (closes closed)⟩
    · exact ends_pure trivial

end Directive

def failure? {α : Type} : Except NamingError α → Option NamingError
  | .ok _ => none
  | .error e => some e

@[simp] theorem failure?_map {α β : Type} (f : α → β) (answer : Except NamingError α) :
    failure? (answer.map f) = failure? answer := by
  cases answer <;> rfl

theorem map_eq_ok {α β : Type} {f : α → β} {answer : Except NamingError α} {b : β} :
    answer.map f = .ok b ↔ ∃ a, answer = .ok a ∧ f a = b := by
  cases answer <;> simp [Except.map]

theorem map_eq_error {α β : Type} {f : α → β} {answer : Except NamingError α} {e : NamingError} :
    answer.map f = .error e ↔ answer = .error e := by
  cases answer <;> simp [Except.map]

theorem renderTemplate_answer (template : Text) (fields : Fields) (cache : GroupCache) :
    (renderTemplate template fields cache).1 =
      (Directive.readFrom template 0 {}).1.map (Directive.showAll fields) := by
  rw [← (Directive.reading_opens.2 template 0).answer cache, renderTemplate]
  rcases TemplateReader.bind_cases (Directive.readFrom template 0)
    (fun body => pure (Directive.showAll fields body)) cache with
    ⟨body, read, ran⟩ | ⟨e, read, ran⟩ <;> rw [ran, read] <;> rfl

theorem renderAt_answer (template : Text) (index : Nat) (fields : Fields) (cache : GroupCache) :
    (renderAt template index fields cache).1 =
      (Directive.readAt template index cache).1.map
        fun found => (found.directive.render fields, found.next) := by
  rw [renderAt]
  rcases TemplateReader.bind_cases (Directive.readAt template index)
    (fun found => pure (found.directive.render fields, found.next)) cache with
    ⟨found, read, ran⟩ | ⟨e, read, ran⟩ <;> rw [ran, read] <;> rfl

theorem renderAt_ok {template : Text} {index next : Nat} {fields : Fields} {cache : GroupCache}
    {shown : Rendered} (rendered : (renderAt template index fields cache).1 = .ok (shown, next)) :
    ∃ found, (Directive.readAt template index cache).1 = .ok found ∧ found.next = next := by
  rw [renderAt_answer, map_eq_ok] at rendered
  obtain ⟨found, read, same⟩ := rendered
  exact ⟨found, read, congrArg Prod.snd same⟩

/-- Whether a template can be rendered depends on it alone, not on the fields or on groups scanned
    before; a failure names a bracket of the whole template. So no lookup decides whether the name
    of an episode can be written. -/
theorem render_failure (template : Text) :
    (∀ fields other cache spare, failure? (renderTemplate template fields cache).1 =
        failure? (renderTemplate template other spare).1) ∧
      (∀ fields cache e, (renderTemplate template fields cache).1 = .error e →
        UnclosedIn template e) ∧
      ∀ (σ : Type) (c : Completer σ) (e known : TitledEpisode) (s : LookupState σ),
        failure? (c.renderEpisode e s).1 = failure? (c.renamer.renderEpisode known) := by
  refine ⟨fun fields other cache spare => ?_, fun fields cache e failed => ?_,
    fun σ c e known s => ?_⟩
  · simp only [renderTemplate_answer, failure?_map]
  · have ends := Directive.reading_ends.2 template 0 template (by rw [Text.dropBytes?]) {}
    rw [renderTemplate_answer] at failed
    cases read : (Directive.readFrom template 0 {}).1 with
    | ok body =>
      rw [read] at failed
      contradiction
    | error d =>
      rw [read] at failed ends
      obtain rfl : d = e := Except.error.inj failed
      exact ends.1
  · simp only [Completer.renderEpisode, Completer.afterLookup, Renamer.renderEpisode, renderOnce,
      renderTemplate_answer, failure?_map]

end MediaNaming
