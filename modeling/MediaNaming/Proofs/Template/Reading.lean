import MediaNaming.Proofs.Template.Transparency

/-
Steps of reading a template. Plain characters are read as letters one by one, and a group as the
directives of its content. The cache only remembers scans, so what is read does not depend on it.
-/
namespace MediaNaming

theorem TemplateReader.bind_ok {α β : Type} {x : TemplateReader α} {f : α → TemplateReader β}
    {cache next : GroupCache} {a : α} (ran : x cache = (.ok a, next)) :
    (x >>= f) cache = f a next := by
  simp only [bind, ExceptT.bind, ExceptT.mk, StateT.bind, ran, ExceptT.bindCont]

namespace Directive

def ReadsAt (template : Text) (index : Nat) (d : Directive) (stop : Nat) : Prop :=
  ∀ cache, ∃ (found : DirectiveAt template index) (after : GroupCache),
    readAt template index cache = (.ok found, after) ∧ found.directive = d ∧ found.next = stop

def Reads (template : Text) (index : Nat) (ds : List Directive) : Prop :=
  ∀ cache, ∃ after, readFrom template index cache = (.ok ds, after)

variable {template rest : Text} {index stop : Nat}

theorem reads_end (past : template.byteSize ≤ index) : Reads template index [] := by
  intro cache
  rw [readFrom, dif_neg (by omega)]
  exact ⟨cache, rfl⟩

theorem reads_step {d : Directive} {ds : List Directive} (stop : Nat)
    (inside : index < template.byteSize) (first : ReadsAt template index d stop)
    (more : Reads template stop ds) :
    Reads template index (d :: ds) := by
  intro cache
  obtain ⟨found, next, reads, rfl, rfl⟩ := first cache
  obtain ⟨after, goes_on⟩ := more next
  refine ⟨after, ?_⟩
  rw [readFrom, dif_pos inside, TemplateReader.bind_ok reads]
  exact TemplateReader.bind_ok goes_on

theorem readsAt_plain {d : Directive} {raw : Text}
    (here : template.dropBytes? index = some (raw ++ rest)) (plain : Plain (raw ++ rest) d rest) :
    ReadsAt template index d (index + raw.byteSize) := by
  obtain ⟨found, reads, same, after⟩ := readAt_plain here plain
  have next := Text.dropBytes?_position after
  have later := Text.dropBytes?_position here
  rw [Text.byteSize_append] at later
  intro cache
  rw [reads]
  exact ⟨found, cache, rfl, same, by omega⟩

theorem readsAt_letter {c : Char} (here : template.dropBytes? index = some (c :: rest))
    (plain : c ≠ '\\' ∧ c ≠ '?') : ReadsAt template index (.letter c) (index + c.utf8Size) := by
  have alone : template.dropBytes? index = some ([c] ++ rest) := here
  exact readsAt_plain alone (.letter rest plain)

theorem readsAt_group {g : Group} {body : List Directive} (rest : Text)
    (here : template.dropBytes? index = some ('?' :: '(' :: rest))
    (scanned : scanGroup template (index + 1) = .ok g) (inner : Reads g.content 0 body) :
    ReadsAt template index (.group g.content body) g.stop := by
  intro cache
  obtain ⟨after, content⟩ := inner (TemplateReader.extract template (index + 1) cache).2
  have extracted : TemplateReader.extract template (index + 1) cache = (.ok ⟨g, scanned⟩, _) :=
    Prod.ext (TemplateReader.extract_scanned ⟨g, scanned⟩ cache) rfl
  rw [readAt_group here, TemplateReader.bind_ok extracted]
  exact ⟨_, after, TemplateReader.bind_ok content, rfl, rfl⟩

theorem readsAt_optional {c : Char} {raw : Text} {d : Directive}
    (here : template.dropBytes? index = some ('?' :: c :: raw ++ rest)) (single : c ≠ '(')
    (inner : ReadsAt template (index + 1) d (index + 1 + Text.byteSize (c :: raw))) :
    ReadsAt template index (.optional (c :: raw) d) (index + Text.byteSize ('?' :: c :: raw)) := by
  have opens : template.dropBytes? (index + 1) = some (c :: raw ++ rest) :=
    Text.dropBytes?_later ['?'] here
  intro cache
  obtain ⟨found, after, reads, rfl, next⟩ := inner cache
  have inside : template.slice? (index + 1) found.next = some (c :: raw) := by
    rw [next]
    exact Text.slice?_of_dropBytes? opens
  refine ⟨⟨.optional (c :: raw) found.directive, found.next, fun _ => optional_advances inside⟩,
    after, ?_, rfl, by simp [next, Nat.add_assoc, show '?'.utf8Size = 1 from rfl]⟩
  rw [readAt_optional here single, TemplateReader.bind_ok reads]
  refine congrFun (?_ : _ = (pure _ : TemplateReader (DirectiveAt template index))) after
  split
  · rename_i text cut
    obtain rfl : c :: raw = text := Option.some.inj (inside.symm.trans cut)
    rfl
  · rename_i uncut
    rw [inside] at uncut
    contradiction

theorem reads_letters (before : Text) {letters : Text} {more : List Directive}
    (plain : ∀ c ∈ letters, c ≠ '\\' ∧ c ≠ '?')
    (goes_on : Reads (before ++ letters ++ rest) (before ++ letters).byteSize more) :
    Reads (before ++ letters ++ rest) before.byteSize (letters.map letter ++ more) := by
  induction letters generalizing before with
  | nil => simpa using goes_on
  | cons c letters ih =>
    have tail := ih (before ++ [c]) (fun d member => plain d (by simp [member]))
      (by simpa using goes_on)
    have here : (before ++ c :: letters ++ rest).dropBytes? before.byteSize =
        some (c :: (letters ++ rest)) := by
      rw [List.append_assoc]
      exact Text.dropBytes?_append _ _
    have size := c.utf8Size_pos
    apply reads_step (before.byteSize + c.utf8Size)
    · simp
      omega
    · exact readsAt_letter here (plain c (by simp))
    · simpa using tail

theorem reads_plain {letters : Text} (plain : ∀ c ∈ letters, c ≠ '\\' ∧ c ≠ '?') :
    Reads letters 0 (letters.map letter) := by
  have reads : Reads ([] ++ letters ++ []) 0 (letters.map letter ++ []) :=
    reads_letters [] plain (reads_end (by simp))
  simpa using reads

end Directive

theorem renderOnce_of_reads {template : Text} {ds : List Directive}
    (reads : Directive.Reads template 0 ds) (fields : Fields) :
    renderOnce template fields = .ok (Directive.showAll fields ds) := by
  obtain ⟨after, found⟩ := reads {}
  rw [renderOnce, renderTemplate, TemplateReader.bind_ok found]
  rfl

end MediaNaming
