import MediaNaming.Proofs.Template.Failure
import MediaNaming.Proofs.Template.Reading

/-
How directives are spelled. A directive is read from its own raw text and looks past it only to see
whether the text goes on; the directives of a template are those that it spells, one after another.
-/
namespace MediaNaming

namespace Directive

mutual

/-- In front of the second text, the first one is read as this directive. -/
inductive Spells : Text → Directive → Text → Prop
  | trailing {c : Char} (mark : c = '\\' ∨ c = '?') : Spells [c] .blank []
  | escape (c : Char) (rest : Text) : Spells ['\\', c] (.literal c) rest
  | letter {c : Char} (rest : Text) (plain : c ≠ '\\' ∧ c ≠ '?') : Spells [c] (.letter c) rest
  | group {content : Text} {body : List Directive} (rest : Text) (balanced : Balanced content)
      (inner : SpellsAll content body) :
      Spells ('?' :: '(' :: content ++ [')']) (.group content body) rest
  | optional {c : Char} {raw rest : Text} {d : Directive} (single : c ≠ '(')
      (inner : Spells (c :: raw) d rest) : Spells ('?' :: c :: raw) (.optional (c :: raw) d) rest

inductive SpellsAll : Text → List Directive → Prop
  | nil : SpellsAll [] []
  | cons {raw rest : Text} {d : Directive} {ds : List Directive} (first : Spells raw d rest)
      (more : SpellsAll rest ds) : SpellsAll (raw ++ rest) (d :: ds)

end

variable {template t raw rest : Text} {index : Nat} {d : Directive} {ds : List Directive}

theorem Spells.ne_nil (spells : Spells raw d rest) : raw ≠ [] := by
  cases spells <;> simp

theorem spelling_induct {One : Text → Directive → Text → Prop} {All : Text → List Directive → Prop}
    (trailing : ∀ {c}, c = '\\' ∨ c = '?' → One [c] .blank [])
    (escape : ∀ c rest, One ['\\', c] (.literal c) rest)
    (letter : ∀ {c} rest, c ≠ '\\' ∧ c ≠ '?' → One [c] (.letter c) rest)
    (group : ∀ {content body} rest, Balanced content → All content body →
      One ('?' :: '(' :: content ++ [')']) (.group content body) rest)
    (optional : ∀ {c raw rest d}, c ≠ '(' → One (c :: raw) d rest →
      One ('?' :: c :: raw) (.optional (c :: raw) d) rest)
    (nil : All [] [])
    (cons : ∀ {raw rest d ds}, raw ≠ [] → One raw d rest → All rest ds →
      All (raw ++ rest) (d :: ds)) :
    (∀ {raw d rest}, Spells raw d rest → One raw d rest) ∧
      ∀ {t ds}, SpellsAll t ds → All t ds := by
  constructor
  · intro raw d rest spells
    exact @Spells.rec (fun raw d rest _ => One raw d rest) (fun t ds _ => All t ds) trailing escape
      letter (fun rest balanced _ => group rest balanced) (fun single _ => optional single) nil
      (fun first _ => cons first.ne_nil) raw d rest spells
  · intro t ds spells
    exact @SpellsAll.rec (fun raw d rest _ => One raw d rest) (fun t ds _ => All t ds) trailing escape
      letter (fun rest balanced _ => group rest balanced) (fun single _ => optional single) nil
      (fun first _ => cons first.ne_nil) t ds spells

open TemplateReader in
theorem reading_spelled :
    (∀ template index t, template.dropBytes? index = some t → t ≠ [] →
      Ends (readAt template index)
        (fun found => ∃ raw rest, t = raw ++ rest ∧ Spells raw found.directive rest ∧
          template.dropBytes? found.next = some rest) fun _ => True) ∧
    ∀ template index t, template.dropBytes? index = some t →
      Ends (readFrom template index) (SpellsAll t) fun _ => True := by
  apply reading_induct
  case outside =>
    intro template index here t other
    cases here.symm.trans other
  case plain =>
    intro template index t d rest here plain u same some_text
    obtain rfl : u = t := Option.some.inj (same.symm.trans here)
    obtain ⟨found, reads, rfl, after⟩ := readAt_plain here plain
    rw [reads]
    refine ends_pure ?_
    generalize found.directive = d at plain
    cases plain with
    | ended => exact absurd rfl some_text
    | trailing mark => exact ⟨_, [], rfl, .trailing mark, after⟩
    | escape c rest => exact ⟨_, rest, rfl, .escape c rest, after⟩
    | letter rest plain => exact ⟨_, rest, rfl, .letter rest plain, after⟩
  case group =>
    intro template index rest here inner u same _
    obtain rfl : u = _ := Option.some.inj (same.symm.trans here)
    rw [readAt_group here]
    refine ((ends_extract _ _).weaken (fun _ => id) fun _ _ => trivial).bind fun g found => ?_
    have opens : template.dropBytes? (index + 1) = some ('(' :: rest) :=
      Text.dropBytes?_later ['?'] here
    obtain ⟨after, rfl, balanced, goes⟩ := scanGroup_ok opens found
    refine (inner g g.content (by rw [Text.dropBytes?])).bind fun body spells => ends_pure ?_
    exact ⟨'?' :: '(' :: g.content ++ [')'], after, by simp, .group after balanced spells, goes⟩
  case optional =>
    intro template index c rest here single inner u same _
    obtain rfl : u = _ := Option.some.inj (same.symm.trans here)
    rw [readAt_optional here single]
    have opens : template.dropBytes? (index + 1) = some (c :: rest) :=
      Text.dropBytes?_later ['?'] here
    refine (inner _ opens (by simp)).bind fun found spelled => ?_
    obtain ⟨raw, after, whole, spells, goes⟩ := spelled
    obtain ⟨c', raw, rfl⟩ := List.exists_cons_of_ne_nil spells.ne_nil
    cases whole
    have inside : template.slice? (index + 1) found.next = some (c :: raw) :=
      Text.slice?_between opens goes
    -- the text that is cut out for the conditional is what the inner directive was read from
    split
    · rename_i text cut
      obtain rfl : c :: raw = text := Option.some.inj (inside.symm.trans cut)
      exact ends_pure ⟨'?' :: c :: raw, after, rfl, .optional single spells, goes⟩
    · exact fun _ => trivial
  case done =>
    intro template index outside t here
    have none : t = [] := by
      by_contra some_text
      have inside := (Text.dropBytes?_inside here).1 some_text
      omega
    rw [readFrom, dif_neg (by omega), none]
    exact ends_pure .nil
  case more =>
    intro template index inside first later t here
    rw [readFrom, dif_pos inside]
    refine (first t here ((Text.dropBytes?_inside here).2 inside)).bind fun found spelled => ?_
    obtain ⟨raw, rest, rfl, spells, goes⟩ := spelled
    refine (later found rest goes).bind fun ds more => ?_
    exact ends_pure (.cons spells more)

theorem spelled_reads :
    (∀ {raw d rest}, Spells raw d rest → ∀ template index,
      template.dropBytes? index = some (raw ++ rest) →
        ReadsAt template index d (index + raw.byteSize)) ∧
    ∀ {t ds}, SpellsAll t ds → ∀ template index, template.dropBytes? index = some t →
      Reads template index ds := by
  apply spelling_induct
  case trailing =>
    intro c mark template index here
    exact readsAt_plain here (.trailing mark)
  case escape =>
    intro c rest template index here
    exact readsAt_plain here (.escape c rest)
  case letter =>
    intro c rest plain template index here
    exact readsAt_plain here (.letter rest plain)
  case group =>
    intro content body rest balanced inner template index here
    have later : template.dropBytes? (index + 1) = some ('(' :: content ++ [')'] ++ rest) :=
      Text.dropBytes?_later ['?'] here
    have opens : template.dropBytes? (index + 1) = some ('(' :: (content ++ ')' :: rest)) := by
      simpa using later
    have reads := readsAt_group (content ++ ')' :: rest) (by simpa using here)
      (scanGroup_balanced opens balanced) (inner content 0 (by rw [Text.dropBytes?]))
    have size : index + Text.byteSize ('?' :: '(' :: content ++ [')']) =
        index + 1 + content.byteSize + 2 := by
      simp [show '?'.utf8Size = 1 from rfl, show '('.utf8Size = 1 from rfl,
        show ')'.utf8Size = 1 from rfl]
      omega
    rwa [size]
  case optional =>
    intro c raw rest d single inner template index here
    exact readsAt_optional here single (inner template (index + 1) (Text.dropBytes?_later ['?'] here))
  case nil =>
    intro template index here
    have position := Text.dropBytes?_position here
    exact reads_end (Nat.le_of_eq position.symm)
  case cons =>
    intro raw rest d ds some_text first more template index here
    have inside := (Text.dropBytes?_inside here).1 (by simp [some_text])
    exact reads_step (index + Text.byteSize raw) inside (first template index here)
      (more template _ (Text.dropBytes?_later raw here))

theorem spellsAll_of_read {cache : GroupCache} (read : (readFrom template 0 cache).1 = .ok ds) :
    SpellsAll template ds :=
  (reading_spelled.2 template 0 template (by rw [Text.dropBytes?])).ok read

theorem SpellsAll.reads (spells : SpellsAll template ds) : Reads template 0 ds :=
  spelled_reads.2 spells template 0 (by rw [Text.dropBytes?])

end Directive

theorem renderTemplate_ok_iff {template shown : Text} {fields : Fields} {cache : GroupCache} :
    (renderTemplate template fields cache).1 = .ok shown ↔
      ∃ ds, Directive.SpellsAll template ds ∧ Directive.showAll fields ds = shown := by
  rw [renderTemplate_answer, map_eq_ok]
  constructor
  · rintro ⟨ds, read, same⟩
    exact ⟨ds, Directive.spellsAll_of_read read, same⟩
  · rintro ⟨ds, spells, same⟩
    obtain ⟨_, read⟩ := spells.reads {}
    exact ⟨ds, congrArg Prod.fst read, same⟩

end MediaNaming
