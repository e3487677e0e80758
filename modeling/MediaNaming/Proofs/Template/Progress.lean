import MediaNaming.Proofs.Template.Failure

/-
Progress of rendering. Each call looks at less text than the one it follows or serves: the text
behind a directive, the text under a question mark, or the content of a group. So there are no more
calls in a row than the template has bytes, and every one of them stands between two characters.
-/
namespace MediaNaming
open Directive

def Text.IsBoundary (t : Text) (index : Nat) : Prop := ∃ rest, t.dropBytes? index = some rest

theorem Text.IsBoundary.le {t : Text} {index : Nat} (boundary : t.IsBoundary index) :
    index ≤ t.byteSize := by
  obtain ⟨rest, here⟩ := boundary
  have position := Text.dropBytes?_position here
  omega

/-- Rendering calls itself: for the directive after this one, for the directive under a question
    mark, and for the content of a group. -/
inductive Calls (fields : Fields) : Text × Nat → Text × Nat → Prop
  | next {template : Text} {index next : Nat} {shown : Rendered} {cache : GroupCache}
      (inside : index < template.byteSize)
      (rendered : (renderAt template index fields cache).1 = .ok (shown, next)) :
      Calls fields (template, index) (template, next)
  | optional {template rest : Text} {index : Nat} {c : Char}
      (here : template.dropBytes? index = some ('?' :: c :: rest)) (single : c ≠ '(') :
      Calls fields (template, index) (template, index + 1)
  | group {template rest : Text} {index : Nat} {g : Group}
      (here : template.dropBytes? index = some ('?' :: '(' :: rest))
      (found : scanGroup template (index + 1) = .ok g) :
      Calls fields (template, index) (g.content, 0)

inductive CallWalk (fields : Fields) : Nat → Text × Nat → Text × Nat → Prop
  | zero (p : Text × Nat) : CallWalk fields 0 p p
  | next {n : Nat} {p q r : Text × Nat} (first : Calls fields p q) (more : CallWalk fields n q r) :
      CallWalk fields (n + 1) p r

def bytesLeft (p : Text × Nat) : Nat := p.1.byteSize - p.2

variable {fields : Fields} {n : Nat} {p q : Text × Nat}

theorem calls_decrease (calls : Calls fields p q) : bytesLeft q < bytesLeft p := by
  unfold bytesLeft
  cases calls with
  | next inside rendered =>
    obtain ⟨found, _, rfl⟩ := renderAt_ok rendered
    have later := found.advances inside
    simp only
    omega
  | optional here single =>
    have inside := Text.dropBytes?_cons_lt here
    simp only
    omega
  | @group template rest index g here found =>
    have opens : template.dropBytes? (index + 1) = some ('(' :: rest) :=
      Text.dropBytes?_later ['?'] here
    obtain ⟨after, rfl, _, _⟩ := scanGroup_ok opens found
    have position := Text.dropBytes?_position opens
    have inside := Text.dropBytes?_cons_lt here
    simp at position ⊢
    omega

theorem walk_bound (walk : CallWalk fields n p q) : n + bytesLeft q ≤ bytesLeft p := by
  induction walk with
  | zero p => omega
  | next first more ih =>
    have less := calls_decrease first
    omega

theorem renderAt_boundary {template : Text} {index : Nat} (boundary : template.IsBoundary index)
    (fields : Fields) (cache : GroupCache) :
    (∀ shown next, (renderAt template index fields cache).1 = .ok (shown, next) →
        template.IsBoundary next) ∧
      ∀ e, (renderAt template index fields cache).1 = .error e → UnclosedIn template e := by
  obtain ⟨t, here⟩ := boundary
  have ends := reading_ends.1 template index t here
  constructor
  · intro shown next rendered
    obtain ⟨found, read, rfl⟩ := renderAt_ok rendered
    obtain ⟨rest, _, goes, _⟩ := ends.ok read
    exact ⟨rest, goes⟩
  · intro e failed
    rw [renderAt_answer, map_eq_error] at failed
    exact (ends.error failed).1

theorem calls_boundary (calls : Calls fields p q) (boundary : p.1.IsBoundary p.2) :
    q.1.IsBoundary q.2 := by
  cases calls with
  | next inside rendered => exact (renderAt_boundary boundary _ _).1 _ _ rendered
  | optional here single => exact ⟨_, Text.dropBytes?_later ['?'] here⟩
  | group here found => exact ⟨_, by rw [Text.dropBytes?]⟩

theorem walk_boundary (walk : CallWalk fields n p q) (boundary : p.1.IsBoundary p.2) :
    q.1.IsBoundary q.2 := by
  induction walk with
  | zero p => exact boundary
  | next first more ih => exact ih (calls_boundary first boundary)

theorem rendering_progresses (template : Text) (fields : Fields) :
    (∀ index cache, template.IsBoundary index → index < template.byteSize →
        match (renderAt template index fields cache).1 with
        | .ok (_, next) => template.IsBoundary next ∧ index < next ∧ next ≤ template.byteSize
        | .error e => ∃ start, e = .unterminatedGroup template start) ∧
      (∀ first n text index, template.IsBoundary first →
        CallWalk fields n (template, first) (text, index) →
        first + n ≤ template.byteSize ∧ text.IsBoundary index ∧
          ∀ cache e, (renderAt text index fields cache).1 = .error e →
            ∃ start, e = .unterminatedGroup text start) ∧
      ∀ cache e, (renderTemplate template fields cache).1 = .error e →
        ∃ start, e = .unterminatedGroup template start := by
  have named {text : Text} {e : NamingError} (unclosed : UnclosedIn text e) :
      ∃ start, e = .unterminatedGroup text start := by
    obtain ⟨before, _, _, same⟩ := unclosed
    exact ⟨_, same⟩
  refine ⟨fun index cache boundary inside => ?_, fun first n text index start walk => ?_,
    fun cache e failed => ?_⟩
  · have ends := renderAt_boundary boundary fields cache
    split
    · rename_i shown next rendered
      have goes := ends.1 shown next rendered
      obtain ⟨found, _, rfl⟩ := renderAt_ok rendered
      exact ⟨goes, found.advances inside, goes.le⟩
    · rename_i e failed
      exact named (ends.2 e failed)
  · have bound := walk_bound walk
    have boundary := walk_boundary walk start
    refine ⟨?_, boundary, fun cache e failed => ?_⟩
    · have inside := start.le
      simp only [bytesLeft] at bound
      omega
    · exact named ((renderAt_boundary boundary fields cache).2 e failed)
  · rw [renderTemplate_answer, map_eq_error] at failed
    exact named ((reading_ends.2 template 0 template (by rw [Text.dropBytes?])).error failed).1

end MediaNaming
