import MediaNaming.Proofs.Naming.Phrase

/-
Where the words of a series name and of a title come from: each one is a sector, but for hyphens
and blanks that were trimmed away at its two ends.
-/
namespace MediaNaming

/-- One of the sectors is the word with hyphens and blanks on its two sides. -/
def TrimmedFrom (sectors : List Text) (w : Text) : Prop :=
  ∃ x y, x ++ w ++ y ∈ sectors ∧ (∀ c ∈ x, isHyphenOrBlank c = true) ∧
    ∀ c ∈ y, isHyphenOrBlank c = true

namespace TrimmedFrom

variable {sectors others : List Text} {w : Text}

theorem mono (trimmed : TrimmedFrom sectors w) (among : sectors ⊆ others) : TrimmedFrom others w :=
  let ⟨x, y, member, before, after⟩ := trimmed
  ⟨x, y, among member, before, after⟩

theorem trans (trimmed : TrimmedFrom sectors w) (each : ∀ v ∈ sectors, TrimmedFrom others v) :
    TrimmedFrom others w := by
  obtain ⟨x, y, member, before, after⟩ := trimmed
  obtain ⟨x', y', whole, before', after'⟩ := each _ member
  refine ⟨x' ++ x, y ++ y', by simpa using whole, ?_, ?_⟩
  · exact fun c inside => (List.mem_append.1 inside).elim (before' c) (before c)
  · exact fun c inside => (List.mem_append.1 inside).elim (after c) (after' c)

theorem subset (trimmed : TrimmedFrom sectors w) : ∃ s ∈ sectors, w ⊆ s := by
  obtain ⟨x, y, member, -⟩ := trimmed
  exact ⟨_, member, fun c inside => by simp [inside]⟩

end TrimmedFrom

theorem wordsOf_trimEnds {drops : Char → Bool}
    (dropped : ∀ c, drops c = true → isHyphenOrBlank c = true) (t : Text) :
    ∀ w ∈ wordsOf (t.trimEnds drops), TrimmedFrom (wordsOf t) w := by
  intro w member
  obtain ⟨piece, full⟩ := List.mem_filter.1 member
  obtain ⟨lead, tail, whole, before, after⟩ := Text.trimEnds_within drops t
  obtain ⟨x, y, among, fromLead, fromTail⟩ := Text.mem_pieces_within lead tail piece
  rw [← whole] at among
  refine ⟨x, y, List.mem_filter.2 ⟨among, isFull_iff.2 ?_⟩, ?_, ?_⟩
  · simp [isFull_iff.1 full]
  · exact fun c inside => dropped c (before c (fromLead c inside))
  · exact fun c inside => dropped c (after c (fromTail c inside))

theorem words_joinSectors {sectors : List Text} (solid : ∀ t ∈ sectors, t ≠ [] ∧ Solid t) :
    ∀ w ∈ wordsOf (joinSectors sectors), TrimmedFrom sectors w := by
  intro w member
  have trimmed := wordsOf_trimEnds (fun _ => id) _ w member
  rwa [wordsOf_join solid] at trimmed

theorem words_splitAtHyphen {t left right : Text} (found : splitAtHyphen? t = some (left, right)) :
    ∀ w ∈ wordsOf left ++ wordsOf right, TrimmedFrom (wordsOf t) w := by
  obtain ⟨front, back, ⟨text, -, -⟩, rfl, rfl⟩ := splitAtHyphen?_eq_some.1 found
  have whole : wordsOf t = wordsOf front ++ (wordsOf ['-'] ++ wordsOf back) := by
    rw [text, wordsOf_space, ← wordsOf_space ['-'] back]
    rfl
  have blank : ∀ c, isBlank c = true → isHyphenOrBlank c = true := by
    simp +contextual [isHyphenOrBlank]
  intro w member
  rcases List.mem_append.1 member with earlier | later
  · exact (wordsOf_trimEnds blank _ w earlier).mono (by simp [whole])
  · exact (wordsOf_trimEnds blank _ w later).mono (by simp [whole])

theorem words_nameAndTitle {sectors : List Text} (solid : ∀ t ∈ sectors, t ≠ [] ∧ Solid t)
    (block : Option (Nat × Nat)) (year : Int) :
    ∀ w ∈ wordsOf (nameAndTitle sectors block year).1 ++
      wordsOf (nameAndTitle sectors block year).2, TrimmedFrom sectors w := by
  have part {part : List Text} (among : part ⊆ sectors) :
      ∀ w ∈ wordsOf (joinSectors part), TrimmedFrom sectors w := fun w member =>
    (words_joinSectors (fun t here => solid t (among here)) w member).mono among
  have undated {part : List Text} (among : part ⊆ sectors) : withoutYear year part ⊆ sectors := by
    rw [withoutYear_eq_filter]
    exact fun t member => among (List.mem_filter.1 member).1
  have name {part' : List Text} (among : part' ⊆ sectors) :
      ∀ w ∈ wordsOf (joinName year part'), TrimmedFrom sectors w := by
    rw [joinName]
    split
    · exact part among
    · exact part (undated among)
  simp only [nameAndTitle]
  split
  · simpa [show wordsOf [] = [] from rfl] using name fun t member => member
  · rename_i stop
    have after := part (List.drop_subset (stop + 1) sectors)
    cases found : splitAtHyphen? (joinSectors (sectors.drop (stop + 1))) with
    | none => simpa [show wordsOf [] = [] from rfl] using after
    | some parts => exact fun w member => (words_splitAtHyphen found w member).trans after
  · rename_i start stop
    intro w member
    rcases List.mem_append.1 member with earlier | later
    · exact name (List.take_subset (start + 1) sectors) w earlier
    · exact part (undated (List.drop_subset (stop + 1) sectors)) w later

end MediaNaming
