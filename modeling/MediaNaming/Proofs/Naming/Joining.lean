import MediaNaming.Episode.Parts
import MediaNaming.Proofs.Naming.Fragments

/-
How sectors are joined to series name and title. Hyphens and blanks at either end fall away, and
so do the sectors that spell the year, unless nothing else would be left of the name.
-/
namespace MediaNaming

def hyphen : Text := ['-']

theorem joinSectors_hyphen_left (words : List Text) :
    joinSectors (hyphen :: words) = joinSectors words := by
  by_cases none : words = []
  · rw [none]
    decide
  · rw [joinSectors, Text.join_cons _ _ none, Text.trimEnds_append_left _ (by decide)]
    rfl

theorem joinSectors_hyphen_right (words : List Text) :
    joinSectors (words ++ [hyphen]) = joinSectors words := by
  by_cases none : words = []
  · rw [none]
    decide
  · rw [joinSectors, Text.join_append _ _ none, List.append_assoc,
      Text.trimEnds_append_right _ (by decide)]
    rfl

theorem joinSectors_dropped {words : List Text}
    (dropped : ∀ w ∈ words, ∀ c ∈ w, isHyphenOrBlank c = true) : joinSectors words = [] := by
  induction words with
  | nil => rfl
  | cons w words ih =>
    have here := dropped w (by simp)
    have later := ih fun v member => dropped v (by simp [member])
    by_cases last : words = []
    · have nothing : w.trimEnds isHyphenOrBlank = [] := by
        rw [← List.append_nil w, Text.trimEnds_append_left [] here]
        rfl
      simpa [last, joinSectors, Text.join, List.intercalate] using nothing
    · rw [joinSectors, Text.join_cons _ _ last, Text.trimEnds_append_left]
      · exact later
      · intro c member
        rcases List.mem_append.1 member with inside | between
        · exact here c inside
        · obtain rfl := List.mem_singleton.1 between
          decide

/-- The word is the year and nothing else, in brackets or not. -/
def spellsYear (year : Int) (w : Text) : Bool :=
  decide (0 < year) && withoutBrackets w == Text.ofNumber year.toNat

theorem spellsYear_of_undigit {year : Int} {w : Text} {c : Char} (member : c ∈ withoutBrackets w)
    (undigit : c.isDigit = false) : spellsYear year w = false := by
  have other : withoutBrackets w ≠ Text.ofNumber year.toNat := by
    intro same
    rw [ofNumber_digits year.toNat c (same ▸ member)] at undigit
    contradiction
  simp [spellsYear, other]

theorem spellsYear_hyphen (year : Int) : spellsYear year hyphen = false :=
  spellsYear_of_undigit (c := '-') (by decide) rfl

theorem spellsYear_ofNumber {y : Nat} {w : Text} (positive : 0 < y)
    (bare : withoutBrackets w = Text.ofNumber y) : spellsYear (Int.ofNat y) w = true := by
  simp [spellsYear, bare, positive]

variable {year : Int} {words : List Text}

theorem withoutYear_eq_filter (year : Int) (words : List Text) :
    withoutYear year words = words.filter fun w => !spellsYear year w := by
  simp only [withoutYear]
  split
  · rename_i early
    have none : ∀ w, spellsYear year w = false := by
      intro w
      simp only [spellsYear, Bool.and_eq_false_iff, decide_eq_false_iff_not]
      exact Or.inl (by omega)
    simp [none]
  · rename_i late
    have all : decide (0 < year) = true := by
      rw [decide_eq_true_eq]
      omega
    simp [spellsYear, all, bne]

theorem withoutYear_append (year : Int) (before after : List Text) :
    withoutYear year (before ++ after) = withoutYear year before ++ withoutYear year after := by
  simp only [withoutYear_eq_filter, List.filter_append]

theorem withoutYear_undated (undated : ∀ w ∈ words, spellsYear year w = false) :
    withoutYear year words = words := by
  rw [withoutYear_eq_filter]
  apply List.filter_eq_self.2
  intro w member
  simp [undated w member]

theorem withoutYear_spelled (spelled : ∀ w ∈ words, spellsYear year w = true) :
    withoutYear year words = [] := by
  rw [withoutYear_eq_filter]
  apply List.filter_eq_nil_iff.2
  intro w member
  simp [spelled w member]

theorem joinName_of_ne_nil (named : joinSectors (withoutYear year words) ≠ []) :
    joinName year words = joinSectors (withoutYear year words) := by
  rw [joinName]
  split
  · rename_i empty
    exact absurd empty named
  · rfl

end MediaNaming
