import MediaNaming.Proofs.Naming.EpisodeShape
import MediaNaming.Proofs.Naming.MovieRereading

/-
The name and the shape of a movie. The template for valid names shows the brackets also where there
is no year; then they are empty, and the shape needs four digits in them. A year that is read has
four digits, so that the rest of the shape is a matter of the sectors.
-/
namespace MediaNaming

theorem hasMovieShape_iff {t : Text} : hasMovieShape t = true ↔
    ∃ c name year, t = c :: name ++ ([' ', '('] ++ year ++ [')']) ∧ isBlank c = false ∧
      lineBreak ∉ name ∧ year.length = 4 ∧ ∀ d ∈ year, isDecimal d = true := by
  constructor
  · intro shaped
    unfold hasMovieShape at shaped
    split at shaped
    · rename_i c name found
      obtain ⟨year, four, digits, text⟩ := beforeYear?_eq_some.1 found
      simp only [Bool.and_eq_true, Bool.not_eq_true', List.contains_eq_mem,
        decide_eq_false_iff_not] at shaped
      exact ⟨c, name, year, text, shaped.1, shaped.2, four, digits⟩
    · simp at shaped
  · rintro ⟨c, name, year, text, visible, line, four, digits⟩
    have found : beforeYear? t = some (c :: name) :=
      beforeYear?_eq_some.2 ⟨year, four, digits, text⟩
    simp [hasMovieShape, found, visible, line]

/-- The year in brackets at the end of a text can be cut off in one way only. -/
theorem bracketed_inj {name lead year digits : Text} (four : digits.length = 4)
    (fourToo : year.length = 4)
    (same : name ++ ([' ', '('] ++ digits ++ [')']) = lead ++ ([' ', '('] ++ year ++ [')'])) :
    name = lead := by
  have long : ([' ', '('] ++ digits ++ [')']).length = ([' ', '('] ++ year ++ [')']).length := by
    simp [four, fourToo]
  exact (List.append_inj' same long).1

namespace Movie

variable {m : Movie}

theorem renderOnce_shape (m : Movie) : renderOnce "C (Y)".toList m.fields =
    .ok (m.media.cleanName ++ ([' ', '('] ++ m.media.yearText ++ [')'])) := by
  have letters : "C (Y)".toList = ['C', ' ', '(', 'Y', ')'] := by decide
  have name : m.fields 'C' = some m.media.cleanName := rfl
  have blank : m.fields ' ' = none := rfl
  have bracket : m.fields '(' = none := rfl
  have year : m.fields 'Y' = some m.media.yearText := rfl
  have closing : m.fields ')' = none := rfl
  rw [renderOnce_of_reads (Directive.reads_plain (by decide)), showAll_letters, letters]
  simp [name, blank, bracket, year, closing]

theorem isValid_eq (m : Movie) : m.isValid =
    hasMovieShape (m.media.cleanName ++ ([' ', '('] ++ m.media.yearText ++ [')'])) := by
  rw [isValid, renderOnce_shape]

theorem isValid_of_dateless (dateless : m.media.year = -1) : m.isValid = false := by
  have empty : m.media.yearText = [] := by simp [MediaFile.yearText, dateless]
  rw [isValid_eq, empty, Bool.eq_false_iff]
  intro shaped
  obtain ⟨c, name, year, text, -, -, four, digits⟩ := hasMovieShape_iff.1 shaped
  obtain ⟨a, b, d, e, rfl⟩ := List.length_eq_four.1 four
  have brackets : m.media.cleanName ++ [' '] ++ ['('] =
      (c :: name ++ [' ', '(', a, b, d]) ++ [e] := by
    have whole : (m.media.cleanName ++ [' '] ++ ['(']) ++ [')'] =
        ((c :: name ++ [' ', '(', a, b, d]) ++ [e]) ++ [')'] := by simpa using text
    exact List.append_cancel_right whole
  have bracket : ['('] = [e] := (List.append_inj' brackets rfl).2
  have digit := digits e (by simp)
  rw [← List.head_eq_of_cons_eq bracket] at digit
  revert digit
  decide

theorem isValid_of_dated (recent : 1900 ≤ m.media.year ∧ m.media.year ≤ 2099) :
    m.isValid = true ↔ m.media.cleanName ≠ [] ∧
      (∀ c ∈ m.media.cleanName.head?, isBlank c = false) ∧ lineBreak ∉ m.media.cleanName := by
  have year : m.media.yearText = Text.ofNumber m.media.year.toNat := by
    rw [MediaFile.yearText, if_pos (by omega)]
  have four : (Text.ofNumber m.media.year.toNat).length = 4 := (year?_ofNumber (by omega)).1
  have digits : ∀ d ∈ Text.ofNumber m.media.year.toNat, isDecimal d = true := fun d member =>
    isDecimal_of_isDigit (ofNumber_digits _ d member)
  rw [isValid_eq, year, hasMovieShape_iff]
  constructor
  · rintro ⟨c, name, other, text, visible, line, fourToo, -⟩
    have named : m.media.cleanName = c :: name := bracketed_inj four fourToo text
    have broken : lineBreak ≠ c := by
      rintro rfl
      revert visible
      decide
    rw [named]
    exact ⟨by simp, by simpa using visible, by simp [broken, line]⟩
  · rintro ⟨named, visible, line⟩
    obtain ⟨c, name, cut⟩ := List.exists_cons_of_ne_nil named
    rw [cut] at visible line ⊢
    exact ⟨c, name, _, rfl, visible c rfl, fun inside => line (by simp [inside]), four, digits⟩

end Movie

theorem movie_name_and_validity {input : Text} {m : Movie}
    (read : ({} : Renamer).parseMovie input = .ok m) :
    ({} : Renamer).renderMovie m = .ok (m.media.cleanName ++
        (if 0 < m.media.year then
          " (".toList ++ Text.ofNumber m.media.year.toNat ++ ")".toList else []) ++
        if 0 < m.media.part then " - part ".toList ++ Text.ofNumber m.media.part else []) ∧
      (m.isValid = true ↔ m.media.year ≠ -1 ∧ m.media.cleanName ≠ [] ∧
        (∀ c ∈ m.media.cleanName.head?, isBlank c = false) ∧ lineBreak ∉ m.media.cleanName) := by
  constructor
  · rw [Movie.renderMovie_canonicalName]
    rfl
  · rcases (Movie.sound_of_read read).year with dateless | recent
    · simp [Movie.isValid_of_dateless dateless, dateless]
    · have found : m.media.year ≠ -1 := by omega
      simp [Movie.isValid_of_dated recent, found]

theorem movie_name_and_validity_part_two : ∃ m,
    ({} : Renamer).parseMovie "The.Matrix.1999.CD2.mkv".toList = .ok m ∧
      ({} : Renamer).renderMovie m = .ok "The Matrix (1999) - part 2".toList ∧
        m.isValid = true := by
  have read : ({} : Renamer).parseMovie "The.Matrix.1999.CD2.mkv".toList =
      .ok ⟨⟨"The.Matrix.1999.CD2".toList, "mkv".toList, [], 1999, 2, none,
        ["The".toList, "Matrix".toList]⟩⟩ := by decide +kernel
  obtain ⟨name, valid⟩ := movie_name_and_validity read
  exact ⟨_, read, name, valid.2 ⟨by decide, by decide, by decide, by decide⟩⟩

end MediaNaming
