import MediaNaming.Proofs.Naming.Separators

/-
The canonical name of a movie. The template shows the sectors with a space between them, and then
year and part where there are any.
-/
namespace MediaNaming

def partWord : Text := "part".toList

def partGroup : Text := " - part P".toList

def movieDirectives : List Directive :=
  [.letter 'C', .group yearGroup (yearGroup.map .letter),
    .group partGroup (partGroup.map .letter)]

theorem reads_movieFormat : Directive.Reads "C?( (Y))?( - part P)".toList 0 movieDirectives := by
  have apart : "C?( (Y))?( - part P)".toList =
      ([] : Text) ++ ['C'] ++ "?( (Y))?( - part P)".toList := by decide
  have year : scanGroup "C?( (Y))?( - part P)".toList 2 = .ok ⟨yearGroup, 8⟩ :=
    scanGroup_of "( (Y))?( - part P)".toList 5 (by decide) (by decide) (by decide)
  have part : scanGroup "C?( (Y))?( - part P)".toList 9 = .ok ⟨partGroup, 20⟩ :=
    scanGroup_of "( - part P)".toList 10 (by decide) (by decide) (by decide)
  have size : Text.byteSize "C?( (Y))?( - part P)".toList = 20 := by decide
  have last : Directive.Reads "C?( (Y))?( - part P)".toList 8
      [.group partGroup (partGroup.map .letter)] := by
    apply Directive.reads_step 20 (by omega)
    · exact Directive.readsAt_group " - part P)".toList (by decide) part
        (Directive.reads_plain (by decide))
    · exact Directive.reads_end (by omega)
  have groups : Directive.Reads "C?( (Y))?( - part P)".toList 1
      [.group yearGroup (yearGroup.map .letter), .group partGroup (partGroup.map .letter)] := by
    apply Directive.reads_step 8 (by omega) _ last
    exact Directive.readsAt_group " (Y))?( - part P)".toList (by decide) year
      (Directive.reads_plain (by decide))
  rw [apart] at groups ⊢
  exact Directive.reads_letters [] (by decide) groups

namespace MediaFile

def partPart (m : MediaFile) : Text :=
  if 0 < m.part then spacedHyphen ++ partWord ++ ' ' :: Text.ofNumber m.part else []

def partSectors (m : MediaFile) : List Text :=
  if 0 < m.part then [hyphen, partWord, Text.ofNumber m.part] else []

theorem shown_partPart (m : MediaFile) :
    (Rendered.gate partGroup (spacedHyphen ++ partWord ++ ' ' :: m.partText)).shown =
      m.partPart := by
  rw [partPart, partText]
  split
  · have digits : 0 < (Text.ofNumber m.part).length := List.length_pos_iff.2 Nat.toDigits_ne_nil
    have apart : partGroup = spacedHyphen ++ partWord ++ ' ' :: ['P'] := by decide
    have shown : Rendered.gate partGroup (spacedHyphen ++ partWord ++ ' ' :: Text.ofNumber m.part) =
        .text (spacedHyphen ++ partWord ++ ' ' :: Text.ofNumber m.part) := by
      apply gate_text (c := '-') (by simp [spacedHyphen]) (by decide)
      · intro same
        rw [apart] at same
        have only : Text.ofNumber m.part = ['P'] := (List.cons.inj (List.append_cancel_left same)).2
        have digit := ofNumber_digits m.part 'P' (by simp [only])
        revert digit
        decide
      · rw [apart]
        simp only [List.length_append, List.length_cons, List.length_nil]
        omega
    rw [shown]
    rfl
  · decide

theorem partPart_words (m : MediaFile) :
    (∀ c ∈ m.partPart.head?, c = ' ') ∧ wordsOf m.partPart = m.partSectors := by
  rw [partPart, partSectors]
  split
  · have shown : spacedHyphen ++ partWord ++ ' ' :: Text.ofNumber m.part =
        ' ' :: (hyphen ++ ' ' :: (partWord ++ ' ' :: Text.ofNumber m.part)) := rfl
    have hyphens : wordsOf hyphen = [hyphen] := wordsOf_solid (by decide) (by decide)
    have word : wordsOf partWord = [partWord] := wordsOf_solid (by decide) (by decide)
    have number : wordsOf (Text.ofNumber m.part) = [Text.ofNumber m.part] :=
      wordsOf_solid Nat.toDigits_ne_nil fun c member => (clean_ofNumber m.part c member).1
    rw [shown, wordsOf_cons_space, wordsOf_space, wordsOf_space, hyphens, word, number]
    exact ⟨by simp, rfl⟩
  · exact ⟨by simp, rfl⟩

theorem flat_partPart (m : MediaFile) : pathSeparator ∉ m.partPart := by
  rw [partPart]
  split
  · intro inside
    simp only [List.mem_append, List.mem_cons] at inside
    rcases inside with (hyphen | word) | blank | digit
    · revert hyphen
      decide
    · revert word
      decide
    · revert blank
      decide
    · exact (clean_ofNumber m.part pathSeparator digit).2 rfl
  · simp

end MediaFile

namespace Movie

def canonicalName (m : Movie) : Text := m.media.cleanName ++ m.media.yearPart ++ m.media.partPart

theorem renderMovie_canonicalName (m : Movie) :
    ({} : Renamer).renderMovie m = .ok m.canonicalName := by
  have blank : m.fields ' ' = none := rfl
  have year : Directive.showAll m.fields (yearGroup.map .letter) =
      [' ', '('] ++ m.media.yearText ++ [')'] := by
    have letters : yearGroup = [' ', '(', 'Y', ')'] := by decide
    have text : m.fields 'Y' = some m.media.yearText := rfl
    have bracket : m.fields '(' = none := rfl
    have closing : m.fields ')' = none := rfl
    rw [showAll_letters, letters]
    simp [blank, bracket, text, closing]
  have part : Directive.showAll m.fields (partGroup.map .letter) =
      spacedHyphen ++ partWord ++ ' ' :: m.media.partText := by
    have letters : partGroup = [' ', '-', ' ', 'p', 'a', 'r', 't', ' ', 'P'] := by decide
    have hyphen : m.fields '-' = none := rfl
    have text : m.fields 'P' = some m.media.partText := rfl
    have word : m.fields 'p' = none ∧ m.fields 'a' = none ∧ m.fields 'r' = none ∧
        m.fields 't' = none := ⟨rfl, rfl, rfl, rfl⟩
    have spelled : partWord = ['p', 'a', 'r', 't'] := by decide
    rw [showAll_letters, letters, spelled]
    simp [blank, hyphen, text, word, spacedHyphen]
  have groups : Directive.showAll m.fields [.group yearGroup (yearGroup.map .letter),
      .group partGroup (partGroup.map .letter)] = m.media.yearPart ++ m.media.partPart := by
    simp only [Directive.showAll, Directive.render, year, part, MediaFile.shown_yearPart,
      MediaFile.shown_partPart, List.append_nil]
  have shown : Directive.showAll m.fields movieDirectives = m.canonicalName := by
    have name : m.fields 'C' = some m.media.cleanName := rfl
    rw [movieDirectives, Directive.showAll, groups, Directive.render, name, canonicalName,
      List.append_assoc]
    rfl
  rw [← shown]
  exact renderOnce_of_reads reads_movieFormat m.fields

def canonicalWords (m : Movie) : List Text :=
  m.media.sectors ++ m.media.yearSectors ++ m.media.partSectors

theorem wordsOf_canonicalName {m : Movie} (solid : ∀ s ∈ m.media.sectors, s ≠ [] ∧ Solid s) :
    wordsOf m.canonicalName = m.canonicalWords := by
  obtain ⟨yearSpace, year⟩ := m.media.yearPart_words
  obtain ⟨partSpace, part⟩ := m.media.partPart_words
  rw [canonicalName, wordsOf_part partSpace, wordsOf_part yearSpace, MediaFile.cleanName,
    wordsOf_join solid, year, part, canonicalWords]

theorem flat_canonicalName {m : Movie} (solid : ∀ s ∈ m.media.sectors, s ≠ [] ∧ Solid s) :
    pathSeparator ∉ m.canonicalName := by
  intro inside
  simp only [canonicalName, List.mem_append] at inside
  rcases inside with (name | year) | part
  · rcases (spaced_join solid).1 pathSeparator name with blank | here
    · revert blank
      decide
    · revert here
      decide
  · exact m.media.flat_yearPart year
  · exact m.media.flat_partPart part

end Movie
end MediaNaming
