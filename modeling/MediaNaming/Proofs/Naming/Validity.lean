import MediaNaming.Proofs.Episode.Assertions
import MediaNaming.Proofs.Naming.EpisodeShape
import MediaNaming.Proofs.Naming.Rereading
import MediaNaming.Proofs.Naming.TrimmedWords

/-
When an episode is valid. Its canonical name has the shape of a name with numbers exactly if the
numbers of the episode have it: no word of the series name or the title can stand in for them,
since the scan respells every cross it passes.
-/
namespace MediaNaming

theorem isHyphenOrBlank_ascii {c : Char} (low : c.toNat < 128) (trims : isHyphenOrBlank c = true) :
    c.isAlphanum = false ∧ isLetter 's' c = false ∧ isLetter 'e' c = false := by
  have other := ascii_forall (p := fun c => !isHyphenOrBlank c ||
    (!c.isAlphanum && !isLetter 's' c && !isLetter 'e' c)) (by decide) low
  simpa [trims, and_assoc] using other

section Numbering

theorem TwoDigits.short {t : Text} (number : TwoDigits t) (low : ∀ c ∈ t, c.toNat < 128) :
    ShortDigits t where
  digits c member := by
    rw [← isDecimal_of_ascii (low c member)]
    exact number.digits c member
  nonempty := List.ne_nil_of_length_pos (by simp [number.two])
  short := by simp [number.two]

theorem Numbering.wordsOf {w rest : Text} (numbering : Numbering w) (name : Text)
    (space : ∀ c ∈ rest.head?, c = ' ') : w ∈ wordsOf (name ++ spacedHyphen ++ w ++ rest) := by
  have clean : ∀ c ∈ w, isDelimiter c = false := by
    intro c member
    by_contra delimiter
    simp only [Bool.not_eq_false, isDelimiter, Bool.or_eq_true, beq_iff_eq] at delimiter
    rcases delimiter with ((rfl | rfl) | rfl) | rfl <;>
      exact absurd (numbering.characters _ member) (by decide)
  have single := wordsOf_solid (List.ne_nil_of_mem numbering.crossed) clean
  have parts : name ++ spacedHyphen ++ w ++ rest =
      name ++ ' ' :: (['-'] ++ ' ' :: (w ++ rest)) := by
    simp [spacedHyphen]
  rw [parts, wordsOf_space, wordsOf_space, wordsOf_part space, single]
  simp

section Trimmed

variable {x w y : Text} (numbering : Numbering w) (low : ∀ c ∈ x ++ w ++ y, c.toNat < 128)
  (before : ∀ c ∈ x, isHyphenOrBlank c = true) (after : ∀ c ∈ y, isHyphenOrBlank c = true)

include numbering low before after

theorem letterless_numbering :
    ∀ c ∈ x ++ w ++ y, isLetter 's' c = false ∧ isLetter 'e' c = false := by
  intro c inside
  have small := low c inside
  rcases List.mem_append.1 inside with front | behind
  · rcases List.mem_append.1 front with lead | here
    · exact (isHyphenOrBlank_ascii small (before c lead)).2
    · rcases numbering.characters c here with digit | rfl | rfl
      · exact isLetter_of_decimal digit
      · decide
      · decide
  · exact (isHyphenOrBlank_ascii small (after c behind)).2

/-- Nothing around its cross keeps it from being read: no letters, no long range, and no mark
    before it that could end in its season. -/
theorem crossMarks_numbering : crossMarks (x ++ w ++ y) ≠ [] := by
  have letterless := letterless_numbering numbering low before after
  obtain ⟨season, first, others, rfl, numbers⟩ := numbering
  have undigit : ∀ c ∈ y, c.isDigit = false := fun c inside =>
    (Bool.or_eq_false_iff.1 (isHyphenOrBlank_ascii (low c (by simp [inside])) (after c inside)).1).2
  have unopened : ∀ c ∈ x.getLast?, c.isAlphanum = false := by
    intro c last
    have inside := List.mem_of_getLast? last
    exact (isHyphenOrBlank_ascii (low c (by simp [inside])) (before c inside)).1
  have cross : WrittenCross (x ++ (season ++ 'x' :: (first ++ hyphened others)) ++ y) x season first
      (hyphened others ++ y) := {
    written := ⟨'x', rfl, by simp⟩
    short := (numbers season (by simp)).short fun c inside => low c (by simp [inside])
    shortFirst := (numbers first (by simp)).short fun c inside => low c (by simp [inside])
    ends := head_hyphened undigit
    opens := unopened }
  rcases crossMark_of_written low cross with ⟨m, found, -⟩ | overlooked
  · exact List.ne_nil_of_mem found
  · cases overlooked with
    | beside letters mark =>
      obtain ⟨c, rest, text, same, -⟩ := mark.written
      have apart := letterless c (by simp [text])
      rcases letters with rfl | rfl <;> rcases same with rfl | rfl <;> simp [isLetter] at apart
    | longRange text all long =>
      have few := short_range (fun n among => numbers n (by simp [among])) undigit text all
      omega
    | @swallowed m found last place =>
      have inside : m.cross ∈ x := by simp [place]
      have trims := before m.cross inside
      have kept : isHyphenOrBlank 'x' = false ∧ isHyphenOrBlank 'X' = false := by decide
      rcases isCross_iff.1 (CrossMark.mem_all found).2 with same | same <;>
        simp [same, kept] at trims

end Trimmed

theorem not_spelled_of_numbering {sectors : List Text} {w : Text} (numbering : Numbering w)
    (trimmed : TrimmedFrom sectors w) (low : ∀ t ∈ sectors, ∀ c ∈ t, c.toNat < 128) :
    ∃ t ∈ sectors, ¬ Spelled t := by
  obtain ⟨x, y, member, before, after⟩ := trimmed
  have letterless := letterless_numbering numbering (low _ member) before after
  refine ⟨x ++ w ++ y, member, ?_⟩
  rintro (marks | marks | none)
  · exact marks (seasonMarks_of_letterless true fun c inside => (letterless c inside).1)
  · exact marks (episodeMarks_of_letterless true fun c inside => (letterless c inside).2)
  · exact crossMarks_numbering numbering (low _ member) before after none

theorem twoDigits_ofPadded {n : Nat} : TwoDigits (Text.ofPadded n) ↔ n < 100 := by
  constructor
  · intro number
    by_contra large
    have two := number.two
    rw [Text.ofPadded, if_neg (by omega)] at two
    have bound := decimalValue_lt (ofNumber_digits n)
    rw [decimalValue_ofNumber, two] at bound
    omega
  · intro small
    have two : ∀ n ∈ List.range 100, (Text.ofPadded n).length = 2 := by decide
    exact ⟨two n (List.mem_range.2 small),
      fun c member => isDecimal_of_isDigit (ofPadded_digits n c member)⟩

end Numbering

namespace Episode

variable {e : Episode}

def numberingText (e : Episode) : Text := e.seasonText ++ 'x' :: e.numbersText

theorem clean_numberingText (e : Episode) : ∀ c ∈ e.numberingText, isDelimiter c = false := by
  intro c member
  have letter : isNameLetter c = true := by
    simp only [numberingText, List.mem_append, List.mem_cons] at member
    rcases member with season | rfl | numbers
    · exact isNameLetter_of_isDigit (e.seasonText_digits c season)
    · decide
    · rcases mem_numbersText numbers with rfl | digit
      · decide
      · exact isNameLetter_of_isDigit digit
  exact (isDelimiter_of_isNameLetter letter).1

theorem numbering_numberingText (bounded : ∀ n ∈ e.episodes, n < 100) :
    Numbering e.numberingText ↔ (1 ≤ e.season ∧ e.season ≤ 99) ∧ e.episodes ≠ [] := by
  constructor
  · rintro ⟨season, first, others, text, numbers⟩
    have seasonless : 'x' ∉ e.seasonText := fun inside => by
      have digit := e.seasonText_digits 'x' inside
      contradiction
    have numberless : 'x' ∉ e.numbersText := fun inside => by
      rcases mem_numbersText inside with hyphen | digit <;> contradiction
    -- the cross is the only one on both sides, so it parts both texts alike
    obtain ⟨rfl, -, shown⟩ := (List.append_cons_inj_of_notMem seasonless numberless).1 text
    constructor
    · have number := numbers e.seasonText (by simp)
      rw [seasonText] at number
      split at number
      · have := number.two
        contradiction
      · have small := twoDigits_ofPadded.1 number
        omega
    · intro none
      have empty : e.numbersText = [] := by
        rw [numbersText, none]
        rfl
      have two := (numbers first (by simp)).two
      rw [empty] at shown
      simp [List.nil_eq_append_iff.1 shown] at two
  · rintro ⟨⟨some_season, small⟩, named⟩
    obtain ⟨n, more, episodes⟩ := List.exists_cons_of_ne_nil named
    refine ⟨Text.ofPadded e.season, Text.ofPadded n, more.map Text.ofPadded, ?_, ?_⟩
    · rw [numberingText, seasonText, if_neg (by omega), numbersText, episodes, List.map_cons,
        join_hyphened]
    · intro number among
      rcases List.mem_cons.1 among with rfl | among
      · exact twoDigits_ofPadded.2 (by omega)
      · rw [← List.map_cons, ← episodes] at among
        obtain ⟨m, member, rfl⟩ := List.mem_map.1 among
        exact twoDigits_ofPadded.2 (bounded m member)

theorem words_of_read {classifier : Classifier} {input : Text}
    (read : Episode.ofName? classifier input = .ok e) :
    ∀ w ∈ e.nameWords ++ e.titleWords, w = unknownSeries ∨ TrimmedFrom e.media.sectors w := by
  obtain ⟨split, scan, evidence, refined, cut, refines, ran, -, rfl⟩ := Episode.ofName?_ok read
  have sound := Scan.sound_of_name cut (refines ▸ ran)
  have words := words_nameAndTitle sound.sectors evidence.block refined.year
  intro w member
  rcases List.mem_append.1 member with name | title
  · simp only [nameWords, ofParts, EpisodeParts.ofEvidence] at name
    split at name
    · left
      simpa [wordsOf_solid (t := unknownSeries) (by decide) (by decide)] using name
    · exact Or.inr (words w (List.mem_append_left _ name))
  · exact Or.inr (words w (List.mem_append_right _ title))

theorem spelled_of_read {classifier : Classifier} {input : Text}
    (read : Episode.ofName? classifier input = .ok e) : ∀ t ∈ e.media.sectors, Spelled t := by
  obtain ⟨split, scan, evidence, refined, -, -, ran, -, rfl⟩ := Episode.ofName?_ok read
  have respells := Scan.respells_run input refined.sectors
  rw [ran] at respells
  intro t member
  have passed : t ∈ scan.done := by
    simpa [ofParts, Scan.sectors, Scan.run_ended ran] using member
  exact respells.spelled t passed

section Printable

variable {classifier : Classifier} {input : Text} (printable : ∀ c ∈ input, PrintableAscii c)
  (read : Episode.ofName? classifier input = .ok e)

include printable read

theorem printable_sectors : ∀ t ∈ e.media.sectors, ∀ c ∈ t, PrintableAscii c := by
  obtain ⟨split, scan, evidence, refined, cut, rfl, ran, -, rfl⟩ := Episode.ofName?_ok read
  have raw : ∀ t ∈ sectorsOf split.name, ∀ c ∈ t, PrintableAscii c := fun t member c inside =>
    printable c (ofPath?_subset cut (Text.mem_of_mem_pieces member inside))
  have refined := refine_forall classifier (fun _ shown _ => printableAscii_upper shown) raw
  have scanned := Scan.run_sectors (P := fun t => ∀ c ∈ t, PrintableAscii c) input
    (fun _ _ member shown => Scan.forall_respelled (by decide) member shown) refined
  rwa [ran] at scanned

theorem printable_words : ∀ w ∈ e.nameWords ++ e.titleWords, ∀ c ∈ w, PrintableAscii c := by
  intro w member c inside
  rcases words_of_read read w member with rfl | trimmed
  · have shown : ∀ c ∈ unknownSeries, PrintableAscii c := by decide
    exact shown c inside
  · obtain ⟨t, among, within⟩ := trimmed.subset
    exact printable_sectors printable read t among c (within inside)

theorem unbroken_of_read : lineBreak ∉ e.seriesName ∧ lineBreak ∉ e.episodeTitle := by
  have shape := Episode.inShape_of_read read
  have unbroken {t : Text} (phrase : Phrase t) (among : wordsOf t ⊆ e.nameWords ++ e.titleWords) :
      lineBreak ∉ t := by
    intro inside
    rw [← join_wordsOf phrase] at inside
    rcases Text.mem_join inside with space | ⟨w, member, here⟩
    · revert space
      decide
    · have shown := printable_words printable read w (among member) lineBreak here
      revert shown
      decide
  exact ⟨unbroken shape.name (List.subset_append_left _ _),
    unbroken shape.title (List.subset_append_right _ _)⟩

theorem not_numbering_of_word : ∀ w ∈ e.nameWords ++ e.titleWords, ¬ Numbering w := by
  intro w member numbering
  rcases words_of_read read w member with rfl | trimmed
  · exact absurd numbering.crossed (by decide)
  · obtain ⟨t, among, crossed⟩ := not_spelled_of_numbering numbering trimmed fun t among c inside =>
      (printable_sectors printable read t among c inside).low
    exact crossed (spelled_of_read read t among)

end Printable

theorem beforeYear?_yearPart (sound : e.Sound) (dated : 0 < e.media.year) :
    beforeYear? e.media.yearPart = some [] := by
  have recent := sound.year
  rw [beforeYear?_eq_some]
  refine ⟨Text.ofNumber e.media.year.toNat, ?_, ?_, by rw [MediaFile.yearPart, if_pos dated]; rfl⟩
  · exact (year?_ofNumber (y := e.media.year.toNat) (by omega)).1
  · exact fun c member => isDecimal_of_isDigit (ofNumber_digits _ c member)

theorem unbroken_yearPart (e : Episode) : lineBreak ∉ e.media.yearPart := by
  rw [MediaFile.yearPart]
  split
  · have other : lineBreak ≠ ' ' ∧ lineBreak ≠ '(' ∧ lineBreak ≠ ')' := by decide
    have digitless : lineBreak ∉ Text.ofNumber e.media.year.toNat := fun inside => by
      have digit := ofNumber_digits _ _ inside
      contradiction
    simp [other, digitless]
  · simp

theorem isTitleOrYear_parts (sound : e.Sound) (unbroken : lineBreak ∉ e.episodeTitle) :
    isTitleOrYear (TitledEpisode.titlePart ⟨e, none⟩ ++ e.media.yearPart) = true := by
  rw [isTitleOrYear_iff, TitledEpisode.titlePart, TitledEpisode.title_unresolved]
  split
  · by_cases dated : 0 < e.media.year
    · exact Or.inr (Or.inl (beforeYear?_yearPart sound dated))
    · left
      rw [MediaFile.yearPart, if_neg dated]
      rfl
  · rename_i shown
    refine Or.inr (Or.inr ⟨e.episodeTitle ++ e.media.yearPart, by simp, ?_, ?_⟩)
    · simp [(not_or.1 shown).1]
    · simp [unbroken, unbroken_yearPart]

end Episode

theorem TitledEpisode.isValid_eq (e : TitledEpisode) :
    e.isValid = hasEpisodeShape e.canonicalName := by
  have rendered := TitledEpisode.renderEpisode_canonicalName e
  simp only [Renamer.renderEpisode] at rendered
  simp only [TitledEpisode.isValid, rendered]

theorem Episode.numbering_of_word {e : Episode} (sound : e.Sound)
    (others : ∀ w ∈ e.nameWords ++ e.titleWords, ¬ Numbering w) {w : Text} (numbering : Numbering w)
    (member : w ∈ wordsOf (TitledEpisode.canonicalName ⟨e, none⟩)) : w = e.numberingText := by
  have full : e.numberingText ≠ [] := by simp [Episode.numberingText]
  rw [Episode.wordsOf_shownName rfl full e.clean_numberingText] at member
  simp only [List.mem_append, List.mem_cons] at member
  rcases member with name | rfl | mark | title | year
  · exact absurd numbering (others w (by simp [name]))
  · exact absurd numbering.crossed (by decide)
  · exact mark
  · rw [Episode.shownSectors, Episode.titleSectors] at title
    split at title
    · simp at title
    · split at title
      · simp at title
      · rcases List.mem_cons.1 title with rfl | word
        · exact absurd numbering.crossed (by decide)
        · exact absurd numbering (others w (by simp [word]))
  · obtain ⟨_, y, -, -, rfl⟩ := Episode.mem_yearSectors sound year
    rcases mem_bracketedYear numbering.crossed with bracket | digit | bracket <;> contradiction

theorem episode_isValid_iff {input : Text} {e : Episode} (printable : ∀ c ∈ input, PrintableAscii c)
    (read : ({} : Renamer).parseEpisode input = .ok e) :
    TitledEpisode.isValid ⟨e, none⟩ = true ↔
      (1 ≤ e.season ∧ e.season ≤ 99) ∧ e.episodes ≠ [] := by
  have sound := sound_of_read read
  rw [TitledEpisode.isValid_eq, hasEpisodeShape_iff,
    ← Episode.numbering_numberingText sound.bounded]
  constructor
  · rintro ⟨name, w, rest, text, -, -, numbering, ends⟩
    have member := numbering.wordsOf name (head_of_isTitleOrYear ends)
    rw [← text] at member
    have others := Episode.not_numbering_of_word printable read
    rwa [← Episode.numbering_of_word sound others numbering member]
  · intro numbering
    obtain ⟨name, title⟩ := Episode.unbroken_of_read printable read
    exact ⟨e.seriesName, e.numberingText, _, by
      simp [TitledEpisode.canonicalName, Episode.numberingText], sound.named, name, numbering,
      Episode.isTitleOrYear_parts sound title⟩

theorem episode_isValid_folder :
    (∃ e, ({} : Renamer).parseEpisode "Season 2/Show.-.E05.mkv".toList = .ok e ∧
      e.seasonInName = none ∧ TitledEpisode.isValid ⟨e, none⟩ = true) ∧
    ∃ e, ({} : Renamer).parseEpisode "Season 2/Show.-.01x005.mkv".toList = .ok e ∧
      e.seriesName = "Show - 01x005".toList ∧ TitledEpisode.isValid ⟨e, none⟩ = false := by
  constructor
  · have evaluated : ∃ e ∈ (({} : Renamer).parseEpisode "Season 2/Show.-.E05.mkv".toList).toOption,
        e.seasonInName = none ∧ (1 ≤ e.season ∧ e.season ≤ 99) ∧ e.episodes ≠ [] := by
      decide +kernel
    obtain ⟨e, told, season, numbered⟩ := evaluated
    have read := mem_toOption.1 told
    exact ⟨e, read, season, (episode_isValid_iff (by decide) read).2 numbered⟩
  · have evaluated :
        ∃ e ∈ (({} : Renamer).parseEpisode "Season 2/Show.-.01x005.mkv".toList).toOption,
          e.seriesName = "Show - 01x005".toList ∧ e.episodes = [] := by
      decide +kernel
    obtain ⟨e, told, name, unnumbered⟩ := evaluated
    have read := mem_toOption.1 told
    refine ⟨e, read, name, ?_⟩
    by_contra valid
    exact ((episode_isValid_iff (by decide) read).1 (by simpa using valid)).2 unnumbered

end MediaNaming
