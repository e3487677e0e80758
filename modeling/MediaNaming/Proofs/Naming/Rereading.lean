import MediaNaming.Proofs.Episode.Around
import MediaNaming.Proofs.Naming.Canonical
import MediaNaming.Proofs.Naming.Outcome
import MediaNaming.Proofs.Naming.Separators

/-
Reading a canonical name again. Where series name and title are made of words that stand for
themselves, the name is split, refined and scanned back into the season, the episodes, the series
name and the title that it was written from.
-/
namespace MediaNaming

structure Kept (words : List Text) : Prop where
  formed : ∀ w ∈ words, Formed w
  markers : words.IsChain KeepsMarker
  capitals : words.IsChain KeepsCapital
  quiet : ∀ w ∈ words, Quiet w
  unpaired : words.IsChain Unpaired

instance (words : List Text) : Decidable (Kept words) :=
  decidable_of_iff ((∀ w ∈ words, Formed w) ∧ words.IsChain KeepsMarker ∧
      words.IsChain KeepsCapital ∧ (∀ w ∈ words, Quiet w) ∧ words.IsChain Unpaired)
    ⟨fun ⟨formed, markers, capitals, quiet, unpaired⟩ =>
        ⟨formed, markers, capitals, quiet, unpaired⟩,
      fun kept => ⟨kept.formed, kept.markers, kept.capitals, kept.quiet, kept.unpaired⟩⟩

theorem Kept.settled {words : List Text} (kept : Kept words) : Settled words :=
  ⟨fun w member => (kept.formed w member).toWhole, kept.markers, kept.capitals⟩

theorem kept_nil : Kept [] :=
  ⟨by simp, List.IsChain.nil, List.IsChain.nil, by simp, List.IsChain.nil⟩

theorem Separator.formed {s : Text} (separator : Separator s) : Formed s :=
  ⟨separator.toWhole, separator.capitalized⟩

theorem Separator.kept {before after : List Text} {s : Text} (separator : Separator s)
    (quiet : Quiet s) (front : Kept before) (back : Kept after) : Kept (before ++ s :: after) where
  formed := by
    intro w member
    simp only [List.mem_append, List.mem_cons] at member
    rcases member with earlier | rfl | later
    · exact front.formed w earlier
    · exact separator.formed
    · exact back.formed w later
  markers := (separator.settled front.settled back.settled).markers
  capitals := (separator.settled front.settled back.settled).capitals
  quiet := by
    intro w member
    simp only [List.mem_append, List.mem_cons] at member
    rcases member with earlier | rfl | later
    · exact front.quiet w earlier
    · exact quiet
    · exact back.quiet w later
  unpaired := separator.isChain_unpaired front.unpaired back.unpaired

namespace Episode

def nameWords (e : Episode) : List Text := wordsOf e.seriesName

def titleWords (e : Episode) : List Text := wordsOf e.episodeTitle

def toldYear (e : Episode) : Int :=
  if 0 < e.media.year then e.media.year
  else (((e.nameWords ++ e.titleWords).filterMap yearOf?).getLast?).getD (-1)

/-- Series name and title are kept word by word, tell no year of their own, and leave room for
    two episodes at most. -/
structure Rereadable (e : Episode) : Prop where
  few : e.episodes.length ≤ 2
  titled : e.episodeTitle ≠ ['T']
  name : Kept e.nameWords
  title : Kept e.titleWords
  nameClean : ∀ i w, e.nameWords[i]? = some w → Lexicon.episodes.isJunk i w = false
  titleClean : ∀ w ∈ e.titleWords, Lexicon.episodes.isJunk 1 w = false
  nameUndated : (∀ w ∈ e.nameWords, spellsYear e.toldYear w = false) ∨
    ∀ w ∈ e.nameWords, spellsYear e.toldYear w = true ∨ ∀ c ∈ w, isHyphenOrBlank c = true
  titleUndated : ∀ w ∈ e.titleWords, spellsYear e.toldYear w = false

theorem clean_iff {words : List Text} :
    (∀ i w, words[i]? = some w → Lexicon.episodes.isJunk i w = false) ↔
      ∀ p ∈ words.zipIdx, Lexicon.episodes.isJunk p.2 p.1 = false := by
  constructor
  · intro clean p member
    exact clean p.2 p.1 (List.mem_zipIdx_iff_getElem?.1 member)
  · intro clean i w at_i
    exact clean (w, i) (List.mem_zipIdx_iff_getElem?.2 at_i)

instance (e : Episode) : Decidable e.Rereadable :=
  decidable_of_iff (e.episodes.length ≤ 2 ∧ e.episodeTitle ≠ ['T'] ∧ Kept e.nameWords ∧
      Kept e.titleWords ∧ (∀ p ∈ e.nameWords.zipIdx, Lexicon.episodes.isJunk p.2 p.1 = false) ∧
      (∀ w ∈ e.titleWords, Lexicon.episodes.isJunk 1 w = false) ∧
      ((∀ w ∈ e.nameWords, spellsYear e.toldYear w = false) ∨
        ∀ w ∈ e.nameWords, spellsYear e.toldYear w = true ∨ ∀ c ∈ w, isHyphenOrBlank c = true) ∧
      ∀ w ∈ e.titleWords, spellsYear e.toldYear w = false)
    ⟨fun ⟨few, titled, name, title, nameClean, titleClean, nameUndated, titleUndated⟩ =>
        ⟨few, titled, name, title, clean_iff.2 nameClean, titleClean, nameUndated, titleUndated⟩,
      fun r => ⟨r.few, r.titled, r.name, r.title, clean_iff.1 r.nameClean, r.titleClean,
        r.nameUndated, r.titleUndated⟩⟩

def Stable (e : Episode) : Prop :=
  ∃ name g, ({} : Renamer).renderEpisode ⟨e, none⟩ = .ok name ∧
    ({} : Renamer).parseEpisode (name ++ '.' :: e.media.extension) = .ok g ∧
    g.season = e.season ∧ g.episodes = e.episodes ∧ g.seriesName = e.seriesName ∧
    g.episodeTitle = e.episodeTitle

end Episode

theorem ofPadded_short {n : Nat} (small : n < 100) :
    ShortDigits (Text.ofPadded n) ∧ Text.decimalValue (Text.ofPadded n) = n := by
  have all : ∀ n ∈ List.range 100,
      ShortDigits (Text.ofPadded n) ∧ Text.decimalValue (Text.ofPadded n) = n := by decide
  exact all n (List.mem_range.2 small)

/-- One or two episodes are written as the range that a cross mark reads. -/
theorem numbersText_range {e : Episode} (some_episode : e.episodes ≠ [])
    (few : e.episodes.length ≤ 2) (bounded : ∀ n ∈ e.episodes, n < 100) :
    ∃ first last, e.numbersText = first ++ rangeText last ∧ ShortDigits first ∧
      (∀ t ∈ last, ShortDigits t) ∧ rangeNumbers first last = e.episodes := by
  rw [Episode.numbersText]
  match episodes : e.episodes with
  | [] => contradiction
  | [a] =>
    obtain ⟨short, value⟩ := ofPadded_short (bounded a (by simp [episodes]))
    exact ⟨Text.ofPadded a, none, by simp [Text.join, List.intercalate, rangeText], short, by simp,
      by simp [rangeNumbers, value]⟩
  | [a, b] =>
    obtain ⟨short, value⟩ := ofPadded_short (bounded a (by simp [episodes]))
    obtain ⟨shortLast, valueLast⟩ := ofPadded_short (bounded b (by simp [episodes]))
    exact ⟨Text.ofPadded a, some (Text.ofPadded b),
      by simp [Text.join, List.intercalate, rangeText],
      short, by simpa using shortLast, by simp [rangeNumbers, value, valueLast]⟩
  | a :: b :: c :: more =>
    simp [episodes] at few

namespace Episode

theorem seasonText_digits (e : Episode) : ∀ c ∈ e.seasonText, c.isDigit = true := by
  rw [seasonText]
  split
  · simp
  · exact ofPadded_digits e.season

theorem mem_numbersText {e : Episode} {c : Char} (member : c ∈ e.numbersText) :
    c = '-' ∨ c.isDigit = true := by
  rcases Text.mem_join member with hyphen | ⟨number, among, inside⟩
  · exact Or.inl (List.mem_singleton.1 hyphen)
  · obtain ⟨n, -, rfl⟩ := List.mem_map.1 among
    exact Or.inr (ofPadded_digits n c inside)

def titleSectors (e : Episode) : List Text :=
  if e.episodeTitle = [] then [] else hyphen :: e.titleWords

def yearSectors (e : Episode) : List Text :=
  if 0 < e.media.year then [bracketedYear e.media.year.toNat] else []

def shownSectors (e : Episode) : List Text :=
  if e.episodeTitle = ['T'] then [] else e.titleSectors

theorem titlePart_words (e : Episode) :
    (∀ c ∈ (TitledEpisode.titlePart ⟨e, none⟩).head?, c = ' ') ∧
      wordsOf (TitledEpisode.titlePart ⟨e, none⟩) = e.shownSectors := by
  rw [TitledEpisode.titlePart, TitledEpisode.title_unresolved, shownSectors, titleSectors]
  by_cases empty : e.episodeTitle = []
  · simp only [empty, true_or, if_true]
    exact ⟨by simp, rfl⟩
  · by_cases titled : e.episodeTitle = ['T']
    · simp only [titled, or_true, if_true]
      exact ⟨by simp, rfl⟩
    · have shown : spacedHyphen ++ e.episodeTitle = ' ' :: (hyphen ++ ' ' :: e.episodeTitle) := rfl
      have hyphens : wordsOf hyphen = [hyphen] := wordsOf_solid (by decide) (by decide)
      simp only [empty, titled, or_self, if_false, shown]
      exact ⟨by simp, by rw [wordsOf_cons_space, wordsOf_space, hyphens]; rfl⟩

theorem yearPart_words (e : Episode) :
    (∀ c ∈ e.media.yearPart.head?, c = ' ') ∧ wordsOf e.media.yearPart = e.yearSectors :=
  e.media.yearPart_words

theorem wordsOf_shownName {e : Episode} {mark : Text}
    (numbering : e.seasonText ++ 'x' :: e.numbersText = mark) (full : mark ≠ [])
    (clean : ∀ c ∈ mark, isDelimiter c = false) :
    wordsOf (TitledEpisode.canonicalName ⟨e, none⟩) =
      e.nameWords ++ hyphen :: mark :: (e.shownSectors ++ e.yearSectors) := by
  have parts : TitledEpisode.canonicalName ⟨e, none⟩ = e.seriesName ++ ' ' :: (hyphen ++ ' ' ::
      (mark ++ TitledEpisode.titlePart ⟨e, none⟩ ++ e.media.yearPart)) := by
    simp [TitledEpisode.canonicalName, spacedHyphen, hyphen, ← numbering]
  have hyphens : wordsOf hyphen = [hyphen] := wordsOf_solid (by decide) (by decide)
  obtain ⟨titleSpace, title⟩ := titlePart_words e
  obtain ⟨yearSpace, year⟩ := yearPart_words e
  rw [parts, wordsOf_space, wordsOf_space, wordsOf_part yearSpace, wordsOf_part titleSpace, hyphens,
    wordsOf_solid full clean, title, year]
  simp [nameWords]

theorem wordsOf_canonicalName {e : Episode} {mark : Text} (titled : e.episodeTitle ≠ ['T'])
    (numbering : e.seasonText ++ 'x' :: e.numbersText = mark) (full : mark ≠ [])
    (clean : ∀ c ∈ mark, isDelimiter c = false) :
    wordsOf (TitledEpisode.canonicalName ⟨e, none⟩) =
      e.nameWords ++ hyphen :: mark :: (e.titleSectors ++ e.yearSectors) := by
  rw [wordsOf_shownName numbering full clean, shownSectors, if_neg titled]

theorem quiet_hyphen : Quiet hyphen := quiet_of_no_digit (by decide)

theorem mem_yearSectors {e : Episode} (sound : e.Sound) {t : Text} (member : t ∈ e.yearSectors) :
    0 < e.media.year ∧
      ∃ y, e.media.year = Int.ofNat y ∧ (1900 ≤ y ∧ y ≤ 2099) ∧ t = bracketedYear y := by
  rw [yearSectors] at member
  split at member
  · rename_i positive
    have recent := sound.year
    exact ⟨positive, e.media.year.toNat, by simp; omega, by omega, List.mem_singleton.1 member⟩
  · simp at member

theorem kept_years {e : Episode} (sound : e.Sound) {words : List Text} (kept : Kept words) :
    Kept (words ++ e.yearSectors) := by
  cases years : e.yearSectors with
  | nil => simpa using kept
  | cons t more =>
    have single : more = [] := by
      rw [yearSectors] at years
      split at years
      · simp at years
        exact years.2
      · simp at years
    obtain ⟨_, y, _, recent, rfl⟩ := mem_yearSectors sound (t := t) (by simp [years])
    rw [single]
    exact (separator_bracketedYear recent).kept (quiet_bracketedYear y) kept kept_nil

def backSectors (e : Episode) : List Text := e.titleSectors ++ e.yearSectors

theorem kept_back {e : Episode} (sound : e.Sound) (title : Kept e.titleWords) :
    Kept e.backSectors := by
  rw [backSectors, titleSectors]
  split
  · exact kept_years sound kept_nil
  · exact separator_hyphen.kept quiet_hyphen kept_nil (kept_years sound title)

theorem kept_front {e : Episode} (name : Kept e.nameWords) : Kept (e.nameWords ++ [hyphen]) :=
  separator_hyphen.kept quiet_hyphen name kept_nil

theorem isJunk_pos {lexicon : Lexicon} {index : Nat} (positive : 0 < index) (t : Text) :
    lexicon.isJunk index t = lexicon.isJunk 1 t := by
  simp [Lexicon.isJunk, positive]

theorem separator_clean {s : Text} (separator : Separator s) (index : Nat) :
    Lexicon.episodes.isJunk index s = false := by
  have clean := separator.clean index
  rwa [separator.capitalized] at clean

theorem clean_back {e : Episode} (sound : e.Sound) (rereadable : e.Rereadable) :
    ∀ t ∈ e.backSectors, Lexicon.episodes.isJunk 1 t = false := by
  intro t member
  rcases List.mem_append.1 member with title | year
  · rw [titleSectors] at title
    split at title
    · simp at title
    · rcases List.mem_cons.1 title with rfl | word
      · exact separator_clean separator_hyphen 1
      · exact rereadable.titleClean t word
  · obtain ⟨_, y, _, recent, rfl⟩ := mem_yearSectors sound year
    exact separator_clean (separator_bracketedYear recent) 1

theorem nameWords_ne_nil {e : Episode} (sound : e.Sound) : e.nameWords ≠ [] := by
  intro none
  have name := join_wordsOf sound.name
  rw [show wordsOf e.seriesName = [] from none] at name
  exact sound.named name.symm

theorem told_years {e : Episode} (sound : e.Sound) {mark : Text} (yearless : yearOf? mark = none) :
    (((e.nameWords ++ hyphen :: mark :: e.backSectors).filterMap yearOf?).getLast?).getD (-1) =
      e.toldYear := by
  have hyphens : yearOf? hyphen = none := by decide
  have title : e.titleSectors.filterMap yearOf? = e.titleWords.filterMap yearOf? := by
    rw [titleSectors]
    split
    · rename_i empty
      rw [titleWords, empty]
      rfl
    · rw [List.filterMap_cons_none hyphens]
  rw [List.filterMap_append, List.filterMap_cons_none hyphens, List.filterMap_cons_none yearless,
    backSectors, List.filterMap_append, title, toldYear, yearSectors]
  split
  · rename_i positive
    obtain ⟨_, y, year, recent, same⟩ := mem_yearSectors sound
      (t := bracketedYear e.media.year.toNat) (by simp [yearSectors, positive])
    rw [same, List.filterMap_cons_some (yearOf?_bracketedYear recent), year]
    simp
  · simp

def canonicalSectors (e : Episode) (mark : Text) : List Text :=
  e.nameWords ++ hyphen :: mark :: e.backSectors

theorem formed_canonicalSectors {e : Episode} {mark : Text} (sound : e.Sound)
    (rereadable : e.Rereadable) (separator : Separator mark) :
    ∀ w ∈ e.canonicalSectors mark, Formed w := by
  intro w member
  simp only [canonicalSectors, List.mem_append, List.mem_cons] at member
  rcases member with name | rfl | rfl | later
  · exact rereadable.name.formed w name
  · exact separator_hyphen.formed
  · exact separator.formed
  · exact (kept_back sound rereadable.title).formed w later

theorem settled_canonicalSectors {e : Episode} {mark : Text} (sound : e.Sound)
    (rereadable : e.Rereadable) (separator : Separator mark) :
    Settled (e.canonicalSectors mark) := by
  have front := (kept_front rereadable.name).settled
  have back := (kept_back sound rereadable.title).settled
  rw [canonicalSectors, List.append_cons]
  exact separator.settled front back

/-- What stands at the front counts as junk by its index, what comes later does not. -/
theorem clean_canonicalSectors {e : Episode} {mark : Text} (sound : e.Sound)
    (rereadable : e.Rereadable) (separator : Separator mark) :
    ∀ i w, (e.canonicalSectors mark)[i]? = some w → Lexicon.episodes.isJunk i w = false := by
  intro i w at_i
  rw [canonicalSectors] at at_i
  by_cases early : i < e.nameWords.length
  · rw [List.getElem?_append_left early] at at_i
    exact rereadable.nameClean i w at_i
  · rw [List.getElem?_append_right (by omega)] at at_i
    have filled := List.length_pos_iff.2 (nameWords_ne_nil sound)
    rw [isJunk_pos (by omega)]
    rcases List.mem_cons.1 (List.mem_of_getElem? at_i) with rfl | later
    · exact separator_clean separator_hyphen 1
    · rcases List.mem_cons.1 later with rfl | later
      · exact separator_clean separator 1
      · exact clean_back sound rereadable w later

theorem refined_canonicalName {e : Episode} {mark : Text} (sound : e.Sound)
    (rereadable : e.Rereadable) (separator : Separator mark) (yearless : yearOf? mark = none)
    (words : wordsOf (TitledEpisode.canonicalName ⟨e, none⟩) = e.canonicalSectors mark) :
    (refine Lexicon.episodes.classify
        (sectorsOf (TitledEpisode.canonicalName ⟨e, none⟩))).sectors = e.canonicalSectors mark ∧
    (refine Lexicon.episodes.classify
        (sectorsOf (TitledEpisode.canonicalName ⟨e, none⟩))).year = e.toldYear := by
  have formed := formed_canonicalSectors sound rereadable separator
  have clean : ∀ i w, (e.canonicalSectors mark)[i]? = some w →
      Lexicon.episodes.isJunk i w.capitalize = false := by
    intro i w at_i
    rw [(formed w (List.mem_of_getElem? at_i)).capitalized]
    exact clean_canonicalSectors sound rereadable separator i w at_i
  have years : (e.canonicalSectors mark).filterMap (fun w => yearOf? w.capitalize) =
      (e.canonicalSectors mark).filterMap yearOf? := by
    refine List.filterMap_congr fun w member => ?_
    rw [(formed w member).capitalized]
  obtain ⟨sectors, year⟩ := refine_settled Lexicon.episodes
    (settled_canonicalSectors sound rereadable separator) clean
  rw [← refine_filter (Lexicon.classify_local Lexicon.episodes)]
  rw [show (sectorsOf (TitledEpisode.canonicalName ⟨e, none⟩)).filter isFull = _ from words]
  rw [sectors, year, map_capitalize_of_formed formed, years, canonicalSectors,
    told_years sound yearless]
  exact ⟨rfl, rfl⟩

end Episode
end MediaNaming
