import MediaNaming.Proofs.Naming.Rereading

/-
Stability of canonical names. A hyphen at the end of a series name or at the front of a title
falls away, and so does the year, so that both come back as they were.
-/
namespace MediaNaming

theorem yearOf?_crossText {season first : Text} {last : Option Text} (short : ShortDigits season)
    (shortFirst : ShortDigits first) (shortLast : ∀ t ∈ last, ShortDigits t) :
    yearOf? (crossText 'x' season first last) = none := by
  have letters := crossText_nameLetters (x := 'x') (by decide) short shortFirst shortLast
  rw [← (separator_crossText short shortFirst shortLast).capitalized]
  exact yearOf?_of_letter letters ⟨'x', by simp [crossText], by decide⟩

theorem Episode.flat_seasonText (e : Episode) : pathSeparator ∉ e.seasonText := by
  intro inside
  have digit := e.seasonText_digits pathSeparator inside
  contradiction

theorem Episode.flat_numbersText (e : Episode) : pathSeparator ∉ e.numbersText := by
  intro inside
  rcases mem_numbersText inside with hyphen | digit <;> contradiction

/-- Of all that stands in a canonical name only the title can bring a path separator into it. -/
theorem TitledEpisode.nested_canonicalName {e : TitledEpisode} (name : Phrase e.episode.seriesName) :
    pathSeparator ∈ e.canonicalName ↔ pathSeparator ∈ e.title := by
  have hyphened : pathSeparator ∉ spacedHyphen := by decide
  have letter : pathSeparator ≠ 'x' := by decide
  have part : pathSeparator ∈ e.titlePart ↔ pathSeparator ∈ e.title := by
    rw [TitledEpisode.titlePart]
    split
    · rename_i hidden
      rcases hidden with empty | field
      · simp [empty]
      · simp [field, show pathSeparator ≠ 'T' by decide]
    · simp [hyphened]
  simp only [TitledEpisode.canonicalName, List.mem_append, List.mem_cons, name.flat, hyphened, letter,
    e.episode.flat_seasonText, e.episode.flat_numbersText, e.episode.media.flat_yearPart, part,
    or_false, false_or]

namespace Episode

variable {e : Episode}

theorem flat_canonicalName (sound : e.Sound) :
    pathSeparator ∉ TitledEpisode.canonicalName ⟨e, none⟩ := by
  rw [TitledEpisode.nested_canonicalName sound.name, TitledEpisode.title_unresolved]
  exact sound.title.flat

theorem joinName_nameWords (sound : e.Sound) (rereadable : e.Rereadable) :
    joinName e.toldYear (e.nameWords ++ [hyphen]) = e.seriesName := by
  have whole : joinSectors (e.nameWords ++ [hyphen]) = e.seriesName := by
    rw [joinSectors_hyphen_right]
    exact joinSectors_wordsOf sound.name
  have dash : withoutYear e.toldYear [hyphen] = [hyphen] :=
    withoutYear_undated (by simpa using spellsYear_hyphen e.toldYear)
  rcases rereadable.nameUndated with undated | all
  · have kept : withoutYear e.toldYear (e.nameWords ++ [hyphen]) = e.nameWords ++ [hyphen] := by
      rw [withoutYear_append, dash, withoutYear_undated undated]
    rw [joinName_of_ne_nil (by rw [kept, whole]; exact sound.named), kept, whole]
  · have left : joinSectors (withoutYear e.toldYear (e.nameWords ++ [hyphen])) = [] := by
      rw [withoutYear_append, dash, joinSectors_hyphen_right]
      apply joinSectors_dropped
      intro w member
      rw [withoutYear_eq_filter, List.mem_filter] at member
      exact (all w member.1).resolve_left (by simpa using member.2)
    rw [joinName, left]
    exact whole

theorem joinTitle_backSectors (sound : e.Sound) (rereadable : e.Rereadable) :
    joinTitle e.toldYear e.backSectors = e.episodeTitle := by
  have year : withoutYear e.toldYear e.yearSectors = [] := by
    apply withoutYear_spelled
    intro t member
    obtain ⟨positive, y, same, recent, rfl⟩ := mem_yearSectors sound member
    rw [toldYear, if_pos positive, same]
    exact spellsYear_ofNumber (by omega) (withoutBrackets_bracketedYear y)
  rw [joinTitle, backSectors, withoutYear_append, year, List.append_nil, titleSectors]
  split
  · rename_i empty
    rw [withoutYear_undated (by simp), empty]
    rfl
  · rw [withoutYear_undated, joinSectors_hyphen_left]
    · exact joinSectors_wordsOf sound.title
    · intro t member
      rcases List.mem_cons.1 member with rfl | word
      · exact spellsYear_hyphen e.toldYear
      · exact rereadable.titleUndated t word

theorem scan_canonicalName (sound : e.Sound) (rereadable : e.Rereadable) (input : Text)
    {season first : Text} {last : Option Text} (short : ShortDigits season)
    (shortFirst : ShortDigits first) (shortLast : ∀ t ∈ last, ShortDigits t) :
    (Scan.start (e.canonicalSectors (crossText 'x' season first last))).run input =
      (⟨e.nameWords ++ [hyphen] ++ [lettersText 'S' 'E' season first last] ++ e.backSectors, [],
        Scan.evidenceAt (e.nameWords ++ [hyphen]).length season.decimalValue
          (rangeNumbers first last)⟩, none) := by
  have front := kept_front rereadable.name
  have back := kept_back sound rereadable.title
  have separator := separator_crossText short shortFirst shortLast
  have sectors : e.canonicalSectors (crossText 'x' season first last) =
      e.nameWords ++ [hyphen] ++ [crossText 'x' season first last] ++ e.backSectors := by
    simp [canonicalSectors]
  rw [sectors]
  apply Scan.run_around fun index =>
    Scan.evidenceAt index season.decimalValue (rangeNumbers first last)
  · exact fun t member => (List.mem_append.1 member).elim (front.quiet t) (back.quiet t)
  · exact separator.isChain_unpaired front.unpaired List.IsChain.nil
  · exact back.unpaired
  · simp
  · exact (readAs_cross (by decide) short shortFirst shortLast).scans

end Episode

theorem stable_of_rereadable {input : Text} {e : Episode}
    (read : ({} : Renamer).parseEpisode input = .ok e) (season : 1 ≤ e.season ∧ e.season ≤ 99)
    (some_episode : e.episodes ≠ []) (rereadable : e.Rereadable) : e.Stable := by
  have sound := sound_of_read read
  obtain ⟨first, last, numbers, shortFirst, shortLast, same⟩ :=
    numbersText_range some_episode rereadable.few sound.bounded
  obtain ⟨short, value⟩ := ofPadded_short (n := e.season) (by omega)
  have numbering : e.seasonText ++ 'x' :: e.numbersText =
      crossText 'x' (Text.ofPadded e.season) first last := by
    rw [Episode.seasonText, if_neg (by omega), numbers, crossText]
  have letters := crossText_nameLetters (x := 'x') (by decide) short shortFirst shortLast
  have clean {c : Char} (member : c ∈ crossText 'x' (Text.ofPadded e.season) first last) :=
    isDelimiter_of_isNameLetter (letters c member)
  have separator := separator_crossText short shortFirst shortLast
  have flat := Episode.flat_canonicalName sound
  have words := Episode.wordsOf_canonicalName rereadable.titled numbering separator.nonempty
    fun c member => (clean member).1
  obtain ⟨sectors, year⟩ := Episode.refined_canonicalName sound rereadable separator
    (yearOf?_crossText short shortFirst shortLast) words
  have cut := ofPath?_inFolder none flat sound.undotted sound.unnested
  have scans := Episode.scan_canonicalName sound rereadable
    (TitledEpisode.canonicalName ⟨e, none⟩ ++ '.' :: e.media.extension) short shortFirst shortLast
  rw [← sectors] at scans
  have again := parseEpisode_of_evidence cut rfl scans
    (complete_of_episodes (by simp [Scan.evidenceAt, rangeNumbers]))
  have split := nameAndTitle_around e.backSectors e.toldYear
    (show e.nameWords ++ [hyphen] ≠ [] by simp)
    (show [lettersText 'S' 'E' (Text.ofPadded e.season) first last] ≠ [] by simp)
  rw [Episode.joinName_nameWords sound rereadable,
    Episode.joinTitle_backSectors sound rereadable] at split
  rw [year, ofEvidence_of_split split sound.named] at again
  exact ⟨_, _, TitledEpisode.renderEpisode_canonicalName ⟨e, none⟩, again, value, same, rfl, rfl⟩

theorem Episode.stable_iff {e : Episode} : e.Stable ↔
    ∃ g ∈ (({} : Renamer).parseEpisode
      (TitledEpisode.canonicalName ⟨e, none⟩ ++ '.' :: e.media.extension)).toOption,
      g.season = e.season ∧ g.episodes = e.episodes ∧ g.seriesName = e.seriesName ∧
        g.episodeTitle = e.episodeTitle := by
  constructor
  · rintro ⟨name, g, shown, read, same⟩
    rw [TitledEpisode.renderEpisode_canonicalName] at shown
    cases shown
    exact ⟨g, mem_toOption.2 read, same⟩
  · rintro ⟨g, read, same⟩
    exact ⟨_, g, TitledEpisode.renderEpisode_canonicalName ⟨e, none⟩, mem_toOption.1 read, same⟩

instance (e : Episode) : Decidable e.Stable := decidable_of_iff _ Episode.stable_iff.symm

theorem stable_hyphenated : ∃ e,
    ({} : Renamer).parseEpisode "the.x-files.S02E03E04.Red-Blue.-.Two.Days.(1994).mkv".toList =
      .ok e ∧ e.seriesName = "The X-files".toList ∧ e.episodeTitle = "Red-Blue - Two Days".toList ∧
      e.episodes = [3, 4] ∧ e.media.year = 1994 ∧ e.Stable := by
  have evaluated : ∃ e ∈ (({} : Renamer).parseEpisode
      "the.x-files.S02E03E04.Red-Blue.-.Two.Days.(1994).mkv".toList).toOption,
      (e.seriesName = "The X-files".toList ∧ e.episodeTitle = "Red-Blue - Two Days".toList ∧
        e.episodes = [3, 4] ∧ e.media.year = 1994) ∧ (1 ≤ e.season ∧ e.season ≤ 99) ∧
      e.episodes ≠ [] ∧ e.Rereadable := by decide +kernel
  obtain ⟨e, told, ⟨name, title, episodes, year⟩, season, some_episode, rereadable⟩ := evaluated
  have read := mem_toOption.1 told
  exact ⟨e, read, name, title, episodes, year,
    stable_of_rereadable read season some_episode rereadable⟩

/-- Names for which each thing that is asked of an episode fails in turn: too many episodes, the
    letter of the field for a title, a word that is capitalized, split, consumed, joined or removed
    when it is read again, a word with a mark of its own, and the year among other words. -/
def unstableNames : List Text :=
  ["Show.S01E01E02E03.mkv", "Show.S01E01.T.mkv", "-foo.S01E01.mkv", "-5-foo.S01E01.mkv",
    "-Part2.S01E01.mkv", "Part.(2001).Two.S01E01.mkv", "A.2001.B.S01E01.mkv", "-720p.S01E01.mkv",
    "Show.S01E01.-720p.mkv", "01.Foo.S02.mkv", "Season.2001.5.S01E01.mkv",
    "S01E01.Foo.2001.-.Bar.mkv", "S01E01.2001.Foo.mkv"].map String.toList

def Unstable (input : Text) : Prop :=
  ∃ e, ({} : Renamer).parseEpisode input = .ok e ∧ (1 ≤ e.season ∧ e.season ≤ 99) ∧
    e.episodes ≠ [] ∧ ¬ e.Stable

theorem unstable_unstableNames : unstableNames.Forall Unstable := by
  have evaluated : ∀ input ∈ unstableNames, ∃ e ∈ (({} : Renamer).parseEpisode input).toOption,
      (1 ≤ e.season ∧ e.season ≤ 99) ∧ e.episodes ≠ [] ∧ ¬ e.Stable := by decide +kernel
  rw [List.forall_iff_forall_mem]
  intro input member
  obtain ⟨e, told, unstable⟩ := evaluated input member
  exact ⟨e, mem_toOption.1 told, unstable⟩

end MediaNaming
