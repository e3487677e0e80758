import MediaNaming.Proofs.Naming.Marks
import MediaNaming.Proofs.Naming.Phrase

/-
The grammar of release names: words, a year, the marks of season and episode, and the words of a
title, spread over the name with delimiters between them. Reading gives back what was written.
-/
namespace MediaNaming

theorem isHyphenOrBlank_of_isAlpha {c : Char} (letter : c.isAlpha = true) :
    isHyphenOrBlank c = false := by
  have other := ascii_forall (p := fun c => !c.isAlpha || !isHyphenOrBlank c) (by decide)
    (toNat_lt_of_isAlpha letter)
  simpa [letter] using other

theorem withoutYear_self {y : Nat} (positive : 0 < y) :
    withoutYear (Int.ofNat y) [Text.ofNumber y] = [] := by
  have bare : withoutBrackets (Text.ofNumber y) = Text.ofNumber y :=
    withoutBrackets_nameLetters fun c inside => isNameLetter_of_isDigit (ofNumber_digits y c inside)
  apply withoutYear_spelled
  simpa using spellsYear_ofNumber positive bare

section Words

variable {words : List Text} (letters : ∀ w ∈ words, w ≠ [] ∧ ∀ c ∈ w, c.isAlpha = true)
include letters

theorem joinSectors_words : joinSectors words = Text.join [' '] words := by
  obtain ⟨first, last⟩ := Text.join_ends [' '] letters
  exact Text.trimEnds_eq_self (fun c head => isHyphenOrBlank_of_isAlpha (first c head))
    fun c ends => isHyphenOrBlank_of_isAlpha (last c ends)

theorem withoutYear_words (year : Int) : withoutYear year words = words := by
  apply withoutYear_undated
  intro w member
  obtain ⟨nonempty, alphas⟩ := letters w member
  obtain ⟨c, t, rfl⟩ := List.exists_cons_of_ne_nil nonempty
  have bare : withoutBrackets (c :: t) = c :: t :=
    withoutBrackets_nameLetters fun d inside => isNameLetter_of_isAlpha (alphas d inside)
  have undigit : c.isDigit = false := by
    rw [← isDecimal_of_ascii (toNat_lt_of_isAlpha (alphas c (by simp)))]
    exact isDecimal_of_isAlpha (alphas c (by simp))
  exact spellsYear_of_undigit (c := c) (by simp [bare]) undigit

theorem joinTitle_words (year : Int) : joinTitle year words = Text.join [' '] words := by
  rw [joinTitle, withoutYear_words letters, joinSectors_words letters]

theorem joinName_words (named : words ≠ []) (year : Option Nat) (recent : ∀ y ∈ year, 0 < y) :
    joinName ((year.map Int.ofNat).getD (-1)) (words ++ (year.map Text.ofNumber).toList) =
      Text.join [' '] words := by
  have filled : Text.join [' '] words ≠ [] :=
    Text.join_ne_nil [' '] named fun w member => (letters w member).1
  have bare : withoutYear ((year.map Int.ofNat).getD (-1))
      (words ++ (year.map Text.ofNumber).toList) = words := by
    cases year with
    | none => simp [withoutYear]
    | some y =>
      rw [withoutYear_append, withoutYear_words letters]
      simpa using withoutYear_self (recent y rfl)
  rw [← joinSectors_words letters] at filled ⊢
  rw [joinName_of_ne_nil (by rwa [bare]), bare]

end Words

structure ReleaseName where
  words : List Text
  title : List Text
  year : Option Nat
  season : Text
  episode : Text
  marks : List Text
  named : words ≠ []
  plain : ∀ w ∈ words ++ title, PlainWord w
  recent : ∀ y ∈ year, 1900 ≤ y ∧ y ≤ 2099
  short : ShortDigits season
  shortEpisode : ShortDigits episode
  spelled : Marks season episode marks

namespace ReleaseName

def years (r : ReleaseName) : List Text := (r.year.map Text.ofNumber).toList

def fragments (r : ReleaseName) : List Text := r.words ++ r.years ++ r.marks ++ r.title

theorem year_fragment (r : ReleaseName) {t : Text} (member : t ∈ r.years) :
    (∀ c ∈ t, c.isDigit = true) ∧ t.length = 4 ∧
      ∃ y, r.year = some y ∧ year? t = some (y : Int) := by
  simp only [years, Option.mem_toList, Option.map_eq_some_iff] at member
  obtain ⟨y, here, rfl⟩ := member
  obtain ⟨four, found⟩ := year?_ofNumber (r.recent y here)
  exact ⟨ofNumber_digits y, four, y, here, found⟩

theorem nameLetters (r : ReleaseName) : ∀ t ∈ r.fragments, ∀ c ∈ t, isNameLetter c = true := by
  intro t member c inside
  simp only [fragments, List.mem_append] at member
  have word (here : t ∈ r.words ++ r.title) : isNameLetter c = true :=
    isNameLetter_of_isAlpha ((r.plain t here).letters c inside)
  rcases member with ((name | year) | mark) | title
  · exact word (by simp [name])
  · exact isNameLetter_of_isDigit ((r.year_fragment year).1 c inside)
  · exact r.spelled.nameLetters r.short r.shortEpisode t mark c inside
  · exact word (by simp [title])

theorem inert (r : ReleaseName) : ∀ t ∈ r.fragments, Inert t := by
  intro t member
  simp only [fragments, List.mem_append] at member
  rcases member with ((name | year) | mark) | title
  · exact (r.plain t (by simp [name])).inert
  · obtain ⟨digits, four, _⟩ := r.year_fragment year
    exact inert_of_digits (by rintro rfl; simp at four) digits
  · exact r.spelled.inert r.short r.shortEpisode t mark
  · exact (r.plain t (by simp [title])).inert

theorem capital_letters (r : ReleaseName) {w : Text} (member : w ∈ r.words ++ r.title) :
    w.capitalize ≠ [] ∧ ∀ c ∈ w.capitalize, c.isAlpha = true :=
  ⟨by simpa using (r.plain w member).ne_nil, capitalize_alpha (r.plain w member).letters⟩

theorem capitalize_years (r : ReleaseName) : r.years.map Text.capitalize = r.years := by
  conv => rhs; rw [← List.map_id r.years]
  apply List.map_congr_left
  intro t member
  exact capitalize_of_decimal fun c inside =>
    isDecimal_of_isDigit ((r.year_fragment member).1 c inside)

theorem told_years (r : ReleaseName) : r.fragments.filterMap (fun t => yearOf? t.capitalize) =
    (r.year.map Int.ofNat).toList := by
  have words {ws : List Text} (among : ∀ w ∈ ws, w ∈ r.words ++ r.title) :
      ws.filterMap (fun t => yearOf? t.capitalize) = [] := by
    apply List.filterMap_eq_nil_iff.2
    intro w member
    have plain := r.plain w (among w member)
    obtain ⟨c, t, rfl⟩ := List.exists_cons_of_ne_nil plain.ne_nil
    exact yearOf?_of_letter (fun d inside => isNameLetter_of_isAlpha (plain.letters d inside))
      ⟨c, by simp, plain.letters c (by simp)⟩
  have marks : r.marks.filterMap (fun t => yearOf? t.capitalize) = [] :=
    List.filterMap_eq_nil_iff.2 (r.spelled.yearless r.short r.shortEpisode)
  have years :
      r.years.filterMap (fun t => yearOf? t.capitalize) = (r.year.map Int.ofNat).toList := by
    cases here : r.year with
    | none => simp [years, here]
    | some y =>
      have digits := ofNumber_digits y
      have found := (year?_ofNumber (r.recent y here)).2
      have told : yearOf? (Text.ofNumber y).capitalize = some (y : Int) := by
        rw [capitalize_of_decimal fun c inside => isDecimal_of_isDigit (digits c inside), yearOf?,
          (judged_nameLetters fun c inside => isNameLetter_of_isDigit (digits c inside)).1,
          map_toLower_of_digits digits, found]
      simp [years, here, told]
  simp only [fragments, List.filterMap_append, words fun w member => List.mem_append_left _ member,
    words fun w member => List.mem_append_right _ member, marks, years, List.nil_append,
    List.append_nil]

theorem refined (r : ReleaseName) {name : Text} (spread : Spread r.fragments name) :
    (refine Lexicon.episodes.classify (sectorsOf name)).sectors =
        r.words.map Text.capitalize ++ r.years ++ r.marks.map Text.capitalize ++
          r.title.map Text.capitalize ∧
      (refine Lexicon.episodes.classify (sectorsOf name)).year =
        (r.year.map Int.ofNat).getD (-1) := by
  have solid := spread.sectors fun t member => ⟨(r.inert t member).nonempty,
    fun c inside => (isDelimiter_of_isNameLetter (r.nameLetters t member c inside)).1⟩
  have same := refine_filter (Lexicon.classify_local Lexicon.episodes) (sectorsOf name)
  rw [solid] at same
  obtain ⟨sectors, year⟩ := refine_inert r.inert
  rw [← same, sectors, year, told_years]
  constructor
  · simp only [fragments, List.map_append, capitalize_years]
  · cases r.year <;> rfl

theorem flat (r : ReleaseName) {name : Text} (spread : Spread r.fragments name) :
    pathSeparator ∉ name := by
  intro member
  rcases spread.mem member with delimiter | ⟨t, among, inside⟩
  · revert delimiter
    decide
  · exact (isDelimiter_of_isNameLetter (r.nameLetters t among _ inside)).2 rfl

/-- The sectors around the marks are words without digits and a year. None is a number that
    could be an episode. -/
theorem around (r : ReleaseName) {t : Text}
    (member : t ∈ r.words.map Text.capitalize ++ r.years ++ r.title.map Text.capitalize) :
    Quiet t ∧ shortNumber? t = none ∧ isBareNumber t = false := by
  have word (w : Text) (among : w ∈ r.words ++ r.title) : Quiet w.capitalize ∧
      shortNumber? w.capitalize = none ∧ isBareNumber w.capitalize = false := by
    obtain ⟨nonempty, letters⟩ := r.capital_letters among
    obtain ⟨c, u, text⟩ := List.exists_cons_of_ne_nil nonempty
    have undecimal : ∃ d ∈ w.capitalize, isDecimal d = false :=
      ⟨c, by simp [text], isDecimal_of_isAlpha (letters c (by simp [text]))⟩
    exact ⟨quiet_of_no_digit fun d inside => isDecimal_of_isAlpha (letters d inside),
      shortNumber?_of_undecimal undecimal, isBareNumber_false (Or.inr undecimal)⟩
  simp only [List.mem_append, List.mem_map] at member
  rcases member with (⟨w, among, rfl⟩ | year) | ⟨w, among, rfl⟩
  · exact word w (by simp [among])
  · obtain ⟨digits, four, _⟩ := r.year_fragment year
    refine ⟨quiet_of_digits fun c inside => isDecimal_of_isDigit (digits c inside), ?_,
      isBareNumber_false (Or.inl (by omega))⟩
    rw [shortNumber?, if_neg]
    rw [byteSize_of_digits digits]
    omega
  · exact word w (by simp [among])

def lead (r : ReleaseName) : List Text := r.words.map Text.capitalize ++ r.years

theorem scans (r : ReleaseName) {input : Text} {marked : List Text} {season : Nat}
    {episodes : List Nat} {found : Nat → Evidence}
    (readAs : ReadAs input (r.marks.map Text.capitalize) marked season episodes found) :
    (Scan.start (r.lead ++ r.marks.map Text.capitalize ++ r.title.map Text.capitalize)).run input =
      (⟨r.lead ++ marked ++ r.title.map Text.capitalize, [], found r.lead.length⟩, none) := by
  have spelled := r.spelled.capitalized r.short r.shortEpisode
  have unpaired {sectors : List Text} (none : ∀ t ∈ sectors, shortNumber? t = none) :
      sectors.IsChain Unpaired :=
    (List.pairwise_of_forall_mem_list fun _ _ t member => Or.inr (none t member)).isChain
  apply Scan.run_around found
  · intro t member
    exact (r.around member).1
  · apply unpaired
    intro t member
    rcases List.mem_append.1 member with before | mark
    · exact (r.around (List.mem_append_left _ before)).2.1
    · obtain ⟨head, more, text⟩ := List.exists_cons_of_ne_nil spelled.ne_nil
      obtain rfl : t = head := by simpa [text] using mark
      exact spelled.head_unpaired r.short r.shortEpisode t (by simp [text])
  · apply unpaired
    intro t member
    exact (r.around (List.mem_append_right _ member)).2.1
  · exact spelled.ne_nil
  · exact readAs.scans

theorem completes (r : ReleaseName) {input : Text} {marked : List Text} {season : Nat}
    {episodes : List Nat} {found : Nat → Evidence}
    (readAs : ReadAs input (r.marks.map Text.capitalize) marked season episodes found) :
    (found r.lead.length).complete input (r.lead ++ marked ++ r.title.map Text.capitalize) =
      .ok ⟨some season, episodes, some (r.lead.length, r.lead.length + (marked.length - 1))⟩ := by
  obtain ⟨first, words, start⟩ := List.exists_cons_of_ne_nil r.named
  have lead : r.lead = first.capitalize :: (words.map Text.capitalize ++ r.years) := by
    simp [ReleaseName.lead, start]
  have letters := (r.capital_letters (w := first) (by simp [start])).2
  have others : ∀ t ∈ r.lead ++ r.title.map Text.capitalize, isBareNumber t = false :=
    fun t member => (r.around member).2.2
  rw [lead] at others ⊢
  exact readAs.completes _ _ _ (fun c inside => isDecimal_of_isAlpha (letters c inside)) others

end ReleaseName

theorem parseEpisode_releaseName (r : ReleaseName) (folder : Option Text) (extension : Text)
    {name : Text} (spread : Spread r.fragments name) (undotted : '.' ∉ extension)
    (unnested : pathSeparator ∉ extension) :
    ∃ f, ({} : Renamer).parseEpisode (inFolder folder (name ++ '.' :: extension)) = .ok f ∧
      f.season = r.season.decimalValue ∧ f.episodes = [r.episode.decimalValue] ∧
      f.seriesName = Text.join [' '] (r.words.map Text.capitalize) ∧
      f.episodeTitle = Text.join [' '] (r.title.map Text.capitalize) ∧
      f.media.year = (r.year.map Int.ofNat).getD (-1) := by
  have cut := ofPath?_inFolder folder (r.flat spread) undotted unnested
  obtain ⟨sectors, year⟩ := r.refined spread
  obtain ⟨marked, found, readAs⟩ := (r.spelled.capitalized r.short r.shortEpisode).read r.short
    r.shortEpisode (inFolder folder (name ++ '.' :: extension))
  have scans := r.scans readAs
  rw [ReleaseName.lead, ← sectors] at scans
  have read := parseEpisode_of_evidence cut rfl scans (r.completes readAs)
  have letters {ws : List Text} (among : ∀ w ∈ ws, w ∈ r.words ++ r.title) :
      ∀ w ∈ ws.map Text.capitalize, w ≠ [] ∧ ∀ c ∈ w, c.isAlpha = true := by
    intro w member
    obtain ⟨v, here, rfl⟩ := List.mem_map.1 member
    exact r.capital_letters (among v here)
  have names := letters fun w member => List.mem_append_left r.title member
  have titles := letters fun w member => List.mem_append_right r.words member
  have named : r.words.map Text.capitalize ≠ [] := by simpa using r.named
  have split := nameAndTitle_around (r.title.map Text.capitalize)
    ((r.year.map Int.ofNat).getD (-1)) (show r.lead ≠ [] by simp [ReleaseName.lead, r.named])
    readAs.some_mark
  have name := joinName_words names named r.year fun y here => by
    have := r.recent y here
    omega
  rw [joinTitle_words titles, ReleaseName.lead, ReleaseName.years, name] at split
  have filled := Text.join_ne_nil [' '] named fun w member => (names w member).1
  rw [year, ofEvidence_of_split split filled] at read
  exact ⟨_, read, rfl, rfl, rfl, rfl, rfl⟩

def pairedRelease : ReleaseName where
  words := ["the".toList, "SeaSon".toList]
  title := ["pilot".toList, "Episode".toList]
  year := some 2005
  season := "1".toList
  episode := "02".toList
  marks := ["SEASON".toList, "1".toList, "episode".toList, "02".toList]
  named := List.cons_ne_nil _ _
  plain := by decide
  recent := by decide
  short := by decide
  shortEpisode := by decide
  spelled := .words (by decide) (by decide)

theorem pairedRelease_spread : Spread pairedRelease.fragments
    "the._SeaSon,2005 SEASON.1_episode..02 , pilot.Episode".toList := by
  have spread : Spread pairedRelease.fragments _ :=
    .more "._".toList (by decide) (by decide) <|
    .more ",".toList (by decide) (by decide) <|
    .more " ".toList (by decide) (by decide) <|
    .more ".".toList (by decide) (by decide) <|
    .more "_".toList (by decide) (by decide) <|
    .more "..".toList (by decide) (by decide) <|
    .more " , ".toList (by decide) (by decide) <|
    .more ".".toList (by decide) (by decide) <| .last _
  convert spread using 1
  decide

theorem parseEpisode_pairedRelease :
    ∃ f, ({} : Renamer).parseEpisode
        "/a.b/Season 9/the._SeaSon,2005 SEASON.1_episode..02 , pilot.Episode.mkv".toList = .ok f ∧
      f.season = 1 ∧ f.episodes = [2] ∧ f.seriesName = "The SeaSon".toList ∧
      f.episodeTitle = "Pilot Episode".toList ∧ f.media.year = 2005 := by
  have read := parseEpisode_releaseName pairedRelease (some "/a.b/Season 9".toList)
    "mkv".toList pairedRelease_spread (by decide) (by decide)
  have input : inFolder (some "/a.b/Season 9".toList)
      ("the._SeaSon,2005 SEASON.1_episode..02 , pilot.Episode".toList ++ '.' :: "mkv".toList) =
        "/a.b/Season 9/the._SeaSon,2005 SEASON.1_episode..02 , pilot.Episode.mkv".toList := by
    decide
  have name : Text.join [' '] (pairedRelease.words.map Text.capitalize) = "The SeaSon".toList := by
    decide
  have title :
      Text.join [' '] (pairedRelease.title.map Text.capitalize) = "Pilot Episode".toList := by
    decide
  rw [input, name, title] at read
  exact read

end MediaNaming
