import MediaNaming.Proofs.Episode.Block
import MediaNaming.Proofs.Episode.Chain

/-
Names whose only digits tell the season. The scan finds the season and no episode, and its block
covers every marker, so that no bare number is left over. A number that leads the first sector is
looked for without regard to the block: where the first sector is a marker, its digits are counted
a second time, as an episode.
-/
namespace MediaNaming

/-- The only digits stand in markers of one season: a letter with one or two digits, or a word and
    a number of one or two digits. -/
inductive SeasonMarkers (n : Nat) : List Text → Prop
  | nil : SeasonMarkers n []
  | plain {t : Text} {rest : List Text} (undigit : ∀ c ∈ t, isDecimal c = false)
      (later : SeasonMarkers n rest) : SeasonMarkers n (t :: rest)
  | letter {s : Char} {digits : Text} {rest : List Text} (letter : s = 's' ∨ s = 'S')
      (short : ShortDigits digits) (value : digits.decimalValue = n)
      (later : SeasonMarkers n rest) : SeasonMarkers n ((s :: digits) :: rest)
  | pair {word digits : Text} {rest : List Text} (spelled : Text.isWord "season".toList word = true)
      (short : ShortDigits digits) (value : digits.decimalValue = n)
      (later : SeasonMarkers n rest) : SeasonMarkers n (word :: digits :: rest)

theorem ofSector?_season {word : Text} (spelled : Text.isWord "season".toList word = true) :
    PairWord.ofSector? word = some .season := by
  rw [PairWord.ofSector?, if_pos spelled]

theorem seasonMarks_letter {s : Char} {digits : Text} (letter : s = 's' ∨ s = 'S')
    (short : ShortDigits digits) : seasonMarks (s :: digits) = [digits.decimalValue] := by
  simpa [chainText] using seasonMarks_chainText [] letter short

theorem episodeMarks_letter {s : Char} {digits : Text} (letter : s = 's' ∨ s = 'S')
    (short : ShortDigits digits) : episodeMarks (s :: digits) = [] := by
  simpa [chainText] using episodeMarks_chainText [] letter short

theorem Evidence.assertSeason_of_agrees {n : Nat} {e : Evidence} (input : Text)
    (agrees : ∀ m ∈ e.season, m = n) :
    e.assertSeason input n = .ok { e with season := some n } := by
  obtain ⟨season, episodes, block⟩ := e
  cases season with
  | none => rfl
  | some m =>
    obtain rfl := agrees m rfl
    simp [assertSeason]

variable {n : Nat} {sectors : List Text}

theorem SeasonMarkers.numberAhead (markers : SeasonMarkers n sectors) :
    Scan.numberAhead sectors = none := by
  cases markers with
  | nil => rfl
  | plain undigit later => exact shortNumber?_of_no_digit undigit
  | @letter s digits rest letter short value later =>
    apply shortNumber?_of_undecimal
    refine ⟨s, by simp, ?_⟩
    rcases letter with rfl | rfl <;> decide
  | pair spelled short value later =>
    exact shortNumber?_of_no_digit (undigit_of_word (ofSector?_season spelled))

structure Scan.InSeason (n : Nat) (sectors : List Text) (s : Scan) : Prop where
  whole : s.done ++ s.rest = sectors
  markers : SeasonMarkers n s.rest
  agrees : ∀ m ∈ s.evidence.season, m = n
  unnamed : s.evidence.episodes = []

theorem Scan.step_inSeason (input : Text) {s : Scan} (inSeason : s.InSeason n sectors)
    (more : s.rest ≠ []) : ∃ after, s.step input = .ok after ∧ after.InSeason n sectors := by
  obtain ⟨done, rest, e⟩ := s
  obtain ⟨rfl, markers, agrees, unnamed⟩ := inSeason
  cases markers with
  | nil => exact absurd rfl more
  | @plain t rest undigit later =>
    have alone : pair? t rest = none := pair?_eq_none.2 (Or.inr later.numberAhead)
    have quiet := quiet_of_no_digit undigit
    have stepped : step input ⟨done, t :: rest, e⟩ = .ok ⟨done ++ [t], rest, e⟩ := by
      simp [step, quiet.seasons, quiet.episodes, quiet.crosses, alone, pass]
    exact ⟨_, stepped, by simp, later, agrees, unnamed⟩
  | @letter s digits rest letter short value later =>
    have stepped : step input ⟨done, (s :: digits) :: rest, e⟩ =
        .ok ⟨done ++ [s :: digits], rest, { e with season := some n }.cover done.length⟩ := by
      simp [step, seasonMarks_letter letter short, episodeMarks_letter letter short, value,
        Evidence.assertSeason_of_agrees input agrees, Evidence.addEpisodes, pass, bind, Except.bind]
    exact ⟨_, stepped, by simp, later, by simp [Evidence.cover], unnamed⟩
  | @pair word digits rest spelled short value later =>
    have pairs := ofSector?_season spelled
    have stepped : step input ⟨done, word :: digits :: rest, e⟩ =
        .ok ⟨done ++ [word, digits], rest,
          ({ e with season := some n }.cover done.length).cover (done.length + 1)⟩ := by
      rw [step_pair (quiet_of_word pairs) pairs short, value]
      simp [passPair, Evidence.assertSeason_of_agrees input agrees, bind, Except.bind]
    exact ⟨_, stepped, by simp, later, by simp [Evidence.cover], unnamed⟩

theorem Scan.run_seasonMarkers (input : Text) (markers : SeasonMarkers n sectors) : ∃ found,
    (start sectors).run input = (⟨sectors, [], found⟩, none) ∧ found.episodes = [] := by
  have begins : (start sectors).InSeason n sectors := ⟨rfl, markers, by simp [start], rfl⟩
  obtain ⟨⟨done, rest, found⟩, ran, inSeason, ended⟩ :=
    run_succeeds (fun _ => step_inSeason input) begins
  obtain rfl : rest = [] := ended
  obtain rfl : done = sectors := by simpa using inSeason.whole
  exact ⟨found, ran, inSeason.unnamed⟩

theorem Gives.behind {word : PairWord} {i : Nat} (t : Text) (gives : Gives sectors word n i) :
    Gives (t :: sectors) word n (i + 1) := by
  have shifted {i : Nat} (pair : PairAt sectors word i n) : PairAt (t :: sectors) word (i + 1) n :=
    pair
  cases gives with
  | mark here marked => exact .mark here marked
  | word pair => exact .word (shifted pair)
  | number pair => exact .number (shifted pair)

theorem SeasonMarkers.gives (markers : SeasonMarkers n sectors) {i : Nat} {t : Text}
    (here : sectors[i]? = some t) (digit : ∃ c ∈ t, isDecimal c = true) :
    Gives sectors .season n i := by
  induction markers generalizing i with
  | nil => simp at here
  | plain undigit later ih =>
    cases i with
    | zero =>
      obtain ⟨c, member, decimal⟩ := digit
      cases here
      rw [undigit c member] at decimal
      contradiction
    | succ i => exact (ih here).behind _
  | @letter s digits rest letter short value later ih =>
    cases i with
    | zero =>
      cases here
      exact .mark rfl (by simp [PairWord.marks, seasonMarks_letter letter short, value])
    | succ i => exact (ih here).behind _
  | @pair word digits rest spelled short value later ih =>
    have first : PairAt (word :: digits :: rest) .season 0 n :=
      ⟨word, digits, rfl, ofSector?_season spelled, rfl, by rw [shortNumber?_of_short short, value]⟩
    cases i with
    | zero => exact .word first
    | succ i =>
      cases i with
      | zero => exact .number first
      | succ i => exact ((ih here).behind digits).behind word

theorem digitRuns_letter {s : Char} {digits : Text} (letter : s = 's' ∨ s = 'S')
    (short : ShortDigits digits) : digitRuns (s :: digits) = [digits] := by
  have stop : (!isDecimal s) = true := by rcases letter with rfl | rfl <;> decide
  have clean : digits.pieces (fun c => !isDecimal c) = [digits] :=
    Text.pieces_of_clean fun c member => by simp [shortDigits_decimal short c member]
  rw [digitRuns, Text.pieces_stop stop, clean]
  simp [short.nonempty]

/-- Only a marker with a letter leads with a number, and that number is the season. -/
theorem SeasonMarkers.leadingNumber (markers : SeasonMarkers n sectors) :
    (leadingNumber? sectors = none ↔ ∀ t ∈ sectors.head?, ∀ c ∈ t, isDecimal c = false) ∧
      ∀ m ∈ leadingNumber? sectors, m = n := by
  have unled {t : Text} {rest : List Text} (undigit : ∀ c ∈ t, isDecimal c = false) :=
    leadingNumber?_of_no_digit rest undigit
  cases markers with
  | nil => simp [leadingNumber?]
  | plain undigit later => simpa [unled undigit] using undigit
  | pair spelled short value later =>
    have undigit := undigit_of_word (ofSector?_season spelled)
    simpa [unled undigit] using undigit
  | @letter s digits rest letter short value later =>
    have read : Text.readNumber? wordLimit digits = some digits.decimalValue := by
      have small := shortDigits_lt short
      exact readNumber?_of_digits short.digits short.nonempty (by unfold wordLimit; omega)
    have led : leadingNumber? ((s :: digits) :: rest) = some n := by
      simp [leadingNumber?, digitRuns_letter letter short, shortDigits_byteSize short, read, value]
    obtain ⟨d, more, rfl⟩ := List.exists_cons_of_ne_nil short.nonempty
    have decimal := shortDigits_decimal short d (by simp)
    simp [led, decimal]

theorem digit_of_bare {t : Text} (bare : isBareNumber t = true) : ∃ c ∈ t, isDecimal c = true := by
  simp only [isBareNumber, Bool.and_eq_true, bne_iff_ne] at bare
  obtain ⟨c, more, rfl⟩ := List.exists_cons_of_ne_nil bare.1.1
  exact ⟨c, by simp, List.all_eq_true.1 bare.2 c (by simp)⟩

theorem SeasonMarkers.bareNumbers (markers : SeasonMarkers n sectors) {found : Evidence}
    (traced : Scan.Traced ⟨sectors, [], found⟩) : bareNumbers sectors found.block = [] := by
  apply List.filter_eq_nil_iff.2
  rintro ⟨t, i⟩ member both
  obtain ⟨outside, bare⟩ := Bool.and_eq_true_iff.1 both
  have here : sectors[i]? = some t := List.mk_mem_zipIdx_iff_getElem?.1 member
  have gives := markers.gives here (digit_of_bare bare)
  have covered := (traced.ended rfl (by simpa [Scan.sectors] using gives)).1
  rw [outside] at covered
  contradiction

theorem Evidence.complete_of_unbared {input : Text} {e : Evidence} (unnamed : e.episodes = [])
    (none : MediaNaming.bareNumbers sectors e.block = []) :
    e.complete input sectors = .ok (e.addLeadingNumber sectors) := by
  cases led : leadingNumber? sectors with
  | none => simp [complete, unnamed, addLeadingNumber, led, addBareNumber, none]
  | some episode => simp [complete, unnamed, addLeadingNumber, led, addEpisodes]

/-- The season is told, and no episode unless the first sector has digits: then the season is told
    once more, as an episode. -/
theorem extract_seasonMarkers (markers : SeasonMarkers n sectors)
    (marked : ∃ t ∈ sectors, ∃ c ∈ t, isDecimal c = true) (year : Int) (input : Text) :
    ∃ parts, (extract sectors year input).parts = .ok parts ∧ parts.season = some n ∧
      (parts.episodes = [] ↔ ∀ t ∈ sectors.head?, ∀ c ∈ t, isDecimal c = false) ∧
      ∀ m ∈ parts.episodes, m = n := by
  obtain ⟨found, scans, unnamed⟩ := Scan.run_seasonMarkers input markers
  have traced := Scan.traced_run input sectors
  rw [scans] at traced
  have season : found.season = some n := by
    obtain ⟨t, member, digit⟩ := marked
    obtain ⟨i, here⟩ := List.mem_iff_getElem?.1 member
    have gives := markers.gives here digit
    exact (traced.ended rfl (by simpa [Scan.sectors] using gives)).2
  have reads := extract_of_evidence scans
    (Evidence.complete_of_unbared unnamed (markers.bareNumbers traced)) year
  refine ⟨_, congrArg Extraction.parts reads, ?_⟩
  obtain ⟨unled, same⟩ := markers.leadingNumber
  simp only [EpisodeParts.ofEvidence, Evidence.addLeadingNumber]
  cases led : leadingNumber? sectors with
  | none =>
    rw [led] at unled
    exact ⟨season, by simpa [unnamed] using unled, by simp [unnamed]⟩
  | some episode =>
    rw [led] at unled same
    simp only [Evidence.addEpisodes, unnamed, List.nil_append]
    exact ⟨season, by simpa using unled, by simpa using same⟩

theorem extract_seasonMarkers_finale :
    SeasonMarkers 2 (["Show", "SEASON", "02", "Episode", "s2", "Finale"].map String.toList) ∧
    ∃ parts, (extract (["Show", "SEASON", "02", "Episode", "s2", "Finale"].map String.toList)
        (-1) []).parts = .ok parts ∧
      parts.season = some 2 ∧ parts.episodes = [] := by
  have markers : SeasonMarkers 2
      (["Show", "SEASON", "02", "Episode", "s2", "Finale"].map String.toList) :=
    .plain (by decide) (.pair (by decide) (by decide) rfl (.plain (by decide)
      (.letter (Or.inl rfl) (by decide) rfl (.plain (by decide) .nil))))
  obtain ⟨parts, read, season, unnamed, -⟩ := extract_seasonMarkers markers
    ⟨"s2".toList, by decide, '2', by decide, by decide⟩ (-1) []
  exact ⟨markers, parts, read, season, unnamed.2 (by decide)⟩

/-- A name that begins with the marker of a season tells an episode of the same number. -/
theorem season_read_as_episode :
    SeasonMarkers 1 ["S01".toList, "Pilot".toList] ∧
      (extract ["S01".toList, "Pilot".toList] (-1) "S01.Pilot".toList).parts =
        .ok ⟨some 1, [1], some (0, 0), unknownSeries, "Pilot".toList⟩ :=
  ⟨.letter (Or.inr rfl) (by decide) rfl (.plain (by decide) .nil), by decide +kernel⟩

end MediaNaming
