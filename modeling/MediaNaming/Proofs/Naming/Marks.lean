import MediaNaming.Proofs.Episode.Around
import MediaNaming.Proofs.Naming.Fragments

/-
The spellings of one season and one episode: with letters, with a cross, in two pairs of a word
and a number, or as a bare number of three digits. All of them are read as the same evidence.
-/
namespace MediaNaming

/-- The spellings of a season and one episode. A bare number is told apart by its three digits. -/
inductive Marks (season episode : Text) : List Text → Prop
  | letters {s e : Char} (letterS : s = 's' ∨ s = 'S') (letterE : e = 'e' ∨ e = 'E') :
      Marks season episode [lettersText s e season episode none]
  | cross {x : Char} (cross : isCross x = true) :
      Marks season episode [crossText x season episode none]
  | words {first second : Text} (pairSeason : Text.isWord "season".toList first = true)
      (pairEpisode : Text.isWord "episode".toList second = true) :
      Marks season episode [first, season, second, episode]
  | bare (one : season.length = 1) (two : episode.length = 2) :
      Marks season episode [season ++ episode]

namespace Marks

variable {season episode : Text} {marks : List Text}

theorem ne_nil (spelled : Marks season episode marks) : marks ≠ [] := by
  cases spelled <;> simp

theorem inert (spelled : Marks season episode marks) (short : ShortDigits season)
    (shortEpisode : ShortDigits episode) : ∀ t ∈ marks, Inert t := by
  intro t member
  cases spelled with
  | letters letterS letterE =>
    obtain rfl := List.mem_singleton.1 member
    exact inert_lettersText letterS letterE short shortEpisode (by simp)
  | cross cross =>
    obtain rfl := List.mem_singleton.1 member
    exact inert_crossText cross short shortEpisode (by simp)
  | words pairSeason pairEpisode =>
    simp only [List.mem_cons, List.not_mem_nil, or_false] at member
    rcases member with rfl | rfl | rfl | rfl
    · exact (plainWord_of_isWord pairSeason (Or.inl rfl)).inert
    · exact inert_of_digits short.nonempty short.digits
    · exact (plainWord_of_isWord pairEpisode (Or.inr rfl)).inert
    · exact inert_of_digits shortEpisode.nonempty shortEpisode.digits
  | bare one two =>
    obtain rfl := List.mem_singleton.1 member
    apply inert_of_digits (by simp [short.nonempty])
    intro c inside
    exact (List.mem_append.1 inside).elim (short.digits c) (shortEpisode.digits c)

theorem nameLetters (spelled : Marks season episode marks) (short : ShortDigits season)
    (shortEpisode : ShortDigits episode) : ∀ t ∈ marks, ∀ c ∈ t, isNameLetter c = true := by
  have digits {t : Text} (here : ShortDigits t) : ∀ c ∈ t, isNameLetter c = true :=
    fun c inside => isNameLetter_of_isDigit (here.digits c inside)
  have letters {t : Text} (plain : PlainWord t) : ∀ c ∈ t, isNameLetter c = true :=
    fun c inside => isNameLetter_of_isAlpha (plain.letters c inside)
  intro t member
  cases spelled with
  | letters letterS letterE =>
    obtain rfl := List.mem_singleton.1 member
    exact letters_nameLetters letterS letterE short shortEpisode (by simp)
  | cross cross =>
    obtain rfl := List.mem_singleton.1 member
    exact crossText_nameLetters cross short shortEpisode (by simp)
  | words pairSeason pairEpisode =>
    simp only [List.mem_cons, List.not_mem_nil, or_false] at member
    rcases member with rfl | rfl | rfl | rfl
    · exact letters (plainWord_of_isWord pairSeason (Or.inl rfl))
    · exact digits short
    · exact letters (plainWord_of_isWord pairEpisode (Or.inr rfl))
    · exact digits shortEpisode
  | bare one two =>
    obtain rfl := List.mem_singleton.1 member
    intro c inside
    exact (List.mem_append.1 inside).elim (digits short c) (digits shortEpisode c)

theorem capitalized (spelled : Marks season episode marks) (short : ShortDigits season)
    (shortEpisode : ShortDigits episode) : Marks season episode (marks.map Text.capitalize) := by
  have digits {t : Text} (here : ∀ c ∈ t, c.isDigit = true) : t.capitalize = t :=
    capitalize_of_decimal fun c inside => isDecimal_of_isDigit (here c inside)
  have word {w t : Text} (known : w = "season".toList ∨ w = "episode".toList)
      (here : Text.isWord w t = true) : Text.isWord w t.capitalize = true := by
    have same := (capitalize_nameLetters fun c inside =>
      isNameLetter_of_isAlpha ((plainWord_of_isWord here known).letters c inside)).2
    simpa [Text.isWord, same] using here
  cases spelled with
  | @letters s e letterS letterE =>
    have low : s.toNat < 128 := by rcases letterS with rfl | rfl <;> decide
    have capital : s.toUpper = 's' ∨ s.toUpper = 'S' := by rcases letterS with rfl | rfl <;> decide
    rw [List.map_singleton, lettersText, capitalize_of_ascii _ low]
    exact letters capital letterE
  | @cross x crosses =>
    obtain ⟨c, t, text⟩ := List.exists_cons_of_ne_nil short.nonempty
    have same : Text.capitalize (crossText x season episode none) =
        crossText x season episode none := by
      rw [crossText, text, List.cons_append]
      exact Text.capitalize_cons_of_not_lowercase _
        (isLowercase_of_decimal (isDecimal_of_isDigit (short.digits c (by simp [text]))))
    rw [List.map_singleton, same]
    exact cross crosses
  | words pairSeason pairEpisode =>
    simp only [List.map_cons, List.map_nil, digits short.digits, digits shortEpisode.digits]
    exact words (word (Or.inl rfl) pairSeason) (word (Or.inr rfl) pairEpisode)
  | bare one two =>
    rw [List.map_singleton, digits fun c inside =>
      (List.mem_append.1 inside).elim (short.digits c) (shortEpisode.digits c)]
    exact bare one two

theorem yearOf?_of_digits {t : Text} (digits : ∀ c ∈ t, c.isDigit = true) (other : t.length ≠ 4) :
    yearOf? t.capitalize = none := by
  rw [capitalize_of_decimal fun c inside => isDecimal_of_isDigit (digits c inside), yearOf?,
    (judged_nameLetters fun c inside => isNameLetter_of_isDigit (digits c inside)).1,
    map_toLower_of_digits digits, year?, if_neg (by simp [other])]

theorem yearless (spelled : Marks season episode marks) (short : ShortDigits season)
    (shortEpisode : ShortDigits episode) : ∀ t ∈ marks, yearOf? t.capitalize = none := by
  have number {t : Text} (here : ShortDigits t) : yearOf? t.capitalize = none := by
    apply yearOf?_of_digits here.digits
    have := here.short
    omega
  have word {t : Text} (plain : PlainWord t) : yearOf? t.capitalize = none := by
    obtain ⟨c, u, rfl⟩ := List.exists_cons_of_ne_nil plain.ne_nil
    exact yearOf?_of_letter (fun d inside => isNameLetter_of_isAlpha (plain.letters d inside))
      ⟨c, by simp, plain.letters c (by simp)⟩
  intro t member
  have names := nameLetters spelled short shortEpisode t member
  cases spelled with
  | @letters s e letterS letterE =>
    obtain rfl := List.mem_singleton.1 member
    apply yearOf?_of_letter names
    exact ⟨s, by simp [lettersText], by rcases letterS with rfl | rfl <;> decide⟩
  | @cross x crosses =>
    obtain rfl := List.mem_singleton.1 member
    apply yearOf?_of_letter names
    exact ⟨x, by simp [crossText], by rcases isCross_iff.1 crosses with rfl | rfl <;> decide⟩
  | words pairSeason pairEpisode =>
    simp only [List.mem_cons, List.not_mem_nil, or_false] at member
    rcases member with rfl | rfl | rfl | rfl
    · exact word (plainWord_of_isWord pairSeason (Or.inl rfl))
    · exact number short
    · exact word (plainWord_of_isWord pairEpisode (Or.inr rfl))
    · exact number shortEpisode
  | bare one two =>
    obtain rfl := List.mem_singleton.1 member
    apply yearOf?_of_digits
    · intro c inside
      exact (List.mem_append.1 inside).elim (short.digits c) (shortEpisode.digits c)
    · rw [List.length_append]
      omega

/-- No mark begins with a number that would make a pair with the word before it. -/
theorem head_unpaired (spelled : Marks season episode marks) (short : ShortDigits season)
    (shortEpisode : ShortDigits episode) : ∀ t ∈ marks.head?, shortNumber? t = none := by
  intro t head
  cases spelled with
  | @letters s e letterS letterE =>
    obtain rfl : lettersText s e season episode none = t := by simpa using head
    apply shortNumber?_of_undecimal
    exact ⟨s, by simp [lettersText], by rcases letterS with rfl | rfl <;> decide⟩
  | @cross x crosses =>
    obtain rfl : crossText x season episode none = t := by simpa using head
    apply shortNumber?_of_undecimal
    exact ⟨x, by simp [crossText], by rcases isCross_iff.1 crosses with rfl | rfl <;> decide⟩
  | words pairSeason pairEpisode =>
    obtain rfl := Option.some.inj head
    have plain := plainWord_of_isWord pairSeason (Or.inl rfl)
    obtain ⟨c, u, rfl⟩ := List.exists_cons_of_ne_nil plain.ne_nil
    exact shortNumber?_of_undecimal ⟨c, by simp, isDecimal_of_isAlpha (plain.letters c (by simp))⟩
  | bare one two =>
    obtain rfl : season ++ episode = t := by simpa using head
    rw [shortNumber?, if_neg]
    simp [byteSize_of_digits short.digits, byteSize_of_digits shortEpisode.digits, one, two]

theorem readNumber?_of_short {t : Text} (short : ShortDigits t) :
    t.readNumber? wordLimit = some t.decimalValue := by
  have small := shortDigits_lt short
  exact readNumber?_of_digits short.digits short.nonempty (by unfold wordLimit; omega)

theorem readBareNumber_three (short : ShortDigits season) (shortEpisode : ShortDigits episode)
    (one : season.length = 1) (two : episode.length = 2) :
    readBareNumber (season ++ episode) =
      .ok (some season.decimalValue, some episode.decimalValue) := by
  have size := byteSize_of_digits short.digits
  have sizeEpisode := byteSize_of_digits shortEpisode.digits
  have cut : (season ++ episode).byteSize - 2 = season.byteSize := by
    rw [Text.byteSize_append]
    omega
  have long : ¬ (season ++ episode).byteSize < 3 := by
    rw [Text.byteSize_append]
    omega
  simp only [readBareNumber, long, if_false, cut, Text.takeBytes?_append, Text.dropBytes?_append,
    readNumber?_of_short short, readNumber?_of_short shortEpisode]

theorem readAs_words {input first second : Text}
    (pairSeason : Text.isWord "season".toList first = true)
    (pairEpisode : Text.isWord "episode".toList second = true) (short : ShortDigits season)
    (shortEpisode : ShortDigits episode) :
    ReadAs input [first, season, second, episode] [first, season, second, episode]
      season.decimalValue [episode.decimalValue]
      fun index => ⟨some season.decimalValue, [episode.decimalValue], some (index, index + 3)⟩ := by
  have quiet {t : Text} (plain : PlainWord t) : Quiet t :=
    quiet_of_no_digit fun c inside => isDecimal_of_isAlpha (plain.letters c inside)
  have pairsSeason : PairWord.ofSector? first = some .season := by
    rw [PairWord.ofSector?, if_pos pairSeason]
  have pairsEpisode : PairWord.ofSector? second = some .episode := by
    have other : Text.isWord "season".toList second = false := by
      simp only [Text.isWord, beq_iff_eq] at pairEpisode
      simp only [Text.isWord, pairEpisode]
      decide
    rw [PairWord.ofSector?, other, if_neg Bool.false_ne_true, if_pos pairEpisode]
  exact ⟨List.cons_ne_nil _ _,
    fun _ _ => Scan.run_words (quiet (plainWord_of_isWord pairSeason (Or.inl rfl)))
      (quiet (plainWord_of_isWord pairEpisode (Or.inr rfl))) pairsSeason pairsEpisode short
      shortEpisode,
    fun _ _ _ _ _ => complete_of_episodes (List.cons_ne_nil _ _)⟩

theorem readAs_bare {input : Text} (short : ShortDigits season) (shortEpisode : ShortDigits episode)
    (one : season.length = 1) (two : episode.length = 2) :
    ReadAs input [season ++ episode] [season ++ episode] season.decimalValue [episode.decimalValue]
      fun _ => {} := by
  have digits : ∀ c ∈ season ++ episode, c.isDigit = true := fun c inside =>
    (List.mem_append.1 inside).elim (short.digits c) (shortEpisode.digits c)
  have decimal : ∀ c ∈ season ++ episode, isDecimal c = true :=
    fun c inside => isDecimal_of_isDigit (digits c inside)
  have nonempty : season ++ episode ≠ [] := by simp [short.nonempty]
  have first_digit : ∃ c ∈ season ++ episode, isDecimal c = true := by
    obtain ⟨c, more, text⟩ := List.exists_cons_of_ne_nil nonempty
    exact ⟨c, by simp [text], decimal c (by simp [text])⟩
  refine ⟨List.cons_ne_nil _ _, ?_, ?_⟩
  · intro done rest
    apply Scan.run_step (by simp)
    exact Scan.step_quiet (quiet_of_digits decimal)
      fun _ _ => Or.inl (ofSector?_of_decimal first_digit)
  · intro first before after undecimal others
    have number : isBareNumber (season ++ episode) = true := by
      simp only [isBareNumber, Bool.and_eq_true, bne_iff_ne, decide_eq_true_eq, List.length_append]
      exact ⟨⟨nonempty, by omega⟩, List.all_eq_true.2 decimal⟩
    have only := bareNumbers_around others number
    have unled := leadingNumber?_of_no_digit (before ++ [season ++ episode] ++ after) undecimal
    exact complete_of_bare unled only (readBareNumber_three short shortEpisode one two)

theorem read (spelled : Marks season episode marks) (short : ShortDigits season)
    (shortEpisode : ShortDigits episode) (input : Text) :
    ∃ marked found,
      ReadAs input marks marked season.decimalValue [episode.decimalValue] found := by
  cases spelled with
  | letters letterS letterE =>
    exact ⟨_, _, readAs_letters letterS letterE short shortEpisode (by simp)⟩
  | cross crosses => exact ⟨_, _, readAs_cross crosses short shortEpisode (by simp)⟩
  | words pairSeason pairEpisode =>
    exact ⟨_, _, readAs_words pairSeason pairEpisode short shortEpisode⟩
  | bare one two => exact ⟨_, _, readAs_bare short shortEpisode one two⟩

end Marks

end MediaNaming
