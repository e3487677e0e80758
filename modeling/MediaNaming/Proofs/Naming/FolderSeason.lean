import MediaNaming.Naming.Renamer
import MediaNaming.Proofs.Episode.Reading
import MediaNaming.Proofs.Naming.Outcome
import MediaNaming.Proofs.Text.Lowercase
import MediaNaming.Proofs.Text.Splitting

/-
The season that a folder names. It is the last part of the location, which has to be a word for
seasons in ASCII letters of either case, a gap and a number. A number is also read with a plus sign
in front of it.
-/
namespace MediaNaming

structure IsLastPart (location folder : Text) : Prop where
  full : folder ≠ []
  flat : pathSeparator ∉ folder
  cut : ∃ lead tail, location = lead ++ folder ++ tail ∧ (∀ c ∈ lead.getLast?, c = pathSeparator) ∧
    ∀ c ∈ tail, c = pathSeparator

theorem lastFolder_eq (location : Text) : lastFolder location = (partsOf location).getLastD [] :=
  rfl

theorem lastFolder_append_separators (location : Text) {tail : Text}
    (separators : ∀ c ∈ tail, c = pathSeparator) :
    lastFolder (location ++ tail) = lastFolder location := by
  induction tail generalizing location with
  | nil => rw [List.append_nil]
  | cons c tail ih =>
    obtain rfl := separators c (by simp)
    have nothing : partsOf [] = [] := rfl
    rw [← List.singleton_append, ← List.append_assoc,
      ih _ fun d member => separators d (by simp [member]), lastFolder_eq, partsOf_append, nothing,
      List.append_nil, lastFolder_eq]

theorem lastFolder_of_part {lead folder : Text} (full : folder ≠ []) (flat : pathSeparator ∉ folder)
    (opens : ∀ c ∈ lead.getLast?, c = pathSeparator) : lastFolder (lead ++ folder) = folder := by
  have alone : partsOf folder = [folder] := (partsOf_eq_singleton full).2 flat
  cases lead using List.reverseRec with
  | nil => rw [List.nil_append, lastFolder_eq, alone]; rfl
  | append_singleton lead c =>
    obtain rfl := opens c (by simp)
    rw [List.append_assoc, List.singleton_append, lastFolder_eq, partsOf_append, alone]
    simp [List.getLastD_eq_getLast?]

theorem exists_lastPart (location : Text) :
    (∀ c ∈ location, c = pathSeparator) ∨ ∃ folder, IsLastPart location folder := by
  induction location using List.reverseRec with
  | nil => exact Or.inl (by simp)
  | append_singleton front c ih =>
    by_cases separator : c = pathSeparator
    · have more {t : Text} (only : ∀ d ∈ t, d = pathSeparator) :
          ∀ d ∈ t ++ [c], d = pathSeparator := by
        simpa [or_imp, forall_and, separator] using only
      rcases ih with only | ⟨folder, full, flat, lead, tail, rfl, opens, separators⟩
      · exact Or.inl (more only)
      · exact Or.inr ⟨folder, full, flat, lead, tail ++ [c], by simp, opens, more separators⟩
    · right
      cases found : Text.splitLast? pathSeparator (front ++ [c]) with
      | none =>
        have flat := Text.splitLast?_eq_none.1 found
        exact ⟨front ++ [c], by simp, flat, [], [], by simp, by simp, by simp⟩
      | some cut =>
        obtain ⟨before, after⟩ := cut
        obtain ⟨text, flat⟩ := Text.splitLast?_some found
        have full : after ≠ [] := by
          rintro rfl
          have last : [c] = [pathSeparator] := (List.append_inj' text rfl).2
          exact separator (List.head_eq_of_cons_eq last)
        exact ⟨after, full, flat, before ++ [pathSeparator], [], by simp [text], by simp, by simp⟩

theorem lastFolder_iff {location folder : Text} (full : folder ≠ []) :
    lastFolder location = folder ↔ IsLastPart location folder := by
  have unique {found : Text} (last : IsLastPart location found) : lastFolder location = found := by
    obtain ⟨nonempty, flat, lead, tail, rfl, opens, separators⟩ := last
    rw [lastFolder_append_separators _ separators, lastFolder_of_part nonempty flat opens]
  constructor
  · rintro rfl
    rcases exists_lastPart location with only | ⟨found, last⟩
    · have nothing := lastFolder_append_separators [] only
      exact absurd nothing full
    · rwa [unique last]
  · exact unique

def seasonWords : List Text := ["season".toList, "series".toList]

def isGap (c : Char) : Bool := c == ' ' || c == '.' || c == '_' || c == '-'

/-- The text is a word for seasons, a gap, this sign and digits of this value. -/
def SpellsSeason (sign t : Text) (n : Nat) : Prop :=
  ∃ word gap digits, t = word ++ gap ++ sign ++ digits ∧
    (∃ lead ∈ seasonWords, Text.isWord lead word = true) ∧ (∀ c ∈ gap, isGap c = true) ∧
      digits ≠ [] ∧ (∀ c ∈ digits, c.isDigit = true) ∧ digits.decimalValue = n ∧ n ≤ wordLimit

def NamesSeason (sign location : Text) (n : Nat) : Prop :=
  ∃ folder, IsLastPart location folder ∧ SpellsSeason sign folder.trim n

theorem readNumber?_eq_some {limit n : Nat} {t : Text} : t.readNumber? limit = some n ↔
    ∃ sign digits, (sign = [] ∨ sign = ['+']) ∧ t = sign ++ digits ∧ digits ≠ [] ∧
      (∀ c ∈ digits, c.isDigit = true) ∧ digits.decimalValue = n ∧ n ≤ limit := by
  constructor
  · intro read
    have signed : ∃ sign, (sign = [] ∨ sign = ['+']) ∧ t = sign ++ t.withoutPlus := by
      unfold Text.withoutPlus
      split
      · exact ⟨['+'], Or.inr rfl, rfl⟩
      · exact ⟨[], Or.inl rfl, rfl⟩
    obtain ⟨sign, plus, text⟩ := signed
    simp only [Text.readNumber?, Option.ite_none_right_eq_some, Option.some.injEq] at read
    obtain ⟨⟨full, digits, small⟩, rfl⟩ := read
    exact ⟨sign, t.withoutPlus, plus, text, full, List.all_eq_true.1 digits, rfl, small⟩
  · rintro ⟨sign, digits, plus, rfl, full, all, rfl, small⟩
    have read := readNumber?_of_digits all full small
    rcases plus with rfl | rfl
    · exact read
    · simp [Text.readNumber?, Text.withoutPlus, full, small, List.all_eq_true.2 all]

theorem afterSeasonWord {t rest : Text} :
    (Text.afterLead? "season".toList t).or (Text.afterLead? "series".toList t) = some rest ↔
      ∃ lead ∈ seasonWords, t = lead ++ rest := by
  have other : ∀ found, t = "season".toList ++ found → t ≠ "series".toList ++ rest := by
    rintro found rfl same
    simp at same
  simp only [Option.or_eq_some_iff, Text.afterLead?_eq_some, Option.eq_none_iff_forall_ne_some,
    seasonWords, List.mem_cons, List.not_mem_nil, or_false, exists_eq_or_imp, exists_eq_left]
  constructor
  · rintro (season | ⟨-, series⟩)
    · exact Or.inl season
    · exact Or.inr series
  · rintro (season | series)
    · exact Or.inl season
    · exact Or.inr ⟨fun found here =>
        other found (Text.afterLead?_eq_some.1 here) series, series⟩

theorem caseless_of_isGap {c : Char} (gap : isGap c = true) : Caseless c := by
  simp only [isGap, Bool.or_eq_true, beq_iff_eq] at gap
  rcases gap with ((rfl | rfl) | rfl) | rfl <;> decide

theorem caseless_numbered {gap sign digits : Text} (plus : sign = [] ∨ sign = ['+'])
    (gaps : ∀ c ∈ gap, isGap c = true) (all : ∀ c ∈ digits, c.isDigit = true) :
    ∀ c ∈ gap ++ sign ++ digits, Caseless c := by
  intro c member
  rw [List.mem_append, List.mem_append] at member
  rcases member with (here | signed) | digit
  · exact caseless_of_isGap (gaps c here)
  · rcases plus with rfl | rfl
    · simp at signed
    · obtain rfl := List.mem_singleton.1 signed
      decide
  · exact caseless_of_isDigit (all c digit)

theorem isGap_of_isDigit {c : Char} (digit : c.isDigit = true) : isGap c = false := by
  have other := ascii_forall (p := fun c => !c.isDigit || !isGap c) (by decide)
    (toNat_lt_of_isDigit digit)
  simpa [digit] using other

theorem latin_of_seasonWord {lead : Text} (listed : lead ∈ seasonWords) : Text.Latin lead := by
  simp only [seasonWords, List.mem_cons, List.not_mem_nil, or_false] at listed
  rcases listed with rfl | rfl <;> exact ⟨by decide, by decide⟩

theorem isAlpha_of_seasonWord {lead word : Text} (listed : lead ∈ seasonWords)
    (spelled : Text.isWord lead word = true) : ∀ c ∈ word, c.isAlpha = true := by
  intro c member
  have letters : ∀ l ∈ lead, l.isLower = true := by
    simp only [seasonWords, List.mem_cons, List.not_mem_nil, or_false] at listed
    rcases listed with rfl | rfl <;> decide
  have image : c.toLower ∈ lead := by
    rw [← beq_iff_eq.1 spelled]
    exact List.mem_map_of_mem member
  exact isAlpha_of_toLower (letters _ image)

theorem spellsSeason_of_read {t lead rest : Text} {n : Nat} (listed : lead ∈ seasonWords)
    (text : t.lowercase = lead ++ rest)
    (read : Text.readNumber? wordLimit (rest.dropWhile isGap) = some n) :
    ∃ sign, (sign = [] ∨ sign = ['+']) ∧ SpellsSeason sign t n := by
  obtain ⟨sign, digits, plus, behind, full, all, value, small⟩ := readNumber?_eq_some.1 read
  obtain ⟨word, after, rfl, spelled, earlier, image⟩ :=
    Text.lowercaseAfter_lead (latin_of_seasonWord listed) text
  have whole : rest = rest.takeWhile isGap ++ sign ++ digits := by
    rw [List.append_assoc, ← behind, List.takeWhile_append_dropWhile]
  have gaps : ∀ c ∈ rest.takeWhile isGap, isGap c = true := fun c => List.mem_takeWhile_imp
  have caseless : ∀ d ∈ rest, Caseless d := by
    rw [whole]
    exact caseless_numbered plus gaps all
  -- Nothing of what follows the word was in another case.
  have kept : rest = after := by
    rw [image] at caseless ⊢
    exact Text.lowercaseAfter_eq_self caseless
  refine ⟨sign, plus, word, rest.takeWhile isGap, digits, ?_, ⟨lead, listed, spelled⟩, gaps,
    full, all, value, small⟩
  rw [← kept, List.append_assoc, List.append_assoc, ← List.append_assoc _ sign, ← whole]

theorem read_of_spellsSeason {sign t : Text} {n : Nat} (plus : sign = [] ∨ sign = ['+'])
    (spells : SpellsSeason sign t n) : ∃ lead ∈ seasonWords, ∃ rest, t.lowercase = lead ++ rest ∧
      Text.readNumber? wordLimit (rest.dropWhile isGap) = some n := by
  obtain ⟨word, gap, digits, rfl, ⟨lead, listed, spelled⟩, gaps, full, all, value, small⟩ := spells
  have letters := isAlpha_of_seasonWord listed spelled
  have caseless : ∀ c ∈ gap ++ (sign ++ digits), Caseless c := by
    rw [← List.append_assoc]
    exact caseless_numbered plus gaps all
  have low : ∀ c ∈ word ++ (gap ++ (sign ++ digits)), c.toNat < 128 := by
    intro c member
    rcases List.mem_append.1 member with letter | here
    · exact toNat_lt_of_isAlpha (letters c letter)
    · exact (caseless c here).low
  have same : (gap ++ (sign ++ digits)).map Char.toLower = gap ++ (sign ++ digits) :=
    (List.map_congr_left fun c member => (caseless c member).toLower).trans (List.map_id' _)
  have stops : (sign ++ digits).dropWhile isGap = sign ++ digits := by
    rcases plus with rfl | rfl
    · obtain ⟨d, digits, rfl⟩ := List.exists_cons_of_ne_nil full
      exact List.dropWhile_cons_of_neg (by simp [isGap_of_isDigit (all d (by simp))])
    · exact List.dropWhile_cons_of_neg (by decide)
  refine ⟨lead, listed, gap ++ (sign ++ digits), ?_, ?_⟩
  · rw [List.append_assoc, List.append_assoc, lowercase_of_ascii low, List.map_append, same,
      beq_iff_eq.1 spelled]
  · rw [List.dropWhile_append_of_pos gaps, stops]
    exact readNumber?_eq_some.2 ⟨sign, digits, plus, rfl, full, all, value, small⟩

theorem folderSeason_eq (location : Text) : folderSeason location =
    (((Text.afterLead? "season".toList (lastFolder location).trim.lowercase).or
      (Text.afterLead? "series".toList (lastFolder location).trim.lowercase)).bind fun rest =>
        Text.readNumber? wordLimit (rest.dropWhile isGap)).getD 0 := by
  simp only [folderSeason]
  split
  · rename_i unfound
    rw [unfound]
    rfl
  · rename_i rest found
    rw [found]
    rfl

theorem folderSeason_iff {location : Text} {n : Nat} (positive : 0 < n) :
    folderSeason location = n ↔
      ∃ sign, (sign = [] ∨ sign = ['+']) ∧ SpellsSeason sign (lastFolder location).trim n := by
  have shown (number : Option Nat) : number.getD 0 = n ↔ number = some n := by
    cases number with
    | none => simp; omega
    | some m => simp
  rw [folderSeason_eq, shown, Option.bind_eq_some_iff]
  constructor
  · rintro ⟨rest, found, read⟩
    obtain ⟨lead, listed, text⟩ := afterSeasonWord.1 found
    exact spellsSeason_of_read listed text read
  · rintro ⟨sign, plus, spells⟩
    obtain ⟨lead, listed, rest, text, read⟩ := read_of_spellsSeason plus spells
    exact ⟨rest, afterSeasonWord.2 ⟨lead, listed, text⟩, read⟩

theorem namesSeason_iff {sign location : Text} {n : Nat} :
    NamesSeason sign location n ↔ SpellsSeason sign (lastFolder location).trim n := by
  constructor
  · rintro ⟨folder, last, spells⟩
    rwa [(lastFolder_iff last.full).2 last]
  · intro spells
    have full : lastFolder location ≠ [] := by
      intro empty
      obtain ⟨word, gap, digits, text, -, -, nonempty, -⟩ := spells
      rw [empty] at text
      have nothing : [] = word ++ gap ++ sign ++ digits := text
      simp [nonempty] at nothing
    exact ⟨lastFolder location, (lastFolder_iff full).1 rfl, spells⟩

theorem plus_mem_of_spells {sign t : Text} {n : Nat} (spells : SpellsSeason sign t n) :
    '+' ∈ t ↔ '+' ∈ sign := by
  obtain ⟨word, gap, digits, rfl, ⟨lead, listed, spelled⟩, gaps, -, all, -⟩ := spells
  have word_free : '+' ∉ word := fun inside =>
    absurd (isAlpha_of_seasonWord listed spelled '+' inside) (by decide)
  have gap_free : '+' ∉ gap := fun inside => absurd (gaps '+' inside) (by decide)
  have digits_free : '+' ∉ digits := fun inside => absurd (all '+' inside) (by decide)
  simp [word_free, gap_free, digits_free]

/-- An episode without a season in its name has the season that its folder names, without or with a
    plus sign, and the season 0 if it names none. The unsigned ones are all seasons there are exactly
    unless the number has a plus sign in front of it. -/
theorem folder_season_iff {e : Episode} (unnamed : e.seasonInName = none) :
    (∀ n, 0 < n → (e.season = n ↔
      NamesSeason [] e.media.location n ∨ NamesSeason ['+'] e.media.location n)) ∧
    (e.season = 0 ↔ ∀ n, 0 < n →
      ¬ (NamesSeason [] e.media.location n ∨ NamesSeason ['+'] e.media.location n)) ∧
    ((∀ n, 0 < n → (e.season = n ↔ NamesSeason [] e.media.location n)) ↔
      ∀ n, 0 < n → ¬ NamesSeason ['+'] e.media.location n) := by
  have folder : e.season = folderSeason e.media.location := by simp [Episode.season, unnamed]
  have reads : ∀ n, 0 < n → (e.season = n ↔
      NamesSeason [] e.media.location n ∨ NamesSeason ['+'] e.media.location n) := by
    intro n positive
    rw [folder, folderSeason_iff positive, namesSeason_iff, namesSeason_iff]
    simp only [or_and_right, exists_or, exists_eq_left]
  refine ⟨reads, ?_, ?_⟩
  · constructor
    · intro zero n positive named
      have season := (reads n positive).2 named
      omega
    · intro unspelled
      by_contra season
      have positive := Nat.pos_of_ne_zero season
      exact unspelled _ positive ((reads _ positive).1 rfl)
  · constructor
    · intro exact n positive signed
      have unsigned := (exact n positive).1 ((reads n positive).2 (Or.inr signed))
      rw [namesSeason_iff] at signed unsigned
      have plus : '+' ∈ (lastFolder e.media.location).trim := (plus_mem_of_spells signed).2 (by simp)
      have missing := (plus_mem_of_spells unsigned).1 plus
      simp at missing
    · intro unsigned n positive
      rw [reads n positive]
      simp [unsigned n positive]

theorem folder_season_series :
    ∃ e, ({} : Renamer).parseEpisode "/tv/SERIES._ 02 //Show.E05.mkv".toList = .ok e ∧
      e.seasonInName = none ∧ NamesSeason [] e.media.location 2 ∧ e.season = 2 := by
  have evaluated :
      ∃ e ∈ (({} : Renamer).parseEpisode "/tv/SERIES._ 02 //Show.E05.mkv".toList).toOption,
        e.seasonInName = none ∧ e.media.location = "/tv/SERIES._ 02 /".toList := by
    decide +kernel
  obtain ⟨e, told, unnamed, location⟩ := evaluated
  have last : IsLastPart e.media.location "SERIES._ 02 ".toList :=
    ⟨by decide, by decide, "/tv/".toList, "/".toList, location, by decide, by decide⟩
  have named : NamesSeason [] e.media.location 2 :=
    ⟨_, last, "SERIES".toList, "._ ".toList, "02".toList, by decide +kernel,
      ⟨"series".toList, by decide, by decide⟩, by decide, by decide, by decide, by decide, by decide⟩
  obtain ⟨reads, -, -⟩ := folder_season_iff unnamed
  exact ⟨e, mem_toOption.1 told, unnamed, named, (reads 2 (by decide)).2 (Or.inl named)⟩

theorem signed_folder_season :
    ∃ e, ({} : Renamer).parseEpisode "/tv/Season +3/Show.E05.mkv".toList = .ok e ∧
      e.seasonInName = none ∧ e.season = 3 ∧ ∀ n, ¬ NamesSeason [] e.media.location n := by
  have evaluated :
      ∃ e ∈ (({} : Renamer).parseEpisode "/tv/Season +3/Show.E05.mkv".toList).toOption,
        e.seasonInName = none ∧ e.season = 3 ∧ '+' ∈ (lastFolder e.media.location).trim := by
    decide +kernel
  obtain ⟨e, told, unnamed, season, plus⟩ := evaluated
  refine ⟨e, mem_toOption.1 told, unnamed, season, fun n named => ?_⟩
  have signed := (plus_mem_of_spells (namesSeason_iff.1 named)).1 plus
  simp at signed

end MediaNaming
