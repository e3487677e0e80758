import MediaNaming.Proofs.Episode.Around

/-
Chains of episode marks behind one season letter. Every item is read once and in order: a hyphen
between two items begins no range, since a letter follows it, and the digits behind the hyphen of
a range belong to no item of their own.
-/
namespace MediaNaming

structure EpisodeItem where
  hyphened : Bool
  letter : Char
  first : Text
  last : Option Text
  marks : letter = 'e' ∨ letter = 'E'
  short : ShortDigits first
  shortLast : ∀ t ∈ last, ShortDigits t

namespace EpisodeItem

def joint (item : EpisodeItem) : Text := if item.hyphened then ['-'] else []

def text (item : EpisodeItem) : Text :=
  item.joint ++ item.letter :: (item.first ++ rangeText item.last)

def numbers (item : EpisodeItem) : List Nat := rangeNumbers item.first item.last

theorem mem_text {item : EpisodeItem} {c : Char} (member : c ∈ item.text) :
    c = item.letter ∨ c = '-' ∨ c.isDigit = true := by
  simp only [text, List.mem_append, List.mem_cons] at member
  rcases member with joint | letter | digit | range
  · unfold EpisodeItem.joint at joint
    split at joint
    · exact Or.inr (Or.inl (List.mem_singleton.1 joint))
    · simp at joint
  · exact Or.inl letter
  · exact Or.inr (Or.inr (item.short.digits c digit))
  · exact Or.inr (rangeText_mem item.shortLast c range)

/-- An item goes on no number, and its hyphen begins no range. -/
theorem endsMark (item : EpisodeItem) (rest : Text) : EndsMark (item.text ++ rest) := by
  have letter : isDecimal item.letter = false := by
    rcases item.marks with same | same <;> rw [same] <;> decide
  unfold EpisodeItem.text EpisodeItem.joint
  cases item.hyphened with
  | false =>
    refine ⟨by simpa using letter, ?_⟩
    rcases item.marks with same | same <;> rw [same] <;> rfl
  | true =>
    have bare : leadingDigits (item.letter :: (item.first ++ rangeText item.last) ++ rest) = [] :=
      leadingDigits_of_head (by simpa using letter)
    exact ⟨by simp; decide, by simpa [rangeEnd?] using bare⟩

theorem readWords_text (item : EpisodeItem) {rest : Text} (ends : EndsMark rest) :
    readWords episodeAt true (item.text ++ rest) =
      item.numbers ++ readWords episodeAt true rest := by
  have letter : isLetter 'e' item.letter = true := by
    rcases item.marks with same | same <;> rw [same] <;> decide
  have marked := readWords_mark letter item.short item.shortLast ends
  have hyphen (t : Text) : readWords episodeAt true ('-' :: t) = readWords episodeAt true t := by
    rw [readWords, if_pos rfl, episodeAt_of_letterless t (by decide), List.nil_append]
    rfl
  unfold EpisodeItem.text EpisodeItem.joint
  cases item.hyphened with
  | false => simpa [numbers] using marked
  | true => simpa [numbers, hyphen] using marked

end EpisodeItem

def chainText (s : Char) (season : Text) (items : List EpisodeItem) : Text :=
  s :: (season ++ items.flatMap EpisodeItem.text)

theorem endsMark_items (items : List EpisodeItem) : EndsMark (items.flatMap EpisodeItem.text) := by
  cases items with
  | nil => exact endsMark_nil
  | cons item items => exact item.endsMark _

theorem readWords_items (items : List EpisodeItem) :
    readWords episodeAt true (items.flatMap EpisodeItem.text) =
      items.flatMap EpisodeItem.numbers := by
  induction items with
  | nil => rfl
  | cons item items ih =>
    rw [List.flatMap_cons, item.readWords_text (endsMark_items items), ih, List.flatMap_cons]

variable {s : Char} {season : Text}

theorem seasonMarks_chainText (items : List EpisodeItem) (letter : s = 's' ∨ s = 'S')
    (short : ShortDigits season) :
    seasonMarks (chainText s season items) = [season.decimalValue] := by
  have opens : isLetter 's' s = true := by rcases letter with rfl | rfl <;> decide
  apply seasonMarks_cons opens short (endsMark_items items).undigit
  intro c member
  obtain ⟨item, -, inside⟩ := List.mem_flatMap.1 member
  rcases item.mem_text inside with rfl | other
  · rcases item.marks with same | same <;> rw [same] <;> decide
  · exact (isLetter_of_hyphen_or_digit other).1

theorem episodeMarks_chainText (items : List EpisodeItem) (letter : s = 's' ∨ s = 'S')
    (short : ShortDigits season) :
    episodeMarks (chainText s season items) = items.flatMap EpisodeItem.numbers := by
  have other : isLetter 'e' s = false := by rcases letter with rfl | rfl <;> decide
  rw [chainText, episodeMarks_cons _ other short, readWords_items]

theorem Scan.run_chain {input : Text} {done rest : List Text} (items : List EpisodeItem)
    (letter : s = 's' ∨ s = 'S') (short : ShortDigits season) :
    run input ⟨done, chainText s season items :: rest, {}⟩ =
      run input ⟨done ++ [chainText s season items], rest,
        evidenceAt done.length season.decimalValue (items.flatMap EpisodeItem.numbers)⟩ := by
  apply run_step (by simp)
  simp [step, seasonMarks_chainText items letter short, episodeMarks_chainText items letter short,
    Evidence.assertSeason, Evidence.addEpisodes, Evidence.cover, pass, evidenceAt, bind,
    Except.bind]

theorem extract_chain {items : List EpisodeItem} {before after : List Text}
    (letter : s = 's' ∨ s = 'S') (short : ShortDigits season) (some_item : items ≠ [])
    (undigit : ∀ t ∈ before ++ after, ∀ c ∈ t, isDecimal c = false) (year : Int) (input : Text) :
    ∃ parts, (extract (before ++ [chainText s season items] ++ after) year input).parts =
        .ok parts ∧
      parts.season = some season.decimalValue ∧
      parts.episodes = items.flatMap EpisodeItem.numbers ∧
      parts.block = some (before.length, before.length) := by
  have quiet : ∀ t ∈ before ++ after, Quiet t := fun t member =>
    quiet_of_no_digit (undigit t member)
  have mixed : shortNumber? (chainText s season items) = none := by
    apply shortNumber?_of_undecimal
    refine ⟨s, by simp [chainText], ?_⟩
    rcases letter with rfl | rfl <;> decide
  have front : (before ++ [chainText s season items].take 1).IsChain Unpaired := by
    apply isChain_unpaired
    intro t member
    rcases List.mem_append.1 member with earlier | here
    · exact shortNumber?_of_no_digit (undigit t (by simp [earlier]))
    · rw [List.mem_singleton.1 here, mixed]
  have back : after.IsChain Unpaired :=
    isChain_unpaired fun t member => shortNumber?_of_no_digit (undigit t (by simp [member]))
  have scans : (Scan.start (before ++ [chainText s season items] ++ after)).run input =
      (⟨before ++ [chainText s season items] ++ after, [], Scan.evidenceAt before.length
        season.decimalValue (items.flatMap EpisodeItem.numbers)⟩, none) :=
    Scan.run_around (fun index => Scan.evidenceAt index _ _) quiet front back
      (List.cons_ne_nil _ _) fun done rest => Scan.run_chain items letter short
  have named : items.flatMap EpisodeItem.numbers ≠ [] := by
    obtain ⟨item, more, rfl⟩ := List.exists_cons_of_ne_nil some_item
    simp [EpisodeItem.numbers, rangeNumbers]
  have reads := extract_of_evidence scans (complete_of_episodes named) year
  exact ⟨_, congrArg Extraction.parts reads, rfl, rfl, rfl⟩

def mixedItems : List EpisodeItem :=
  [⟨false, 'e', "3".toList, some "04".toList, by decide, by decide, by decide⟩,
    ⟨true, 'E', "5".toList, none, by decide, by decide, by decide⟩,
    ⟨false, 'E', "06".toList, some "8".toList, by decide, by decide, by decide⟩]

theorem extract_chain_mixed :
    chainText 's' "2".toList mixedItems = "s2e3-04-E5E06-8".toList ∧
    ∃ parts, (extract (["Show".toList, "Season".toList] ++
        [chainText 's' "2".toList mixedItems] ++ ["Episode".toList]) (-1) []).parts = .ok parts ∧
      parts.season = some 2 ∧ parts.episodes = [3, 4, 5, 6, 8] ∧ parts.block = some (2, 2) :=
  ⟨by decide, extract_chain (Or.inl rfl) (by decide) (by simp [mixedItems]) (by decide) _ _⟩

end MediaNaming
