import MediaNaming.Proofs.Naming.Canonical
import MediaNaming.Proofs.Naming.Phrase

/-
Sectors that keep their neighbours apart: the hyphen, the numbering and the year in brackets of a
canonical name. Whatever stands on either side, neither refinement nor the scan joins the two.
-/
namespace MediaNaming

structure Separator (s : Text) : Prop extends Inert s where
  capitalized : s.capitalize = s
  unnumbered_word : NumberWord.ofSector? s = none
  unpaired : PairWord.ofSector? s = none
  unshort : shortNumber? s = none

theorem isChain_separated {R : Text → Text → Prop} {before after : List Text} {s : Text}
    (left : ∀ t, R t s) (right : ∀ t, R s t) (front : before.IsChain R) (back : after.IsChain R) :
    (before ++ s :: after).IsChain R := by
  rw [List.isChain_append, List.isChain_cons]
  refine ⟨front, ⟨fun t _ => right t, back⟩, ?_⟩
  intro t _ u head
  obtain rfl : s = u := by simpa using head
  exact left t

theorem Separator.settled {before after : List Text} {s : Text} (separator : Separator s)
    (front : Settled before) (back : Settled after) : Settled (before ++ s :: after) where
  whole := by
    intro t member
    simp only [List.mem_append, List.mem_cons] at member
    rcases member with earlier | rfl | later
    · exact front.whole t earlier
    · exact separator.toWhole
    · exact back.whole t later
  markers := isChain_separated (fun _ _ => separator.unnumbered_word)
    (fun _ bare => absurd bare separator.unmarked) front.markers back.markers
  capitals := isChain_separated (fun _ _ => separator.several)
    (fun _ lone => by rw [separator.several] at lone; contradiction) front.capitals back.capitals

theorem Separator.isChain_unpaired {before after : List Text} {s : Text} (separator : Separator s)
    (front : before.IsChain Unpaired) (back : after.IsChain Unpaired) :
    (before ++ s :: after).IsChain Unpaired :=
  isChain_separated (fun _ => Or.inr separator.unshort) (fun _ => Or.inl separator.unpaired)
    front back

theorem numberWord_of_mixed {t : Text} (low : ∀ c ∈ t, c.toNat < 128)
    (digit : ∃ c ∈ t, c.isDigit = true) (other : ∃ c ∈ t, c.isDigit = false) :
    NumberWord.ofSector? t = none := by
  obtain ⟨c, member, digit⟩ := digit
  obtain ⟨d, inside, undigit⟩ := other
  have mixed : t.all Char.isDigit = false := by
    rw [List.all_eq_false]
    exact ⟨d, inside, by simp [undigit]⟩
  have same : c.toLower = c := toLower_of_decimal (isDecimal_of_isDigit digit)
  have listed (words : List Text) (letters : ∀ w ∈ words, ∀ c ∈ w, c.isDigit = false) :
      words.idxOf? t.lowercase = none := by
    rw [List.idxOf?_eq_none_iff, lowercase_of_ascii low]
    intro among
    have none := letters _ among c.toLower (List.mem_map_of_mem member)
    rw [same, digit] at none
    contradiction
  simp [NumberWord.ofSector?, mixed, listed NumberWord.words (by decide),
    listed NumberWord.romans (by decide)]

theorem separator_hyphen : Separator hyphen where
  nonempty := by decide
  unsplit := by decide
  unnumbered := by
    have none : PartMarker.ofSector? (Text.capitalize hyphen) = none := by decide
    simp [none]
  unmarked := by decide
  several := by decide
  clean := by
    have clean := isJunk_nameLetters (t := hyphen) (by decide) (by decide)
    exact clean
  capitalized := by decide
  unnumbered_word := by decide
  unpaired := by decide
  unshort := by decide

theorem separator_crossText {season first : Text} {last : Option Text}
    (short : ShortDigits season) (shortFirst : ShortDigits first)
    (shortLast : ∀ t ∈ last, ShortDigits t) : Separator (crossText 'x' season first last) := by
  have names := crossText_nameLetters (x := 'x') (by decide) short shortFirst shortLast
  obtain ⟨c, more, text⟩ := List.exists_cons_of_ne_nil short.nonempty
  have digit := short.digits c (by simp [text])
  have mark : crossText 'x' season first last =
      c :: (more ++ 'x' :: (first ++ rangeText last)) := by
    simp [crossText, text]
  have inside : c ∈ crossText 'x' season first last := by simp [mark]
  have cross : 'x' ∈ crossText 'x' season first last := by simp [mark]
  refine ⟨inert_crossText (by decide) short shortFirst shortLast, ?_, ?_, ?_, ?_⟩
  · rw [mark]
    exact Text.capitalize_cons_of_not_lowercase _
      (isLowercase_of_decimal (isDecimal_of_isDigit digit))
  · exact numberWord_of_mixed (fun d member => toNat_lt_of_isNameLetter (names d member))
      ⟨c, inside, digit⟩ ⟨'x', cross, by decide⟩
  · exact ofSector?_of_decimal ⟨c, inside, isDecimal_of_isDigit digit⟩
  · exact shortNumber?_of_undecimal ⟨'x', cross, by decide⟩

theorem clean_ofNumber (n : Nat) : ∀ c ∈ Text.ofNumber n, isDelimiter c = false ∧ c ≠ pathSeparator :=
  fun c member => isDelimiter_of_isNameLetter (isNameLetter_of_isDigit (ofNumber_digits n c member))

def bracketedYear (y : Nat) : Text := '(' :: Text.ofNumber y ++ [')']

theorem mem_bracketedYear {y : Nat} {c : Char} (member : c ∈ bracketedYear y) :
    c = '(' ∨ c.isDigit = true ∨ c = ')' := by
  simp only [bracketedYear, List.cons_append, List.mem_cons, List.mem_append, List.not_mem_nil,
    or_false] at member
  exact member.imp_right (Or.imp_left (ofNumber_digits y c))

theorem bracketedYear_ascii (y : Nat) : ∀ c ∈ bracketedYear y, c.toNat < 128 := by
  intro c member
  rcases mem_bracketedYear member with rfl | digit | rfl
  · decide
  · exact toNat_lt_of_isDigit digit
  · decide

theorem withoutBrackets_bracketedYear (y : Nat) :
    withoutBrackets (bracketedYear y) = Text.ofNumber y := by
  have brackets : withoutBrackets (bracketedYear y) = withoutBrackets (Text.ofNumber y) := by
    rw [withoutBrackets, bracketedYear, List.cons_append, ← List.singleton_append,
      Text.trimEnds_append_left _ (by decide), Text.trimEnds_append_right _ (by decide)]
    rfl
  rw [brackets]
  exact withoutBrackets_nameLetters fun c member =>
    isNameLetter_of_isDigit (ofNumber_digits y c member)

theorem capitalize_bracketedYear (y : Nat) : (bracketedYear y).capitalize = bracketedYear y :=
  Text.capitalize_cons_of_not_lowercase _ (by decide)

theorem yearOf?_bracketedYear {y : Nat} (recent : 1900 ≤ y ∧ y ≤ 2099) :
    yearOf? (bracketedYear y) = some (y : Int) := by
  have same : (bracketedYear y).map Char.toLower = bracketedYear y := by
    simp [bracketedYear, map_toLower_of_digits (ofNumber_digits y)]
  rw [yearOf?, judged, lowercase_of_ascii (bracketedYear_ascii y), same,
    withoutBrackets_bracketedYear, (year?_ofNumber recent).2]

theorem separator_bracketedYear {y : Nat} (recent : 1900 ≤ y ∧ y ≤ 2099) :
    Separator (bracketedYear y) := by
  obtain ⟨c, more, text⟩ := List.exists_cons_of_ne_nil (Nat.toDigits_ne_nil (n := y) (b := 10))
  have inside : c ∈ bracketedYear y := by
    have : c ∈ Text.ofNumber y := by simp [Text.ofNumber, text]
    simp [bracketedYear, this]
  have bracket : '(' ∈ bracketedYear y := by simp [bracketedYear]
  have digit := ofNumber_digits y c (by simp [Text.ofNumber, text])
  have capital := capitalize_bracketedYear y
  have unmarked : PartMarker.ofSector? (bracketedYear y) = none :=
    ofSector?_of_head _ (by decide)
  refine ⟨⟨⟨?_, ?_, ?_⟩, ?_, ?_, ?_⟩, capital, ?_, ?_, ?_⟩
  · simp [bracketedYear]
  · exact splitNumbered?_of_head (by decide)
  · simp [capital, unmarked]
  · simp [capital, unmarked]
  · rw [capital]
    exact isLoneCapital_of_several (by simp [bracketedYear])
  · intro index
    rw [capital, Lexicon.isJunk, yearOf?_bracketedYear recent]
    rfl
  · exact numberWord_of_mixed (bracketedYear_ascii y) ⟨c, inside, digit⟩ ⟨'(', bracket, by decide⟩
  · exact ofSector?_of_decimal ⟨c, inside, isDecimal_of_isDigit digit⟩
  · exact shortNumber?_of_undecimal ⟨'(', bracket, by decide⟩

theorem quiet_bracketedYear (y : Nat) : Quiet (bracketedYear y) := by
  apply quiet_of_letterless
  intro c member
  rcases mem_bracketedYear member with rfl | digit | rfl
  · decide
  · have decimal := isDecimal_of_isDigit digit
    obtain ⟨season, episode⟩ := isLetter_of_decimal decimal
    exact ⟨season, episode, isCross_of_decimal decimal⟩
  · decide

namespace MediaFile

def yearSectors (m : MediaFile) : List Text :=
  if 0 < m.year then [bracketedYear m.year.toNat] else []

theorem yearPart_words (m : MediaFile) :
    (∀ c ∈ m.yearPart.head?, c = ' ') ∧ wordsOf m.yearPart = m.yearSectors := by
  rw [yearPart, yearSectors]
  split
  · have shown : [' ', '('] ++ Text.ofNumber m.year.toNat ++ [')'] =
        ' ' :: bracketedYear m.year.toNat := rfl
    rw [shown, wordsOf_cons_space]
    refine ⟨by simp, wordsOf_solid (by simp [bracketedYear]) ?_⟩
    intro c member
    rcases mem_bracketedYear member with rfl | digit | rfl
    · decide
    · exact (isDelimiter_of_isNameLetter (isNameLetter_of_isDigit digit)).1
    · decide
  · exact ⟨by simp, rfl⟩

theorem flat_yearPart (m : MediaFile) : pathSeparator ∉ m.yearPart := by
  rw [yearPart]
  split
  · intro inside
    have member : pathSeparator ∈ bracketedYear m.year.toNat := by
      simpa [bracketedYear, show pathSeparator ≠ ' ' by decide] using inside
    rcases mem_bracketedYear member with bracket | digit | bracket <;> contradiction
  · simp

end MediaFile
end MediaNaming
