import MediaNaming.Proofs.Sector.Inert
import MediaNaming.Proofs.Sector.Idempotence
import MediaNaming.Proofs.Sector.Shapes
import MediaNaming.Proofs.Episode.Scanning

/-
The fragments of release names: plain words, numbers and the marks of season and episode. Each
of them is inert, and of these only a number can tell a year.
-/
namespace MediaNaming

/-- Two letters or more that are neither a tag nor the name of a part. -/
structure PlainWord (w : Text) : Prop where
  letters : ∀ c ∈ w, c.isAlpha = true
  several : 2 ≤ w.length
  untagged : w.map Char.toLower ∉ Lexicon.episodes.tags
  unmarked : w.map Char.toLower ∉ PartMarker.words

instance (w : Text) : Decidable (PlainWord w) :=
  decidable_of_iff ((∀ c ∈ w, c.isAlpha = true) ∧ 2 ≤ w.length ∧
      w.map Char.toLower ∉ Lexicon.episodes.tags ∧ w.map Char.toLower ∉ PartMarker.words)
    ⟨fun ⟨letters, several, untagged, unmarked⟩ => ⟨letters, several, untagged, unmarked⟩,
      fun plain => ⟨plain.letters, plain.several, plain.untagged, plain.unmarked⟩⟩

theorem afterWord?_lower {word t rest : Text} (low : ∀ c ∈ t, c.toNat < 128)
    (letters : ∀ l ∈ word, l ∈ markerLetters) (found : Text.afterWord? word t = some rest) :
    t.map Char.toLower = word ++ rest.map Char.toLower := by
  induction word generalizing t with
  | nil =>
    obtain rfl : t = rest := by simpa [Text.afterWord?] using found
    rfl
  | cons l word ih =>
    cases t with
    | nil => simp [Text.afterWord?] at found
    | cons c t =>
      simp only [Text.afterWord?] at found
      split at found
      · rename_i letter
        have same := ascii_forall
          (p := fun c => markerLetters.all fun l => !isLetter l c || c.toLower == l)
          (by decide) (low c (by simp))
        have here := List.all_eq_true.1 same l (letters l (by simp))
        simp only [letter, Bool.not_true, Bool.false_or, beq_iff_eq] at here
        rw [List.map_cons, here,
          ih (fun d member => low d (by simp [member]))
            (fun m inside => letters m (by simp [inside])) found]
        rfl
      · simp at found

theorem ofSector?_bare {t : Text} (low : ∀ c ∈ t, c.toNat < 128)
    (bare : PartMarker.ofSector? t = some .bare) : t.map Char.toLower ∈ PartMarker.words := by
  simp only [PartMarker.ofSector?] at bare
  split at bare
  · simp at bare
  · rename_i found
    obtain ⟨word, member, whole⟩ := List.exists_of_findSome?_eq_some found
    have same := afterWord?_lower low (partMarker_letters word member) whole
    rwa [same, List.map_nil, List.append_nil]
  · split at bare <;> simp at bare

theorem ofSector?_of_unmarked {t : Text} (low : ∀ c ∈ t, c.toNat < 128)
    (other : ∀ word ∈ PartMarker.words, ¬ word <+: t.map Char.toLower) :
    PartMarker.ofSector? t = none := by
  have unread : PartMarker.words.findSome? (fun word => Text.afterWord? word t) = none := by
    rw [List.findSome?_eq_none_iff]
    intro word member
    by_contra found
    obtain ⟨rest, here⟩ := Option.ne_none_iff_exists'.1 found
    have same := afterWord?_lower low (partMarker_letters word member) here
    exact other word member (same ▸ List.prefix_append word _)
  simp only [PartMarker.ofSector?, unread]

theorem ofSector?_of_head {c : Char} (t : Text)
    (other : isLetter 'p' c = false ∧ isLetter 'c' c = false ∧ isLetter 'd' c = false) :
    PartMarker.ofSector? (c :: t) = none := by
  simp [PartMarker.ofSector?, PartMarker.words, Text.afterWord?, other]

theorem isTag_of_lead {lead : Text} (rest : Text) (unhyphened : '-' ∉ lead)
    (other : ∀ tag ∈ Lexicon.episodes.tags, ¬ lead <+: tag) :
    Lexicon.episodes.isTag (lead ++ rest) = false := by
  have listed (t : Text) : lead ++ t ∉ Lexicon.episodes.tags :=
    fun member => other _ member (List.prefix_append lead t)
  simp only [Lexicon.isTag, Text.splitFirst?_append rest unhyphened]
  cases rest.splitFirst? '-' with
  | none => simp [listed]
  | some p => simp [listed]

theorem isTag_of_unhyphened {t : Text} (unhyphened : '-' ∉ t) (listed : t ∉ Lexicon.episodes.tags) :
    Lexicon.episodes.isTag t = false := by
  simp [Lexicon.isTag, Text.splitFirst?_eq_none unhyphened, listed]

theorem yearOf?_of_letter {t : Text} (letters : ∀ c ∈ t, isNameLetter c = true)
    (letter : ∃ c ∈ t, c.isAlpha = true) : yearOf? t.capitalize = none := by
  obtain ⟨capitals, same⟩ := capitalize_nameLetters letters
  obtain ⟨c, member, alpha⟩ := letter
  cases found : yearOf? t.capitalize with
  | none => rfl
  | some year =>
    have digit := (year?_digits found).2 c.toLower (by
      rw [(judged_nameLetters capitals).1, same]
      exact List.mem_map_of_mem member)
    have no_digit := ascii_forall (p := fun c => !c.isAlpha || !c.toLower.isDigit)
      (by decide) (toNat_lt_of_isAlpha alpha)
    simp [alpha, digit] at no_digit

theorem map_toLower_of_digits {t : Text} (digits : ∀ c ∈ t, c.isDigit = true) :
    t.map Char.toLower = t := by
  conv => rhs; rw [← List.map_id t]
  apply List.map_congr_left
  intro c member
  exact toLower_of_decimal (isDecimal_of_isDigit (digits c member))

theorem ofNumber_digits (n : Nat) : ∀ c ∈ Text.ofNumber n, c.isDigit = true :=
  fun _ member => Nat.isDigit_of_mem_toDigits (by decide) (by decide) member

theorem decimalValue_ofNumber (n : Nat) : Text.decimalValue (Text.ofNumber n) = n :=
  Nat.ofDigitChars_toDigits (by decide) (by decide)

theorem ofPadded_digits (n : Nat) : ∀ c ∈ Text.ofPadded n, c.isDigit = true := by
  intro c member
  rw [Text.ofPadded] at member
  split at member
  · rcases List.mem_cons.1 member with rfl | digit
    · rfl
    · exact ofNumber_digits n c digit
  · exact ofNumber_digits n c member

theorem year?_ofNumber {y : Nat} (recent : 1900 ≤ y ∧ y ≤ 2099) :
    (Text.ofNumber y).length = 4 ∧ year? (Text.ofNumber y) = some (y : Int) := by
  have all : ∀ n ∈ List.range 200, (Text.ofNumber (1900 + n)).length = 4 ∧
      year? (Text.ofNumber (1900 + n)) = some ((1900 + n : Nat) : Int) := by decide +kernel
  have here := all (y - 1900) (List.mem_range.2 (by omega))
  rwa [show 1900 + (y - 1900) = y by omega] at here

theorem letterless_of_isDigit {c : Char} (digit : c.isDigit = true) :
    isLetter 'p' c = false ∧ isLetter 'c' c = false ∧ isLetter 'd' c = false := by
  have other := ascii_forall
    (p := fun c => !c.isDigit || !(isLetter 'p' c || isLetter 'c' c || isLetter 'd' c))
    (by decide) (toNat_lt_of_isDigit digit)
  simpa [digit, and_assoc] using other

theorem isLoneCapital_of_several {t : Text} (several : 2 ≤ t.length) : isLoneCapital t = false := by
  match t with
  | _ :: _ :: _ => rfl

theorem inert_of_digits {t : Text} (nonempty : t ≠ []) (digits : ∀ c ∈ t, c.isDigit = true) :
    Inert t := by
  have decimal : ∀ c ∈ t, isDecimal c = true :=
    fun c member => isDecimal_of_isDigit (digits c member)
  have same := capitalize_of_decimal decimal
  have unhyphened : '-' ∉ t := fun member => by simpa using digits '-' member
  have untagged : t ∉ Lexicon.episodes.tags := by
    intro member
    have none : ∀ tag ∈ Lexicon.episodes.tags, tag.all Char.isDigit = false := by decide
    have mixed := none t member
    rw [List.all_eq_true.2 digits] at mixed
    contradiction
  obtain ⟨c, u, rfl⟩ := List.exists_cons_of_ne_nil nonempty
  have unmarked := ofSector?_of_head u (letterless_of_isDigit (digits c (by simp)))
  refine ⟨⟨nonempty, splitNumbered?_of_decimal decimal, ?_⟩, ?_, ?_, ?_⟩
  · simp [same, unmarked]
  · simp [same, unmarked]
  · rw [same]
    by_contra lone
    obtain ⟨d, one, capital⟩ := isLoneCapital_iff.1 (by simpa using lone)
    have digit := decimal d (by simp [one])
    rw [isDecimal_of_uppercase capital] at digit
    contradiction
  · apply isJunk_nameLetters fun c member => isNameLetter_of_isDigit (digits c member)
    rw [map_toLower_of_digits digits]
    exact isTag_of_unhyphened unhyphened untagged

theorem inert_of_letters {t : Text} (letters : ∀ c ∈ t, c.isAlpha = true) (several : 2 ≤ t.length)
    (untagged : t.map Char.toLower ∉ Lexicon.episodes.tags)
    (unmarked : t.map Char.toLower ∉ PartMarker.words) : Inert t := by
  have names : ∀ c ∈ t, isNameLetter c = true :=
    fun c member => isNameLetter_of_isAlpha (letters c member)
  have low : ∀ c ∈ t, c.toNat < 128 := fun c member => toNat_lt_of_isAlpha (letters c member)
  obtain ⟨capitals, same⟩ := capitalize_nameLetters names
  have nonempty : t ≠ [] := by
    rintro rfl
    simp at several
  refine ⟨whole_of_letters nonempty letters, ?_, ?_, ?_⟩
  · intro bare
    apply unmarked
    rw [← same]
    exact ofSector?_bare (fun c member => toNat_lt_of_isNameLetter (capitals c member)) bare
  · exact isLoneCapital_of_several (by rwa [length_capitalize low])
  · apply isJunk_nameLetters names
    refine isTag_of_unhyphened ?_ untagged
    intro member
    obtain ⟨c, inside, hyphen⟩ := List.mem_map.1 member
    have other := ascii_forall (p := fun c => !c.isAlpha || c.toLower != '-') (by decide)
      (low c inside)
    simp [letters c inside, hyphen] at other

theorem PlainWord.inert {w : Text} (plain : PlainWord w) : Inert w :=
  inert_of_letters plain.letters plain.several plain.untagged plain.unmarked

theorem PlainWord.ne_nil {w : Text} (plain : PlainWord w) : w ≠ [] := plain.inert.nonempty

theorem plainWord_of_isWord {word t : Text} (here : Text.isWord word t = true)
    (known : word = "season".toList ∨ word = "episode".toList) : PlainWord t := by
  have same : t.map Char.toLower = word := by simpa [Text.isWord] using here
  refine ⟨?_, ?_, ?_, ?_⟩
  · intro c member
    apply isAlpha_of_toLower
    have inside : c.toLower ∈ word := same ▸ List.mem_map_of_mem member
    rcases known with rfl | rfl
    · have all : ∀ d ∈ "season".toList, d.isLower = true := by decide
      exact all _ inside
    · have all : ∀ d ∈ "episode".toList, d.isLower = true := by decide
      exact all _ inside
  · rw [← List.length_map (f := Char.toLower), same]
    rcases known with rfl | rfl <;> decide
  · rw [same]
    rcases known with rfl | rfl <;> decide
  · rw [same]
    rcases known with rfl | rfl <;> decide

theorem inert_of_mark {lead rest : Text} (names : ∀ c ∈ lead ++ rest, isNameLetter c = true)
    (several : 2 ≤ lead.length) (unhyphened : '-' ∉ lead.map Char.toLower)
    (other : ∀ tag ∈ Lexicon.episodes.tags, ¬ lead.map Char.toLower <+: tag)
    (unsplit : splitNumbered? (lead ++ rest) = none)
    (unmarked : PartMarker.ofSector? (lead ++ rest).capitalize = none) : Inert (lead ++ rest) := by
  have nonempty : lead ++ rest ≠ [] := by
    intro empty
    simp [(List.append_eq_nil_iff.1 empty).1] at several
  refine ⟨⟨nonempty, unsplit, by simp [unmarked]⟩, by simp [unmarked], ?_, ?_⟩
  · apply isLoneCapital_of_several
    rw [length_capitalize fun c member => toNat_lt_of_isNameLetter (names c member),
      List.length_append]
    omega
  · apply isJunk_nameLetters names
    rw [List.map_append]
    exact isTag_of_lead _ unhyphened other

theorem rangeText_nameLetters {last : Option Text} (short : ∀ t ∈ last, ShortDigits t) :
    ∀ c ∈ rangeText last, isNameLetter c = true := by
  intro c member
  rcases rangeText_mem short c member with rfl | digit
  · decide
  · exact isNameLetter_of_isDigit digit

theorem letters_nameLetters {s e : Char} {season first : Text} {last : Option Text}
    (letterS : s = 's' ∨ s = 'S') (letterE : e = 'e' ∨ e = 'E') (short : ShortDigits season)
    (shortFirst : ShortDigits first) (shortLast : ∀ t ∈ last, ShortDigits t) :
    ∀ c ∈ lettersText s e season first last, isNameLetter c = true := by
  intro c member
  simp only [lettersText, List.mem_cons, List.mem_append] at member
  rcases member with rfl | digit | rfl | digit | range
  · rcases letterS with rfl | rfl <;> decide
  · exact isNameLetter_of_isDigit (short.digits c digit)
  · rcases letterE with rfl | rfl <;> decide
  · exact isNameLetter_of_isDigit (shortFirst.digits c digit)
  · exact rangeText_nameLetters shortLast c range

theorem crossText_nameLetters {x : Char} {season first : Text} {last : Option Text}
    (cross : isCross x = true) (short : ShortDigits season) (shortFirst : ShortDigits first)
    (shortLast : ∀ t ∈ last, ShortDigits t) :
    ∀ c ∈ crossText x season first last, isNameLetter c = true := by
  intro c member
  simp only [crossText, List.mem_cons, List.mem_append] at member
  rcases member with digit | rfl | digit | range
  · exact isNameLetter_of_isDigit (short.digits c digit)
  · rcases isCross_iff.1 cross with rfl | rfl <;> decide
  · exact isNameLetter_of_isDigit (shortFirst.digits c digit)
  · exact rangeText_nameLetters shortLast c range

theorem inert_lettersText {s e : Char} {season first : Text} {last : Option Text}
    (letterS : s = 's' ∨ s = 'S') (letterE : e = 'e' ∨ e = 'E') (short : ShortDigits season)
    (shortFirst : ShortDigits first) (shortLast : ∀ t ∈ last, ShortDigits t) :
    Inert (lettersText s e season first last) := by
  have names := letters_nameLetters letterS letterE short shortFirst shortLast
  obtain ⟨d, digits, rfl⟩ := List.exists_cons_of_ne_nil short.nonempty
  have digit := short.digits d (by simp)
  have lower : [s, d].map Char.toLower = ['s', d] := by
    rw [List.map_cons, map_toLower_of_digits (by simpa using digit)]
    rcases letterS with rfl | rfl <;> rfl
  have apart : lettersText s e (d :: digits) first last =
      [s, d] ++ (digits ++ e :: (first ++ rangeText last)) := by simp [lettersText]
  rw [apart] at names ⊢
  apply inert_of_mark names (by simp)
  · rw [lower]
    intro member
    rcases List.mem_cons.1 member with no | member
    · revert no; decide
    · simp only [List.mem_singleton] at member
      rw [← member] at digit
      revert digit; decide
  · rw [lower]
    intro tag member lead
    have none : ∀ tag ∈ Lexicon.episodes.tags,
        (tag.head? == some 's' && tag.tail.head?.any Char.isDigit) = false := by
      decide
    obtain ⟨rest, rfl⟩ := lead
    have := none _ member
    simp [digit] at this
  · apply splitNumbered?_of_head
    rcases letterS with rfl | rfl <;> decide
  · have low : s.toNat < 128 := by rcases letterS with rfl | rfl <;> decide
    rw [List.cons_append, capitalize_of_ascii _ low]
    apply ofSector?_of_head
    rcases letterS with rfl | rfl <;> decide

theorem inert_crossText {x : Char} {season first : Text} {last : Option Text}
    (cross : isCross x = true) (short : ShortDigits season) (shortFirst : ShortDigits first)
    (shortLast : ∀ t ∈ last, ShortDigits t) : Inert (crossText x season first last) := by
  have names := crossText_nameLetters cross short shortFirst shortLast
  have lower : (season ++ [x]).map Char.toLower = season ++ ['x'] := by
    rw [List.map_append, map_toLower_of_digits short.digits]
    rcases isCross_iff.1 cross with rfl | rfl <;> rfl
  have apart : crossText x season first last = (season ++ [x]) ++ (first ++ rangeText last) := by
    simp [crossText]
  have undecimal : isDecimal x = false := by rcases isCross_iff.1 cross with rfl | rfl <;> decide
  rw [apart] at names ⊢
  obtain ⟨d, digits, text⟩ := List.exists_cons_of_ne_nil short.nonempty
  have digit := short.digits d (by simp [text])
  apply inert_of_mark names (by simp [text])
  · rw [lower]
    intro member
    rcases List.mem_append.1 member with inside | inside
    · simpa using short.digits '-' inside
    · revert inside; decide
  · rw [lower]
    intro tag member lead
    have none : ∀ tag ∈ Lexicon.episodes.tags,
        (tag.head?.any Char.isDigit && (tag.dropWhile Char.isDigit).head? == some 'x') = false := by
      decide
    obtain ⟨rest, rfl⟩ := lead
    have := none _ member
    rw [List.append_assoc, List.dropWhile_append_of_pos short.digits] at this
    simp [text, digit] at this
  · have digits := shortDigits_decimal short
    rw [List.append_assoc, List.singleton_append, splitNumbered?,
      List.takeWhile_append_of_pos digits, List.dropWhile_append_of_pos digits]
    simp only [List.takeWhile_cons, List.dropWhile_cons, undecimal, text]
    rcases isCross_iff.1 cross with rfl | rfl <;> simp
  · rw [text, List.cons_append, List.cons_append,
      Text.capitalize_cons_of_not_lowercase _ (isLowercase_of_decimal (isDecimal_of_isDigit digit))]
    exact ofSector?_of_head _ (letterless_of_isDigit digit)

end MediaNaming
