import MediaNaming.Episode.Marks
import MediaNaming.Proofs.Text.Ascii
import Mathlib.Algebra.Group.Nat.Defs
import Mathlib.Data.List.Induction

/-
What the marks of single sectors read. A sector without digits, or with nothing but digits, is
quiet; the letters and the cross each give the season and the episodes written beside them.
-/
namespace MediaNaming

structure Quiet (sector : Text) : Prop where
  seasons : seasonMarks sector = []
  episodes : episodeMarks sector = []
  crosses : crossMarks sector = []

instance (s : Text) : Decidable (Quiet s) :=
  decidable_of_iff (seasonMarks s = [] ∧ episodeMarks s = [] ∧ crossMarks s = [])
    ⟨fun ⟨seasons, episodes, crosses⟩ => ⟨seasons, episodes, crosses⟩,
      fun quiet => ⟨quiet.seasons, quiet.episodes, quiet.crosses⟩⟩

structure ShortDigits (t : Text) : Prop where
  digits : ∀ c ∈ t, c.isDigit = true
  nonempty : t ≠ []
  short : t.length ≤ 2

instance (t : Text) : Decidable (ShortDigits t) :=
  decidable_of_iff ((∀ c ∈ t, c.isDigit = true) ∧ t ≠ [] ∧ t.length ≤ 2)
    ⟨fun ⟨digits, nonempty, short⟩ => ⟨digits, nonempty, short⟩,
      fun here => ⟨here.digits, here.nonempty, here.short⟩⟩

theorem isLetter_iff {letter c : Char} : isLetter letter c = true ↔
    c = letter ∨ c = letter.toUpper ∨ (letter = 's' ∧ c = 'ſ') ∨ (letter = 'k' ∧ c = '\u212a') := by
  simp [isLetter, or_assoc]

theorem isLetter_of_decimal {c : Char} (digit : isDecimal c = true) :
    isLetter 's' c = false ∧ isLetter 'e' c = false := by
  constructor <;> by_contra letter <;> rw [Bool.not_eq_false, isLetter_iff] at letter
  · rcases letter with rfl | rfl | ⟨_, rfl⟩ | ⟨no, _⟩
    · revert digit; decide
    · revert digit; decide
    · revert digit; decide
    · revert no; decide
  · rcases letter with rfl | rfl | ⟨no, _⟩ | ⟨no, _⟩
    · revert digit; decide
    · revert digit; decide
    · revert no; decide
    · revert no; decide

theorem isDecimal_of_isDigit {c : Char} (digit : c.isDigit = true) : isDecimal c = true := by
  rw [isDecimal_of_ascii (toNat_lt_of_isDigit digit), digit]

theorem isAlphabetic_of_isDigit {c : Char} (digit : c.isDigit = true) : isAlphabetic c = false := by
  have := ascii_forall (p := fun c => !c.isDigit || !isAlphabetic c) (by decide)
    (toNat_lt_of_isDigit digit)
  simpa [digit] using this

theorem utf8Size_of_isDigit {c : Char} (digit : c.isDigit = true) : c.utf8Size = 1 := by
  have := ascii_forall (p := fun c => c.utf8Size == 1) (by decide)
    (toNat_lt_of_isDigit digit)
  simpa using this

theorem byteSize_of_digits {t : Text} (digits : ∀ c ∈ t, c.isDigit = true) :
    t.byteSize = t.length := by
  induction t with
  | nil => rfl
  | cons c t ih =>
    simp only [Text.byteSize_cons, List.length_cons, utf8Size_of_isDigit (digits c (by simp)),
      ih fun d member => digits d (by simp [member])]
    omega

theorem leadingDigits_append {digits rest : Text} (all : ∀ c ∈ digits, isDecimal c = true)
    (ends : ∀ c ∈ rest.head?, isDecimal c = false) :
    leadingDigits (digits ++ rest) = digits ∧ afterDigits (digits ++ rest) = rest := by
  have stop : rest.takeWhile isDecimal = [] ∧ rest.dropWhile isDecimal = rest := by
    cases rest with
    | nil => exact ⟨rfl, rfl⟩
    | cons c rest => simp [ends c rfl]
  constructor
  · rw [leadingDigits, List.takeWhile_append_of_pos all, stop.1, List.append_nil]
  · rw [afterDigits, List.dropWhile_append_of_pos all, stop.2]

theorem leadingDigits_of_digits {t : Text} (all : ∀ c ∈ t, isDecimal c = true) :
    leadingDigits t = t ∧ afterDigits t = [] := by
  have whole := leadingDigits_append all (show ∀ c ∈ ([] : Text).head?, isDecimal c = false by simp)
  rwa [List.append_nil] at whole

theorem leadingDigits_of_head {t : Text} (undigit : ∀ c ∈ t.head?, isDecimal c = false) :
    leadingDigits t = [] := by
  cases t with
  | nil => rfl
  | cons c t => simp [leadingDigits, undigit c rfl]

theorem decimalValue_lt {digits : Text} (all : ∀ c ∈ digits, c.isDigit = true) :
    digits.decimalValue < 10 ^ digits.length := by
  induction digits using List.reverseRecOn with
  | nil => decide
  | append_singleton digits c ih =>
    have front := ih fun d member => all d (by simp [member])
    have last : c.toNat ≤ 57 := by
      have digit := all c (by simp)
      simp only [Char.isDigit, Bool.and_eq_true, decide_eq_true_eq] at digit
      exact digit.2
    simp only [Text.decimalValue, List.foldl_append, List.foldl_cons, List.foldl_nil,
      List.length_append, List.length_cons, List.length_nil, Nat.pow_succ] at front ⊢
    have zero : '0'.toNat = 48 := rfl
    omega

theorem readNumber?_of_digits {limit : Nat} {t : Text} (digits : ∀ c ∈ t, c.isDigit = true)
    (nonempty : t ≠ []) (small : t.decimalValue ≤ limit) :
    t.readNumber? limit = some t.decimalValue := by
  have plain : t.withoutPlus = t := by
    unfold Text.withoutPlus
    split
    · have := digits '+' (by simp)
      simp at this
    · rfl
  rw [Text.readNumber?, plain, if_pos ⟨nonempty, List.all_eq_true.2 digits, small⟩]

theorem shortDigits_decimal {t : Text} (short : ShortDigits t) : ∀ c ∈ t, isDecimal c = true :=
  fun c member => isDecimal_of_isDigit (short.digits c member)

theorem shortDigits_byteSize {t : Text} (short : ShortDigits t) : t.byteSize ≤ 2 := by
  rw [byteSize_of_digits short.digits]
  exact short.short

theorem shortDigits_lt {t : Text} (short : ShortDigits t) : t.decimalValue < 100 :=
  Nat.lt_of_lt_of_le (decimalValue_lt short.digits)
    (Nat.pow_le_pow_right (by decide) short.short)

theorem shortNumber?_of_short {t : Text} (short : ShortDigits t) :
    shortNumber? t = some t.decimalValue := by
  have small := shortDigits_lt short
  rw [shortNumber?, if_pos ⟨List.all_eq_true.2 (shortDigits_decimal short),
    shortDigits_byteSize short⟩]
  exact readNumber?_of_digits short.digits short.nonempty (by unfold wordLimit; omega)

theorem shortNumber?_nil : shortNumber? [] = none := by decide

theorem shortNumber?_of_undecimal {t : Text} (other : ∃ c ∈ t, isDecimal c = false) :
    shortNumber? t = none := by
  obtain ⟨c, member, undecimal⟩ := other
  have mixed : t.all isDecimal = false := by
    rw [List.all_eq_false]
    exact ⟨c, member, by simp [undecimal]⟩
  simp [shortNumber?, mixed]

theorem shortNumber?_of_no_digit {t : Text} (undigit : ∀ c ∈ t, isDecimal c = false) :
    shortNumber? t = none := by
  cases t with
  | nil => exact shortNumber?_nil
  | cons c t => exact shortNumber?_of_undecimal ⟨c, by simp, undigit c (by simp)⟩

theorem readWords_eq_nil {read : Text → List Nat} {t : Text} {opens : Bool}
    (nothing : ∀ s, s <:+ t → read s = []) : readWords read opens t = [] := by
  induction t generalizing opens with
  | nil => rfl
  | cons c t ih =>
    simp only [readWords, ih fun s suffix => nothing s (suffix.trans (List.suffix_cons c t)),
      nothing _ (List.suffix_refl _), ite_self, List.append_nil]

theorem all_eq_nil {lead t : Text} (nothing : ∀ s lead, s <:+ t → CrossMark.ofHead? lead s = none) :
    CrossMark.all lead t = [] := by
  induction t generalizing lead with
  | nil => rw [CrossMark.all]
  | cons c t ih =>
    rw [CrossMark.all, nothing _ _ (List.suffix_refl _)]
    exact ih fun s lead suffix => nothing s lead (suffix.trans (List.suffix_cons c t))

theorem seasonAt_of_letterless {c : Char} (rest : Text) (other : isLetter 's' c = false) :
    seasonAt (c :: rest) = [] := by
  simp [seasonAt, other]

theorem episodeAt_of_letterless {c : Char} (rest : Text) (other : isLetter 'e' c = false) :
    episodeAt (c :: rest) = [] := by
  simp [episodeAt, other]

theorem readWords_of_letterless {read : Text → List Nat} {letter : Char} {t : Text} {opens : Bool}
    (empty : read [] = []) (first : ∀ c rest, isLetter letter c = false → read (c :: rest) = [])
    (absent : ∀ c ∈ t, isLetter letter c = false) : readWords read opens t = [] := by
  apply readWords_eq_nil
  intro s suffix
  cases s with
  | nil => exact empty
  | cons c s => exact first c s (absent c (suffix.subset (by simp)))

theorem seasonMarks_of_letterless {t : Text} (opens : Bool)
    (absent : ∀ c ∈ t, isLetter 's' c = false) : readWords seasonAt opens t = [] :=
  readWords_of_letterless rfl (fun _ rest other => seasonAt_of_letterless rest other) absent

theorem episodeMarks_of_letterless {t : Text} (opens : Bool)
    (absent : ∀ c ∈ t, isLetter 'e' c = false) : readWords episodeAt opens t = [] :=
  readWords_of_letterless rfl (fun _ rest other => episodeAt_of_letterless rest other) absent

theorem ofHead?_of_no_digit {lead t : Text} (undigit : ∀ c ∈ t.head?, isDecimal c = false) :
    CrossMark.ofHead? lead t = none := by
  have bare := leadingDigits_of_head undigit
  simp only [CrossMark.ofHead?]
  split
  · rfl
  · simp [bare]

theorem quiet_of_no_digit {t : Text} (undigit : ∀ c ∈ t, isDecimal c = false) : Quiet t where
  seasons := by
    apply readWords_eq_nil
    intro s suffix
    cases s with
    | nil => rfl
    | cons c s =>
      have bare := leadingDigits_of_head (t := s) fun d head =>
        undigit d (suffix.subset (by simp [List.mem_of_mem_head? head]))
      simp [seasonAt, bare, shortNumber?_nil]
  episodes := by
    apply readWords_eq_nil
    intro s suffix
    cases s with
    | nil => rfl
    | cons c s =>
      have bare := leadingDigits_of_head (t := s) fun d head =>
        undigit d (suffix.subset (by simp [List.mem_of_mem_head? head]))
      simp [episodeAt, bare]
  crosses := by
    rw [crossMarks, all_eq_nil]
    · rfl
    · intro s lead suffix
      exact ofHead?_of_no_digit fun c head => undigit c (suffix.subset (List.mem_of_mem_head? head))

theorem ofHead?_of_crossless {lead t : Text} (absent : ∀ c ∈ t, isCross c = false) :
    CrossMark.ofHead? lead t = none := by
  simp only [CrossMark.ofHead?]
  split
  · rfl
  · rename_i x rest after
    have member : x ∈ afterDigits t := by simp [after]
    have inside : x ∈ t := (List.dropWhile_suffix isDecimal).subset member
    simp [absent x inside]

theorem quiet_of_letterless {t : Text} (absent : ∀ c ∈ t,
    isLetter 's' c = false ∧ isLetter 'e' c = false ∧ isCross c = false) : Quiet t where
  seasons := seasonMarks_of_letterless true fun c member => (absent c member).1
  episodes := episodeMarks_of_letterless true fun c member => (absent c member).2.1
  crosses := by
    rw [crossMarks, all_eq_nil]
    · rfl
    · intro s lead suffix
      exact ofHead?_of_crossless fun c member => (absent c (suffix.subset member)).2.2

theorem isCross_of_decimal {c : Char} (digit : isDecimal c = true) : isCross c = false := by
  by_contra cross
  simp only [Bool.not_eq_false, isCross, Bool.or_eq_true, beq_iff_eq] at cross
  rcases cross with rfl | rfl <;> revert digit <;> decide

theorem quiet_of_digits {t : Text} (digits : ∀ c ∈ t, isDecimal c = true) : Quiet t := by
  apply quiet_of_letterless
  intro c member
  obtain ⟨season, episode⟩ := isLetter_of_decimal (digits c member)
  exact ⟨season, episode, isCross_of_decimal (digits c member)⟩

theorem readWords_digits {read : Text → List Nat} {digits : Text} (opens : Bool) (rest : Text)
    (all : ∀ c ∈ digits, c.isDigit = true) (nonempty : digits ≠ [])
    (nothing : ∀ c ∈ digits, ∀ t, read (c :: t) = []) :
    readWords read opens (digits ++ rest) = readWords read true rest := by
  induction digits generalizing opens with
  | nil => contradiction
  | cons c digits ih =>
    have first := nothing c (by simp) (digits ++ rest)
    have after : (!isAlphabetic c) = true := by simp [isAlphabetic_of_isDigit (all c (by simp))]
    simp only [List.cons_append, readWords, first, ite_self, List.nil_append, after]
    by_cases last : digits = []
    · rw [last, List.nil_append]
    · exact ih true (fun d member => all d (by simp [member])) last
        fun d member => nothing d (by simp [member])

theorem seasonMarks_cons {c : Char} {season rest : Text} (letter : isLetter 's' c = true)
    (short : ShortDigits season) (ends : ∀ d ∈ rest.head?, isDecimal d = false)
    (absent : ∀ d ∈ rest, isLetter 's' d = false) :
    seasonMarks (c :: (season ++ rest)) = [season.decimalValue] := by
  have digits := (leadingDigits_append (shortDigits_decimal short) ends).1
  have more : readWords seasonAt (!isAlphabetic c) (season ++ rest) = [] := by
    apply seasonMarks_of_letterless
    intro d member
    rcases List.mem_append.1 member with digit | other
    · exact (isLetter_of_decimal (shortDigits_decimal short d digit)).1
    · exact absent d other
  simp [seasonMarks, readWords, more, seasonAt, letter, digits, shortNumber?_of_short short]

/-- The text after the first number of a mark: nothing, or a hyphen and a second number. -/
def rangeText : Option Text → Text
  | none => []
  | some last => '-' :: last

def rangeNumbers (first : Text) (last : Option Text) : List Nat :=
  first.decimalValue :: (last.map Text.decimalValue).toList

/-- What begins here neither goes on the number of a mark nor gives it a range. -/
structure EndsMark (rest : Text) : Prop where
  undigit : ∀ c ∈ rest.head?, isDecimal c = false
  unranged : rangeEnd? rest = none

theorem endsMark_nil : EndsMark [] := ⟨by simp, rfl⟩

theorem rangeText_head (last : Option Text) {rest : Text} (ends : EndsMark rest) :
    ∀ c ∈ (rangeText last ++ rest).head?, isDecimal c = false := by
  cases last with
  | none => exact ends.undigit
  | some t =>
    intro c head
    obtain rfl : '-' = c := by simpa [rangeText] using head
    decide

theorem rangeText_mem {last : Option Text} (short : ∀ t ∈ last, ShortDigits t) :
    ∀ c ∈ rangeText last, c = '-' ∨ c.isDigit = true := by
  cases last with
  | none => simp [rangeText]
  | some t =>
    intro c member
    rcases List.mem_cons.1 member with hyphen | digit
    · exact Or.inl hyphen
    · exact Or.inr ((short t rfl).digits c digit)

theorem rangeEnd?_rangeText {last : Option Text} {rest : Text}
    (short : ∀ t ∈ last, ShortDigits t) (ends : EndsMark rest) :
    rangeEnd? (rangeText last ++ rest) = last := by
  cases last with
  | none => exact ends.unranged
  | some t =>
    have digits := (leadingDigits_append (shortDigits_decimal (short t rfl)) ends.undigit).1
    simp [rangeEnd?, rangeText, digits, (short t rfl).nonempty]

theorem isLetter_of_hyphen_or_digit {c : Char} (here : c = '-' ∨ c.isDigit = true) :
    isLetter 's' c = false ∧ isLetter 'e' c = false := by
  rcases here with rfl | digit
  · decide
  · exact isLetter_of_decimal (isDecimal_of_isDigit digit)

theorem episodeMarks_cons {s : Char} {season : Text} (rest : Text) (letter : isLetter 'e' s = false)
    (short : ShortDigits season) :
    episodeMarks (s :: (season ++ rest)) = readWords episodeAt true rest := by
  rw [episodeMarks, readWords, if_pos rfl, episodeAt_of_letterless _ letter, List.nil_append]
  exact readWords_digits _ rest short.digits short.nonempty fun c member t =>
    episodeAt_of_letterless t (isLetter_of_decimal (shortDigits_decimal short c member)).2

theorem readWords_rangeText {last : Option Text} (short : ∀ t ∈ last, ShortDigits t) (rest : Text) :
    readWords episodeAt true (rangeText last ++ rest) = readWords episodeAt true rest := by
  cases last with
  | none => rfl
  | some t =>
    have digits := short t rfl
    have hyphen : episodeAt ('-' :: (t ++ rest)) = [] := episodeAt_of_letterless _ (by decide)
    rw [rangeText, List.cons_append, readWords, if_pos rfl, hyphen, List.nil_append]
    exact readWords_digits _ rest digits.digits digits.nonempty fun c member t =>
      episodeAt_of_letterless t (isLetter_of_decimal (shortDigits_decimal digits c member)).2

theorem readWords_mark {e : Char} {first rest : Text} {last : Option Text}
    (letter : isLetter 'e' e = true) (short : ShortDigits first)
    (shortLast : ∀ t ∈ last, ShortDigits t) (ends : EndsMark rest) :
    readWords episodeAt true (e :: (first ++ (rangeText last ++ rest))) =
      rangeNumbers first last ++ readWords episodeAt true rest := by
  have digits := leadingDigits_append (shortDigits_decimal short) (rangeText_head last ends)
  have second : (last.bind shortNumber?) = last.map Text.decimalValue := by
    cases last with
    | none => rfl
    | some t => exact shortNumber?_of_short (shortLast t rfl)
  have here : episodeAt (e :: (first ++ (rangeText last ++ rest))) = rangeNumbers first last := by
    simp only [episodeAt, letter, digits, rangeEnd?_rangeText shortLast ends, second, rangeNumbers,
      shortNumber?_of_short short, shortDigits_byteSize short, ne_eq, short.nonempty,
      not_false_eq_true, and_self, if_true, Option.toList_some, List.singleton_append]
  rw [readWords, if_pos rfl, here, readWords_digits _ _ short.digits short.nonempty
    fun c member t => episodeAt_of_letterless t
      (isLetter_of_decimal (shortDigits_decimal short c member)).2, readWords_rangeText shortLast]

def lettersText (s e : Char) (season first : Text) (last : Option Text) : Text :=
  s :: (season ++ e :: (first ++ rangeText last))

theorem seasonMarks_lettersText {s e : Char} {season first : Text} {last : Option Text}
    (letterS : isLetter 's' s = true) (letterE : e = 'e' ∨ e = 'E') (short : ShortDigits season)
    (shortFirst : ShortDigits first) (shortLast : ∀ t ∈ last, ShortDigits t) :
    seasonMarks (lettersText s e season first last) = [season.decimalValue] := by
  apply seasonMarks_cons letterS short
  · intro d head
    obtain rfl : e = d := by simpa using head
    rcases letterE with rfl | rfl <;> decide
  · intro d member
    rcases List.mem_cons.1 member with rfl | member
    · rcases letterE with rfl | rfl <;> decide
    · rcases List.mem_append.1 member with digit | range
      · exact (isLetter_of_hyphen_or_digit (Or.inr (shortFirst.digits d digit))).1
      · exact (isLetter_of_hyphen_or_digit (rangeText_mem shortLast d range)).1

theorem episodeMarks_lettersText {s e : Char} {season first : Text} {last : Option Text}
    (letterS : s = 's' ∨ s = 'S') (letterE : isLetter 'e' e = true) (short : ShortDigits season)
    (shortFirst : ShortDigits first) (shortLast : ∀ t ∈ last, ShortDigits t) :
    episodeMarks (lettersText s e season first last) = rangeNumbers first last := by
  have opening : isLetter 'e' s = false := by rcases letterS with rfl | rfl <;> decide
  have marked := readWords_mark letterE shortFirst shortLast endsMark_nil
  rw [List.append_nil] at marked
  rw [lettersText, episodeMarks_cons _ opening short, marked, readWords, List.append_nil]

def crossText (x : Char) (season first : Text) (last : Option Text) : Text :=
  season ++ x :: (first ++ rangeText last)

theorem isCross_iff {c : Char} : isCross c = true ↔ c = 'x' ∨ c = 'X' := by simp [isCross]

theorem crossText_letterless {x : Char} {season first : Text} {last : Option Text}
    (cross : isCross x = true) (short : ShortDigits season) (shortFirst : ShortDigits first)
    (shortLast : ∀ t ∈ last, ShortDigits t) :
    ∀ c ∈ crossText x season first last, isLetter 's' c = false ∧ isLetter 'e' c = false := by
  intro c member
  rcases List.mem_append.1 member with digit | member
  · exact isLetter_of_hyphen_or_digit (Or.inr (short.digits c digit))
  · rcases List.mem_cons.1 member with rfl | member
    · rcases isCross_iff.1 cross with rfl | rfl <;> decide
    · rcases List.mem_append.1 member with digit | range
      · exact isLetter_of_hyphen_or_digit (Or.inr (shortFirst.digits c digit))
      · exact isLetter_of_hyphen_or_digit (rangeText_mem shortLast c range)

theorem ofHead?_crossText {x : Char} {season first : Text} {last : Option Text}
    (cross : isCross x = true) (short : ShortDigits season) (shortFirst : ShortDigits first)
    (shortLast : ∀ t ∈ last, ShortDigits t) :
    CrossMark.ofHead? [] (crossText x season first last) =
      some ⟨[], season, x, first, last, []⟩ := by
  have opening : ∀ c ∈ (x :: (first ++ rangeText last)).head?, isDecimal c = false := by
    intro c head
    obtain rfl : x = c := by simpa using head
    rcases isCross_iff.1 cross with rfl | rfl <;> decide
  have head := leadingDigits_append (shortDigits_decimal short) opening
  have range := rangeText_head last endsMark_nil
  have ends := rangeEnd?_rangeText shortLast endsMark_nil
  rw [List.append_nil] at range ends
  have tail := leadingDigits_append (shortDigits_decimal shortFirst) range
  simp only [CrossMark.ofHead?, crossText, head, tail, ends, cross, ne_eq, short.nonempty,
    shortFirst.nonempty, not_false_eq_true, and_self, if_true]
  cases last with
  | none => rfl
  | some t =>
    have after := (leadingDigits_of_digits (shortDigits_decimal (shortLast t rfl))).2
    simp [rangeText, after]

theorem crossMarks_crossText {x : Char} {season first : Text} {last : Option Text}
    (cross : isCross x = true) (short : ShortDigits season) (shortFirst : ShortDigits first)
    (shortLast : ∀ t ∈ last, ShortDigits t) :
    crossMarks (crossText x season first last) = [⟨[], season, x, first, last, []⟩] := by
  have found := ofHead?_crossText cross short shortFirst shortLast
  have counts : CrossMark.counts ⟨[], season, x, first, last, []⟩ = true := by
    have sizes : last.all (fun digits => decide (digits.byteSize ≤ 2)) = true := by
      cases last with
      | none => rfl
      | some t => simpa using shortDigits_byteSize (shortLast t rfl)
    simp [CrossMark.counts, shortDigits_byteSize short, shortDigits_byteSize shortFirst, sizes]
  obtain ⟨c, t, text⟩ : ∃ c t, crossText x season first last = c :: t :=
    List.exists_cons_of_ne_nil (by simp [crossText])
  rw [text] at found ⊢
  rw [crossMarks, CrossMark.all]
  split
  · rename_i m same
    rw [found] at same
    cases same
    rw [CrossMark.all]
    simp [counts]
  · rename_i none
    rw [found] at none
    simp at none

theorem respelled_crossText (x : Char) (season first : Text) (last : Option Text) :
    CrossMark.respelled ⟨[], season, x, first, last, []⟩ =
      lettersText 'S' 'E' season first last := by
  cases last <;> simp [CrossMark.respelled, CrossMark.range, lettersText, rangeText]

end MediaNaming
