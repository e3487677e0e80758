import MediaNaming.Proofs.Episode.Respelling

/-
Marks as they are written in ASCII text: a letter with digits behind it, and a cross between
digits. The letters are all read. A cross is read unless its range is long or its season is taken
for the end of the range of the mark before it.
-/
namespace MediaNaming

structure LetterMark (letter : Char) (sector lead digits : Text) : Prop where
  written : ∃ c rest, sector = lead ++ c :: (digits ++ rest) ∧ (c = letter ∨ c = letter.toUpper) ∧
    ∀ d ∈ rest.head?, d.isDigit = false
  short : ShortDigits digits
  opens : ∀ c ∈ lead.getLast?, c.isAlpha = false

structure WrittenCross (sector lead season first rest : Text) : Prop where
  written : ∃ x, isCross x = true ∧ sector = lead ++ (season ++ x :: (first ++ rest))
  short : ShortDigits season
  shortFirst : ShortDigits first
  ends : ∀ c ∈ rest.head?, c.isDigit = false
  opens : ∀ c ∈ lead.getLast?, c.isAlphanum = false

variable {sector lead : Text}

theorem leadingDigits_ascii {digits rest : Text} (low : ∀ c ∈ rest, c.toNat < 128)
    (all : ∀ c ∈ digits, c.isDigit = true) (ends : ∀ c ∈ rest.head?, c.isDigit = false) :
    leadingDigits (digits ++ rest) = digits ∧ afterDigits (digits ++ rest) = rest := by
  apply leadingDigits_append fun c member => isDecimal_of_isDigit (all c member)
  intro c head
  rw [isDecimal_of_ascii (low c (List.mem_of_mem_head? head))]
  exact ends c head

namespace CrossMark

/-- A text that ends in letters and digits only after what is neither. -/
theorem eq_nil_of_alphanumeric (lead : Text) {tail : Text}
    (opens : ∀ c ∈ (lead ++ tail).getLast?, isAlphanumeric c = false)
    (all : ∀ c ∈ tail, isAlphanumeric c = true) : tail = [] := by
  by_contra nonempty
  have last := List.getLast?_eq_some_getLast nonempty
  have same : (lead ++ tail).getLast? = some (tail.getLast nonempty) := by
    rw [List.getLast?_append, last]
    rfl
  have other := opens _ same
  rw [all _ (List.getLast_mem nonempty)] at other
  contradiction

theorem ofHead?_written (lead : Text) {season first rest : Text} {x : Char}
    (cross : isCross x = true) (low : ∀ c ∈ rest, c.toNat < 128) (short : ShortDigits season) (shortFirst : ShortDigits first)
    (ends : ∀ c ∈ rest.head?, c.isDigit = false) :
    ∃ m, ofHead? lead (season ++ x :: (first ++ rest)) = some m ∧ m.lead = lead ∧
      m.season = season ∧ m.first = first ∧ m.last = rangeEnd? rest := by
  have head := leadingDigits_append (shortDigits_decimal short)
    (show ∀ c ∈ (x :: (first ++ rest)).head?, isDecimal c = false by
      simpa using isDecimal_of_cross cross)
  have tail := leadingDigits_ascii low shortFirst.digits ends
  simp only [ofHead?, head, tail, cross, ne_eq, short.nonempty, shortFirst.nonempty,
    not_false_eq_true, and_self, if_true]
  cases rangeEnd? rest <;> exact ⟨_, rfl, rfl, rfl, rfl, rfl⟩

theorem isAlphanumeric_of_decimal {c : Char} (low : c.toNat < 128) (digit : isDecimal c = true) :
    isAlphanumeric c = true := by
  rw [isDecimal_of_ascii low] at digit
  simp [isAlphanumeric_of_ascii low, Char.isAlphanum, digit]

theorem alphanumeric_front {m : CrossMark} (runs : m.Runs) (low : ∀ c ∈ m.written, c.toNat < 128) :
    ∀ c ∈ m.season ++ m.cross :: m.first, isAlphanumeric c = true := by
  intro c member
  have small : c.toNat < 128 := low c (by rw [written]; exact List.mem_append_left _ member)
  simp only [List.mem_append, List.mem_cons] at member
  rcases member with season | rfl | first
  · exact isAlphanumeric_of_decimal small (runs.season.2 c season)
  · rcases isCross_iff.1 runs.cross with same | same <;> rw [same] <;> decide
  · exact isAlphanumeric_of_decimal small (runs.first.2 c first)

theorem last_of_inside {m : CrossMark} (front : Text) {extra season tail : Text} {x : Char}
    (runs : m.Runs) (low : ∀ c ∈ m.range, c.toNat < 128) (digits : ∀ c ∈ season, isDecimal c = true)
    (undigit : isDecimal x = false) (text : m.range ++ m.rest = extra ++ (season ++ x :: tail))
    (opens : ∀ c ∈ (front ++ extra).getLast?, isAlphanumeric c = false) (later : extra ≠ [])
    (inside : extra.length < m.range.length) : m.last = some season ∧ extra = ['-'] := by
  cases last : m.last with
  | none => simp [range, last] at inside
  | some told =>
    simp only [range, last, List.cons_append, List.length_cons] at text inside low
    obtain ⟨hyphen, extra, rfl⟩ := List.exists_cons_of_ne_nil later
    obtain ⟨rfl, ranged⟩ := List.cons.inj text
    rcases List.append_eq_append_iff.1 ranged with ⟨more, long, _⟩ | ⟨more, taken, same⟩
    · simp only [long, List.length_cons, List.length_append] at inside
      omega
    · -- More than the hyphen would leave a digit right before the place.
      have nothing : extra = [] := by
        apply eq_nil_of_alphanumeric (front ++ ['-']) (by simpa using opens)
        intro c member
        have among : c ∈ told := by simp [taken, member]
        exact isAlphanumeric_of_decimal (low c (by simp [among])) ((runs.last told last).2 c among)
      subst nothing
      have own := (leadingDigits_append (runs.last told last).2 runs.ends).1
      have written := (leadingDigits_append digits
        (show ∀ c ∈ (x :: tail).head?, isDecimal c = false by simpa using undigit)).1
      rw [List.nil_append] at taken
      rw [same, ← taken, own] at written
      exact ⟨by rw [written], rfl⟩

/-- Where a mark runs over the place of a written cross, the season of the cross is taken for the
    end of its range. -/
theorem swallowed_of_overlap {m : CrossMark} {before season tail : Text} {x : Char} (runs : m.Runs)
    (low : ∀ c ∈ m.written, c.toNat < 128) (digits : ∀ c ∈ season, isDecimal c = true)
    (undigit : isDecimal x = false) (text : m.written ++ m.rest = before ++ (season ++ x :: tail))
    (opens : ∀ c ∈ (m.lead ++ before).getLast?, isAlphanumeric c = false) (later : before ≠ [])
    (overlap : before.length < m.written.length) :
    m.last = some season ∧ before = m.season ++ m.cross :: m.first ++ ['-'] := by
  have front := alphanumeric_front runs low
  have parts : m.season ++ m.cross :: m.first ++ (m.range ++ m.rest) =
      before ++ (season ++ x :: tail) := by simpa [written] using text
  rcases List.append_eq_append_iff.1 parts with ⟨extra, here, behind⟩ | ⟨more, here, _⟩
  · -- The place is behind the digits of the episode, so a hyphen comes before it.
    have ranged : extra ≠ [] := by
      rintro rfl
      rw [List.append_nil] at here
      have nothing := eq_nil_of_alphanumeric m.lead (here ▸ opens) front
      simp at nothing
    have inside : extra.length < m.range.length := by
      simp only [written, here, List.length_append] at overlap
      omega
    obtain ⟨last, rfl⟩ := last_of_inside (m.lead ++ (m.season ++ m.cross :: m.first)) runs
      (fun c member => low c (by simp [written, member])) digits undigit behind
      (by simpa [here] using opens) ranged inside
    exact ⟨last, here⟩
  · -- The place is among the digits before the range, which follow a digit or the cross.
    exact absurd
      (eq_nil_of_alphanumeric m.lead opens fun c member => front c (by simp [here, member])) later

theorem found_or_swallowed (lead : Text) {before season first rest t : Text} {x : Char}
    (cross : isCross x = true) (short : ShortDigits season) (shortFirst : ShortDigits first)
    (ends : ∀ c ∈ rest.head?, c.isDigit = false)
    (opens : ∀ c ∈ (lead ++ before).getLast?, isAlphanumeric c = false)
    (low : ∀ c ∈ t, c.toNat < 128) (text : t = before ++ (season ++ x :: (first ++ rest))) :
    (∃ m ∈ all lead t, m.lead = lead ++ before ∧ m.season = season ∧ m.first = first ∧
      m.last = rangeEnd? rest) ∨
    ∃ m ∈ all lead t, m.last = some season ∧
      lead ++ before = m.lead ++ (m.season ++ m.cross :: m.first ++ ['-']) := by
  have lowRest : ∀ c ∈ rest, c.toNat < 128 := fun c member => low c (by simp [text, member])
  fun_induction all lead t generalizing before with
  | case1 lead => simp at text
  | case2 lead c t m found ih =>
    obtain ⟨same, own, _⟩ := ofHead?_text found
    by_cases here : before = []
    · subst here
      obtain ⟨other, head, fields⟩ := ofHead?_written lead cross lowRest short shortFirst ends
      rw [text, List.nil_append, head] at found
      cases found
      exact Or.inl ⟨m, by simp, by simpa using fields⟩
    · rcases Nat.lt_or_ge before.length m.written.length with overlap | past
      · have whole : m.written ++ m.rest = before ++ (season ++ x :: (first ++ rest)) := by
          rw [own, text]
        obtain ⟨last, place⟩ := swallowed_of_overlap (runs_ofHead? found)
          (fun d member => low d (by rw [← own]; simp [member])) (shortDigits_decimal short)
          (isDecimal_of_cross cross) whole (by rwa [same]) here overlap
        exact Or.inr ⟨m, by simp, last, by rw [same, place]⟩
      · obtain ⟨more, rfl⟩ := List.prefix_of_prefix_length_le ⟨m.rest, own⟩ ⟨_, text.symm⟩ past
        have next : m.rest = more ++ (season ++ x :: (first ++ rest)) := by
          rw [← own, List.append_assoc] at text
          exact List.append_cancel_left text
        have place : lead ++ m.written ++ more = lead ++ (m.written ++ more) := by simp
        rcases ih (by simpa using opens) (fun d member => low d (by rw [← own]; simp [member]))
            next with ⟨other, member, fields⟩ | ⟨other, member, fields⟩
        · exact Or.inl ⟨other, by simp [member], place ▸ fields⟩
        · exact Or.inr ⟨other, by simp [member], place ▸ fields⟩
  | case3 lead c t none ih =>
    cases before with
    | nil =>
      obtain ⟨other, head, _⟩ := ofHead?_written lead cross lowRest short shortFirst ends
      rw [text, List.nil_append, head] at none
      contradiction
    | cons d before =>
      obtain ⟨rfl, next⟩ := List.cons.inj text
      have found' := ih (by simpa using opens) (fun d member => low d (by simp [member])) next
      simpa only [List.append_assoc, List.singleton_append] using found'

end CrossMark

/-- Why a written cross is not read: a letter marks a season or an episode in its sector, its range
    is long, or its season is taken for the end of a range. -/
inductive Overlooked (sector lead season rest : Text) : Prop
  | beside {letter : Char} {before digits : Text} (letters : letter = 's' ∨ letter = 'e')
      (mark : LetterMark letter sector before digits) : Overlooked sector lead season rest
  | longRange {digits more : Text} (text : rest = '-' :: (digits ++ more))
      (all : ∀ c ∈ digits, c.isDigit = true) (long : 2 < digits.length) :
      Overlooked sector lead season rest
  | swallowed {m : CrossMark} (found : m ∈ CrossMark.all [] sector) (last : m.last = some season)
      (place : lead = m.lead ++ (m.season ++ m.cross :: m.first ++ ['-'])) :
      Overlooked sector lead season rest

theorem rangeEnd?_some {t digits : Text} (ranged : rangeEnd? t = some digits) :
    ∃ more, t = '-' :: (digits ++ more) ∧ ∀ c ∈ digits, isDecimal c = true := by
  unfold rangeEnd? at ranged
  split at ranged
  · rename_i rest
    split at ranged
    · simp at ranged
    · cases ranged
      exact ⟨afterDigits rest, by rw [CrossMark.digits_append],
        CrossMark.leadingDigits_decimal rest⟩
  · simp at ranged

theorem crossMark_of_written {season first rest : Text} (low : ∀ c ∈ sector, c.toNat < 128)
    (cross : WrittenCross sector lead season first rest) :
    (∃ m ∈ crossMarks sector, m.season = season) ∨ Overlooked sector lead season rest := by
  obtain ⟨x, crossed, text⟩ := cross.written
  have opens : ∀ c ∈ lead.getLast?, isAlphanumeric c = false := by
    intro c last
    have member : c ∈ lead := List.mem_of_getLast? last
    rw [isAlphanumeric_of_ascii (low c (by simp [text, member]))]
    exact cross.opens c last
  rcases CrossMark.found_or_swallowed [] crossed cross.short cross.shortFirst cross.ends
    opens low text with ⟨m, found, before, rfl, rfl, last⟩ | ⟨m, found, last, place⟩
  · by_cases counts : m.counts = true
    · exact Or.inl ⟨m, List.mem_filter.2 ⟨found, counts⟩, rfl⟩
    · right
      have unopened : m.lead.getLast?.any isAlphanumeric = false := by
        rw [before, List.nil_append]
        cases end_ : lead.getLast? with
        | none => rfl
        | some c => simpa using opens c end_
      simp only [CrossMark.counts, unopened, Bool.not_false, Bool.true_and,
        shortDigits_byteSize cross.short, shortDigits_byteSize cross.shortFirst, decide_true] at counts
      cases ranged : rangeEnd? rest with
      | none => simp [last, ranged] at counts
      | some digits =>
        obtain ⟨more, after, decimals⟩ := rangeEnd?_some ranged
        have all : ∀ c ∈ digits, c.isDigit = true := by
          intro c member
          rw [← isDecimal_of_ascii (low c (by simp [text, after, member]))]
          exact decimals c member
        refine .longRange after all ?_
        rw [← byteSize_of_digits all]
        simpa [last, ranged] using counts
  · exact Or.inr (.swallowed found last (by simpa using place))

end MediaNaming
