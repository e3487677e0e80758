import MediaNaming.Proofs.Sector.EmptySectors
import MediaNaming.Proofs.Sector.NormalForm
import MediaNaming.Proofs.Episode.Reading
import MediaNaming.Proofs.Text.Splitting

/-
Sectors that refinement only capitalizes, wherever they stand. Words of plain letters, numbers
and the marks of season and episode are such sectors.
-/
namespace MediaNaming

theorem refine_settled (lexicon : Lexicon) {sectors : List Text} (settled : Settled sectors)
    (clean : ∀ i s, sectors[i]? = some s → lexicon.isJunk i s.capitalize = false) :
    (refine lexicon.classify sectors).sectors = sectors.map Text.capitalize ∧
      (refine lexicon.classify sectors).year =
        ((sectors.filterMap fun s => yearOf? s.capitalize).getLast?).getD (-1) := by
  obtain ⟨done, _, found⟩ := Refinement.run_settled lexicon.classify
    (r := ⟨[], sectors, false, 0, {}⟩) settled (fun _ _ _ => rfl)
  have none := (Lexicon.junkStart_findingsFrom_eq_none lexicon [] sectors
    (f := {}) rfl).2 (by simpa using clean)
  have year := Lexicon.year_findingsFrom lexicon [] sectors {}
  simp only [Option.or_none] at year
  simp only [refine, Refinement.result, done, found, none, year, List.nil_append, and_self]

/-- A sector that takes nothing from its neighbours and is no junk. -/
structure Inert (s : Text) : Prop extends Whole s where
  unmarked : PartMarker.ofSector? s.capitalize ≠ some .bare
  several : isLoneCapital s.capitalize = false
  clean : ∀ index, Lexicon.episodes.isJunk index s.capitalize = false

theorem settled_of_inert {sectors : List Text} (inert : ∀ s ∈ sectors, Inert s) :
    Settled sectors where
  whole := fun s member => (inert s member).toWhole
  markers := by
    apply List.Pairwise.isChain
    exact List.pairwise_of_forall_mem_list fun s member _ _ bare =>
      absurd bare (inert s member).unmarked
  capitals := by
    apply List.Pairwise.isChain
    exact List.pairwise_of_forall_mem_list fun _ _ t member _ => (inert t member).several

theorem refine_inert {sectors : List Text} (inert : ∀ s ∈ sectors, Inert s) :
    (refine Lexicon.episodes.classify sectors).sectors = sectors.map Text.capitalize ∧
      (refine Lexicon.episodes.classify sectors).year =
        ((sectors.filterMap fun s => yearOf? s.capitalize).getLast?).getD (-1) :=
  refine_settled Lexicon.episodes (settled_of_inert inert)
    fun i s at_i => (inert s (List.mem_of_getElem? at_i)).clean i

def isNameLetter (c : Char) : Bool := c.isAlphanum || c == '-'

theorem toNat_lt_of_isNameLetter {c : Char} (letter : isNameLetter c = true) : c.toNat < 128 := by
  simp only [isNameLetter, Char.isAlphanum, Bool.or_eq_true, beq_iff_eq] at letter
  rcases letter with (letter | digit) | rfl
  · exact toNat_lt_of_isAlpha letter
  · exact toNat_lt_of_isDigit digit
  · decide

theorem isNameLetter_of_isAlpha {c : Char} (letter : c.isAlpha = true) : isNameLetter c = true := by
  simp [isNameLetter, Char.isAlphanum, letter]

theorem isNameLetter_of_isDigit {c : Char} (digit : c.isDigit = true) : isNameLetter c = true := by
  simp [isNameLetter, Char.isAlphanum, digit]

theorem isNameLetter_toLower (c : Char) : isNameLetter c.toLower = isNameLetter c := by
  cases upper : c.isUpper with
  | true =>
    have letter : c.isAlpha = true := Bool.or_eq_true_iff.2 (Or.inl upper)
    have same := ascii_forall (p := fun c => isNameLetter c.toLower == isNameLetter c) (by decide)
      (toNat_lt_of_isAlpha letter)
    exact beq_iff_eq.1 same
  | false =>
    unfold Char.toLower
    rw [dif_neg]
    exact of_decide_eq_false upper

theorem lower_nameLetters {t : Text} :
    (∀ c ∈ t.map Char.toLower, isNameLetter c = true) ↔ ∀ c ∈ t, isNameLetter c = true := by
  simp only [List.mem_map, forall_exists_index, and_imp, forall_apply_eq_imp_iff₂,
    isNameLetter_toLower]

theorem isDelimiter_of_isNameLetter {c : Char} (letter : isNameLetter c = true) :
    isDelimiter c = false ∧ c ≠ pathSeparator := by
  have := ascii_forall (p := fun c => !isNameLetter c || (!isDelimiter c && c != pathSeparator))
    (by decide) (toNat_lt_of_isNameLetter letter)
  simpa [letter] using this

theorem capitalize_of_ascii {c : Char} (t : Text) (low : c.toNat < 128) :
    Text.capitalize (c :: t) = c.toUpper :: t := by
  have same := ascii_forall (p := fun c => c.isLower || c.toUpper == c) (by decide) low
  rw [Text.capitalize, isLowercase_of_ascii low, upper_of_ascii low]
  cases small : c.isLower with
  | true => rfl
  | false => simpa [small] using (beq_iff_eq.1 (by simpa [small] using same)).symm

theorem length_capitalize {t : Text} (low : ∀ c ∈ t, c.toNat < 128) :
    t.capitalize.length = t.length := by
  cases t with
  | nil => rfl
  | cons c t => simp [capitalize_of_ascii t (low c (by simp))]

theorem capitalize_alpha {t : Text} (letters : ∀ c ∈ t, c.isAlpha = true) :
    ∀ c ∈ t.capitalize, c.isAlpha = true := by
  cases t with
  | nil => simp [Text.capitalize]
  | cons c t =>
    have letter := letters c (by simp)
    have upper := ascii_forall (p := fun c => !c.isAlpha || c.toUpper.isAlpha) (by decide)
      (toNat_lt_of_isAlpha letter)
    rw [capitalize_of_ascii t (toNat_lt_of_isAlpha letter)]
    intro d member
    simp only [letter, Bool.not_true, Bool.false_or] at upper
    rcases List.mem_cons.1 member with rfl | member
    · exact upper
    · exact letters d (by simp [member])

theorem isDecimal_of_isAlpha {c : Char} (letter : c.isAlpha = true) : isDecimal c = false := by
  have no_digit := ascii_forall (p := fun c => !c.isAlpha || !isDecimal c) (by decide)
    (toNat_lt_of_isAlpha letter)
  simpa [letter] using no_digit

theorem whole_of_letters {t : Text} (nonempty : t ≠ []) (letters : ∀ c ∈ t, c.isAlpha = true) :
    Whole t where
  nonempty := nonempty
  unsplit := by
    obtain ⟨c, u, rfl⟩ := List.exists_cons_of_ne_nil nonempty
    exact splitNumbered?_of_head (isDecimal_of_isAlpha (letters c (by simp)))
  unnumbered := by
    intro digits numbered
    obtain ⟨c, last, digit⟩ := ofSector?_numbered numbered
    rw [isDecimal_of_isAlpha (capitalize_alpha letters c (List.mem_of_mem_getLast? last))] at digit
    contradiction

theorem capitalize_nameLetters {t : Text} (letters : ∀ c ∈ t, isNameLetter c = true) :
    (∀ c ∈ t.capitalize, isNameLetter c = true) ∧
      t.capitalize.map Char.toLower = t.map Char.toLower := by
  cases t with
  | nil => simp [Text.capitalize]
  | cons c t =>
    have letter := letters c (by simp)
    have low := toNat_lt_of_isNameLetter letter
    have upper := ascii_forall
      (p := fun c => !isNameLetter c || (isNameLetter c.toUpper && c.toUpper.toLower == c.toLower))
      (by decide) low
    simp only [letter, Bool.not_true, Bool.false_or, Bool.and_eq_true, beq_iff_eq] at upper
    rw [capitalize_of_ascii t low]
    constructor
    · intro d member
      rcases List.mem_cons.1 member with rfl | member
      · exact upper.1
      · exact letters d (by simp [member])
    · simp [upper.2]

theorem withoutBrackets_nameLetters {t : Text} (letters : ∀ c ∈ t, isNameLetter c = true) :
    withoutBrackets t = t := by
  have unbracketed : ∀ c ∈ t, isBracket c = false := by
    intro c member
    have other := ascii_forall (p := fun c => !isNameLetter c || !isBracket c) (by decide)
      (toNat_lt_of_isNameLetter (letters c member))
    simpa [letters c member] using other
  exact Text.trimEnds_eq_self (fun c head => unbracketed c (List.mem_of_mem_head? head))
    fun c last => unbracketed c (List.mem_of_mem_getLast? last)

theorem judged_nameLetters {t : Text} (letters : ∀ c ∈ t, isNameLetter c = true) :
    judged t = t.map Char.toLower ∧ opensBracket t = false := by
  have low : t.lowercase = t.map Char.toLower :=
    lowercase_of_ascii fun c member => toNat_lt_of_isNameLetter (letters c member)
  have small := lower_nameLetters.2 letters
  constructor
  · rw [judged, low, withoutBrackets_nameLetters small]
  · rw [opensBracket, low, decide_eq_false_iff_not, not_or]
    constructor <;> intro head
    · have letter := small _ (List.mem_of_mem_head? head)
      revert letter
      decide
    · have letter := small _ (List.mem_of_mem_head? head)
      revert letter
      decide

theorem isJunk_nameLetters {t : Text} (letters : ∀ c ∈ t, isNameLetter c = true)
    (untagged : Lexicon.episodes.isTag (t.map Char.toLower) = false) (index : Nat) :
    Lexicon.episodes.isJunk index t.capitalize = false := by
  obtain ⟨capitals, same⟩ := capitalize_nameLetters letters
  obtain ⟨core, bracket⟩ := judged_nameLetters capitals
  rw [Lexicon.isJunk, core, same, bracket, untagged]
  cases yearOf? t.capitalize <;> rfl

end MediaNaming
