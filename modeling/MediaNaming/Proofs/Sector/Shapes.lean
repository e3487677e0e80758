import MediaNaming.Proofs.Sector.NormalForm
import MediaNaming.Proofs.Episode.Reading
import Mathlib.Data.List.Forall2

/-
Refined sectors by what is written in them. No number is left with a word glued behind it and no
part marker with its digits, whatever the classifier.
-/
namespace MediaNaming

inductive NumberedWord : Text → Prop
  | written {digits tail : Text} {c : Char} (number : digits ≠ [])
      (decimal : ∀ d ∈ digits, isDecimal d = true) (letter : isWordLetter c = true)
      (single : '-' ∉ tail) (line : '\n' ∉ tail) : NumberedWord (digits ++ '-' :: c :: tail)

def Spells (word lead : Text) : Prop :=
  List.Forall₂ (fun letter c => isLetter letter c = true) word lead

inductive NumberedMarker : Text → Prop
  | written {word lead digits : Text} (listed : word ∈ PartMarker.words)
      (spells : Spells word lead) (number : digits ≠ [])
      (decimal : ∀ d ∈ digits, isDecimal d = true) : NumberedMarker (lead ++ digits)

theorem splitNumbered?_of_numberedWord {s : Text} (numbered : NumberedWord s) :
    splitNumbered? s ≠ none := by
  obtain @⟨digits, tail, c, number, decimal, letter, single, line⟩ := numbered
  have ends : ∀ d ∈ ('-' :: c :: tail).head?, isDecimal d = false := by
    simp only [List.head?_cons, Option.mem_some_iff, forall_eq']
    decide
  obtain ⟨lead, after⟩ := leadingDigits_append decimal ends
  simp only [leadingDigits, afterDigits] at lead after
  obtain ⟨d, more, rfl⟩ := List.exists_cons_of_ne_nil number
  simp only [splitNumbered?, lead, after, letter, single, line, not_false_eq_true, and_self, if_true]
  exact Option.some_ne_none _

theorem afterWord?_of_spells {word lead : Text} (spells : Spells word lead) (rest : Text) :
    Text.afterWord? word (lead ++ rest) = some rest := by
  induction spells with
  | nil => rfl
  | cons here later ih => simpa [Text.afterWord?, here] using ih

def markerLetters : Text := "partcdisk".toList

theorem partMarker_letters : ∀ word ∈ PartMarker.words, ∀ l ∈ word, l ∈ markerLetters := by
  decide

theorem isLetter_unique {a b c : Char} (left : a ∈ markerLetters) (right : b ∈ markerLetters)
    (here : isLetter a c = true) (there : isLetter b c = true) : a = b := by
  have lower : ∀ a ∈ markerLetters, ∀ b ∈ markerLetters, isLetter b a = true → a = b := by decide
  have upper : ∀ a ∈ markerLetters, ∀ b ∈ markerLetters, isLetter b a.toUpper = true → a = b := by
    decide
  have folded : ∀ b ∈ markerLetters, (isLetter b 'ſ' = true → 's' = b) ∧
      (isLetter b '\u212a' = true → 'k' = b) := by
    decide
  rcases isLetter_iff.1 here with rfl | rfl | ⟨rfl, rfl⟩ | ⟨rfl, rfl⟩
  · exact lower c left b right there
  · exact upper a left b right there
  · exact (folded b right).1 there
  · exact (folded b right).2 there

/-- Of two words that begin the same text one begins the other. -/
theorem prefix_of_afterWord? {word other s rest later : Text}
    (letters : ∀ l ∈ word, l ∈ markerLetters) (others : ∀ l ∈ other, l ∈ markerLetters)
    (first : Text.afterWord? word s = some rest) (second : Text.afterWord? other s = some later) :
    word <+: other ∨ other <+: word := by
  induction word generalizing other s with
  | nil => exact Or.inl List.nil_prefix
  | cons a word ih =>
    cases other with
    | nil => exact Or.inr List.nil_prefix
    | cons b other =>
      cases s with
      | nil => simp [Text.afterWord?] at first
      | cons c s =>
        simp only [Text.afterWord?, Option.ite_none_right_eq_some] at first second
        obtain rfl := isLetter_unique (letters a (by simp)) (others b (by simp)) first.1 second.1
        simp only [List.prefix_cons_inj]
        exact ih (fun l member => letters l (by simp [member]))
          (fun l member => others l (by simp [member])) first.2 second.2

theorem partWords_apart : ∀ word ∈ PartMarker.words, ∀ other ∈ PartMarker.words,
    word <+: other → word = other := by
  decide

theorem findSome?_of_spells {word lead : Text} (listed : word ∈ PartMarker.words)
    (spells : Spells word lead) (rest : Text) :
    PartMarker.words.findSome? (fun word => Text.afterWord? word (lead ++ rest)) = some rest := by
  have here := afterWord?_of_spells spells rest
  cases first : PartMarker.words.findSome? (fun word => Text.afterWord? word (lead ++ rest)) with
  | none =>
    have unspelled := List.findSome?_eq_none_iff.1 first word listed
    rw [here] at unspelled
    contradiction
  | some other =>
    obtain ⟨found, among, also⟩ := List.exists_of_findSome?_eq_some first
    have same : word = found := by
      rcases prefix_of_afterWord? (partMarker_letters word listed) (partMarker_letters found among)
        here also with before | before
      · exact partWords_apart word listed found among before
      · exact (partWords_apart found among word listed before).symm
    rw [← same, here] at also
    exact also.symm

theorem ofSector?_of_numberedMarker {s : Text} (numbered : NumberedMarker s) :
    ∃ digits, PartMarker.ofSector? s = some (.numbered digits) := by
  obtain @⟨word, lead, digits, listed, spells, number, decimal⟩ := numbered
  have found := findSome?_of_spells listed spells digits
  obtain ⟨c, more, rfl⟩ := List.exists_cons_of_ne_nil number
  refine ⟨c :: more, ?_⟩
  simp only [PartMarker.ofSector?, found, List.all_eq_true.2 decimal, if_true]

structure NormalForm (sectors : List Text) : Prop where
  nonempty : ∀ s ∈ sectors, s ≠ []
  capitals : sectors.IsChain fun s t => ¬ (isLoneCapital s = true ∧ isLoneCapital t = true)
  unmarked : ∀ s ∈ sectors, ¬ NumberedMarker s
  unsplit : ∀ s ∈ sectors, ¬ NumberedWord s

theorem refine_normalForm (classifier : Classifier) (sectors : List Text) :
    NormalForm (refine classifier sectors).sectors := by
  have formed := refine_formed classifier sectors
  have capitals := refine_capitals classifier sectors
  generalize (refine classifier sectors).sectors = refined at formed capitals
  refine ⟨fun s member => (formed s member).nonempty, ?_, fun s member marker => ?_,
    fun s member numbered => ?_⟩
  · refine capitals.imp_of_mem_imp fun s t left right keeps both => ?_
    rw [KeepsCapital, (formed s left).capitalized, (formed t right).capitalized] at keeps
    exact Bool.false_ne_true ((keeps both.1).symm.trans both.2)
  · obtain ⟨digits, numbered⟩ := ofSector?_of_numberedMarker marker
    have unnumbered := (formed s member).unnumbered digits
    rw [(formed s member).capitalized] at unnumbered
    exact unnumbered numbered
  · exact splitNumbered?_of_numberedWord numbered (formed s member).unsplit

end MediaNaming
