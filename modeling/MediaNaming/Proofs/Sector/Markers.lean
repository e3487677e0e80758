import Mathlib.Data.List.Infix
import MediaNaming.Proofs.Sector.Continuation
import MediaNaming.Proofs.Sector.Inert
import MediaNaming.Proofs.Sector.Shapes
import MediaNaming.Proofs.Sector.Solid

/-
Part markers that are consumed with their number. Behind sectors that end in no word for parts a
bare marker is met with nothing pending, so it and its number are gone before the next sector is
read: apart from the part, the sectors around them are refined as if they were neighbours.
-/
namespace MediaNaming

def EndsInMarker (s : Text) : Prop :=
  ∃ tail, tail <:+ s ∧ ∃ word ∈ PartMarker.words, Spells word tail

theorem EndsInMarker.of_suffix {s t : Text} (ends : EndsInMarker t) (suffix : t <:+ s) :
    EndsInMarker s := by
  obtain ⟨tail, within, word⟩ := ends
  exact ⟨tail, within.trans suffix, word⟩

theorem spells_of_afterWord? {word t rest : Text} (found : Text.afterWord? word t = some rest) :
    ∃ lead, Spells word lead ∧ t = lead ++ rest := by
  induction word generalizing t with
  | nil => exact ⟨[], List.Forall₂.nil, by simpa [Text.afterWord?] using found⟩
  | cons letter word ih =>
    cases t with
    | nil => simp [Text.afterWord?] at found
    | cons c t =>
      simp only [Text.afterWord?, Option.ite_none_right_eq_some] at found
      obtain ⟨lead, spells, rfl⟩ := ih found.2
      exact ⟨c :: lead, List.Forall₂.cons found.1 spells, rfl⟩

theorem ofSector?_bare_iff {s : Text} :
    PartMarker.ofSector? s = some .bare ↔ ∃ word ∈ PartMarker.words, Spells word s := by
  constructor
  · intro bare
    simp only [PartMarker.ofSector?] at bare
    split at bare
    · simp at bare
    · rename_i found
      obtain ⟨word, listed, whole⟩ := List.exists_of_findSome?_eq_some found
      obtain ⟨lead, spells, rfl⟩ := spells_of_afterWord? whole
      exact ⟨word, listed, by simpa using spells⟩
    · split at bare <;> simp at bare
  · rintro ⟨word, listed, spells⟩
    have found := findSome?_of_spells listed spells []
    rw [List.append_nil] at found
    simp only [PartMarker.ofSector?, found]

instance (s : Text) : Decidable (EndsInMarker s) :=
  decidable_of_iff (∃ tail ∈ s.tails, PartMarker.ofSector? tail = some .bare) <| by
    simp only [List.mem_tails, ofSector?_bare_iff, EndsInMarker]

def markerInitials : Text := ['p', 'c', 'd']

theorem partWords_initial : ∀ word ∈ PartMarker.words, ∀ l ∈ word.head?, l ∈ markerInitials := by
  decide

def initialCodes : List (Nat × Nat) := [(0x43, 0x44), (0x50, 0x50), (0x63, 0x64), (0x70, 0x70)]

theorem initialCode_of_isLetter {l d : Char} (initial : l ∈ markerInitials)
    (letter : isLetter l d = true) : inRanges initialCodes d.toNat = true := by
  have plain : ∀ l ∈ markerInitials, inRanges initialCodes l.toNat = true ∧
      inRanges initialCodes l.toUpper.toNat = true ∧ l ≠ 's' ∧ l ≠ 'k' := by decide
  obtain ⟨small, capital, other, another⟩ := plain l initial
  rcases isLetter_iff.1 letter with rfl | rfl | ⟨rfl, _⟩ | ⟨rfl, _⟩
  · exact small
  · exact capital
  · contradiction
  · contradiction

/-- Beyond the letters from `a` to `z` nothing has one of these letters as its capital. -/
theorem laterTargets_apart_initials :
    apart initialCodes (Property.upperShifts.tail.flatMap Property.Shift.targets) = true := by
  decide +kernel

theorem upperHeads_apart_initials : apart initialCodes upperHeads = true := by
  decide +kernel

theorem isLetter_of_upper {l c d : Char} {t : Text} (initial : l ∈ markerInitials)
    (capital : upper c = d :: t) (letter : isLetter l d = true) : t = [] ∧ isLetter l c = true := by
  have code := initialCode_of_isLetter initial letter
  by_cases low : c.toNat < 128
  · rw [upper_of_ascii low] at capital
    cases capital
    have same := ascii_forall
      (p := fun c => markerInitials.all fun l => !isLetter l c.toUpper || isLetter l c)
      (by decide) low
    have here := List.all_eq_true.1 same l initial
    simp only [letter, Bool.not_true, Bool.false_or] at here
    exact ⟨rfl, here⟩
  · -- no other letter has these capitals, whether its capital is one letter or several
    have outside {n : Nat} (avoids : inRanges initialCodes n = false) : (Char.ofNat n) ≠ d := by
      rintro rfl
      rcases toNat_ofNat_or_zero n with same | zero
      · rw [same, avoids] at code
        contradiction
      · rw [zero] at code
        contradiction
    simp only [upper, mapCase] at capital
    split at capital
    · rename_i m found
      have beyond : shifted Property.upperShifts.tail c.toNat = some m := by
        have first : Property.upperShifts =
            ⟨0x61, 0x7a, 1, 0x41⟩ :: Property.upperShifts.tail := rfl
        have unmapped : Property.Shift.mapped? ⟨0x61, 0x7a, 1, 0x41⟩ c.toNat = none := by
          simp only [Property.Shift.mapped?, ite_eq_right_iff]
          omega
        rw [first, shifted, if_neg (by simp only; omega), unmapped, Option.none_or] at found
        exact found
      exact absurd (List.cons.inj capital).1
        (outside (shifted_apart laterTargets_apart_initials beyond))
    · split at capital
      · rename_i codes found
        obtain ⟨l₁, l₂, listed, _⟩ := List.lookup_eq_some_iff.1 found
        have member : (c.toNat, codes) ∈ Property.upperExpansions := by simp [listed]
        obtain ⟨code, more, rfl⟩ := List.exists_cons_of_ne_nil (upperExpansions_nonempty _ member)
        have head : (code, code) ∈ upperHeads := List.mem_map.2 ⟨_, member, rfl⟩
        have avoids := apart_spec upperHeads_apart_initials head ⟨Nat.le_refl _, Nat.le_refl _⟩
        exact absurd (List.cons.inj capital).1 (outside avoids)
      · cases capital
        exact ⟨rfl, letter⟩

theorem spells_of_capitalize {word s : Text} (listed : word ∈ PartMarker.words)
    (spells : Spells word s.capitalize) : Spells word s := by
  cases s with
  | nil => exact spells
  | cons c s =>
    by_cases small : isLowercase c = true
    · obtain ⟨d, t, cut⟩ := List.exists_cons_of_ne_nil (upper_ne_nil c)
      simp only [Text.capitalize, small, if_true, cut, List.cons_append] at spells
      cases spells with
      | @cons l _ word _ letter later =>
        obtain ⟨rfl, same⟩ := isLetter_of_upper (partWords_initial _ listed l rfl) cut letter
        exact List.Forall₂.cons same later
    · rwa [Text.capitalize_cons_of_not_lowercase s (by simpa using small)] at spells

theorem isDecimal_of_isLetter {l c : Char} (listed : l ∈ markerLetters)
    (letter : isLetter l c = true) : isDecimal c = false := by
  have plain : ∀ l ∈ markerLetters, isDecimal l = false ∧ isDecimal l.toUpper = false := by decide
  rcases isLetter_iff.1 letter with rfl | rfl | ⟨_, rfl⟩ | ⟨_, rfl⟩
  · exact (plain c listed).1
  · exact (plain l listed).2
  · decide
  · decide

theorem ofSector?_digits {digits : Text} (decimal : ∀ c ∈ digits, isDecimal c = true) :
    PartMarker.ofSector? digits ≠ some .bare := by
  intro bare
  obtain ⟨word, listed, spells⟩ := ofSector?_bare_iff.1 bare
  cases spells with
  | nil => revert listed; decide
  | @cons l c word digits letter later =>
    have plain := isDecimal_of_isLetter (partMarker_letters _ listed l (by simp)) letter
    rw [decimal c (by simp)] at plain
    contradiction

namespace Refinement

variable {classifier : Classifier} {more : List Text}

theorem opened_unmarked {s : Text} (unmarked : ¬ EndsInMarker s) (rest : List Text) :
    PartMarker.ofSector? (opened s rest).1 ≠ some .bare ∧
      ∀ t ∈ (opened s rest).2, EndsInMarker t → t ∈ rest := by
  simp only [opened]
  split
  · rename_i digits word found
    have decimal := (splitNumbered?_decimal found).2
    rw [capitalize_of_decimal decimal]
    refine ⟨ofSector?_digits decimal, fun t member ends => ?_⟩
    rcases List.mem_cons.1 member with rfl | later
    · have suffix : t <:+ s := by
        rw [splitNumbered?_text found]
        exact (List.suffix_cons '-' t).trans (List.suffix_append digits _)
      exact absurd (ends.of_suffix suffix) unmarked
    · exact later
  · refine ⟨fun bare => ?_, fun t member _ => member⟩
    obtain ⟨word, listed, spells⟩ := ofSector?_bare_iff.1 bare
    exact unmarked ⟨s, List.suffix_refl s, word, listed, spells_of_capitalize listed spells⟩

theorem consume?_unmarked {sector : Text} (unmarked : PartMarker.ofSector? sector ≠ some .bare)
    (part : Nat) (rest more : List Text) :
    PartMarker.consume? part sector (rest ++ more) =
      (PartMarker.consume? part sector rest).map fun p => (p.1, p.2 ++ more) := by
  simp only [PartMarker.consume?]
  split
  · rfl
  · rfl
  · contradiction

theorem unmarked_stepped {r r' : Refinement} (unmarked : ∀ s ∈ r.rest, ¬ EndsInMarker s)
    (stepped : Stepped classifier r r') : ∀ s ∈ r'.rest, ¬ EndsInMarker s := by
  have opened {s sector : Text} {rest after : List Text} (head : r.rest = s :: rest)
      (opens : Refinement.opened s rest = (sector, after)) : ∀ t ∈ after, ¬ EndsInMarker t := by
    intro t member ends
    have pending := (opened_unmarked (unmarked s (by simp [head])) rest).2 t (by simpa [opens]) ends
    exact unmarked t (by simp [head, pending]) ends
  cases stepped with
  | drop head => exact fun s member => unmarked s (by simp [head, show s ∈ _ from member])
  | consume head nonempty opens consumed =>
    exact fun s member => opened head opens s ((consume?_rest consumed).2 s member)
  | join head nonempty opens lone follows settled => exact opened head opens
  | settle head nonempty opens kept apart => exact opened head opens

theorem run_unmarked (alone : classifier.Local) (r : Refinement)
    (unmarked : ∀ s ∈ r.rest, ¬ EndsInMarker s) (more : List Text) :
    (r.before more).run classifier = ((r.run classifier).before more).run classifier := by
  fun_induction run classifier r with
  | case1 r done => rfl
  | case2 r some ih =>
    have step : (r.before more).step classifier = (r.step classifier).before more :=
      step_before alone some fun s rest head =>
        consume?_unmarked (opened_unmarked (unmarked s (by simp [head])) rest).1 _ _ _
    rw [run_step (by simp [before, some]), step,
      ih (unmarked_stepped unmarked (stepped classifier r some))]

def withPart (r : Refinement) (part : Nat) : Refinement := { r with part := part }

theorem consume?_withPart (part other : Nat) (sector : Text) (rest : List Text) :
    (PartMarker.consume? other sector rest).map Prod.snd =
      (PartMarker.consume? part sector rest).map Prod.snd := by
  simp only [PartMarker.consume?]
  split
  · rfl
  · rfl
  · split
    · rfl
    · simp [Option.map_map, Function.comp_def]

theorem step_withPart (classifier : Classifier) (r : Refinement) (part : Nat) :
    ∃ next, (r.withPart part).step classifier = (r.step classifier).withPart next := by
  simp only [step, show (r.withPart part).rest = r.rest from rfl]
  split
  · exact ⟨part, rfl⟩
  · exact ⟨part, rfl⟩
  · rename_i c tail rest head
    rcases opened (c :: tail) rest with ⟨sector, after⟩
    have same := consume?_withPart r.part part sector after
    simp only [show (r.withPart part).part = part from rfl]
    cases consumed : PartMarker.consume? r.part sector after with
    | some p =>
      obtain ⟨q, found, later⟩ := Option.map_eq_some_iff.1 (by rw [same, consumed]; rfl)
      rw [found]
      exact ⟨q.1, by simp [withPart, later]⟩
    | none =>
      have none := Option.map_eq_none_iff.1 (by rw [same, consumed]; rfl)
      rw [none]
      refine ⟨part, ?_⟩
      simp only [joinCapital?, show (r.withPart part).afterCapital = r.afterCapital from rfl,
        show (r.withPart part).done = r.done from rfl]
      split
      · cases r.done.getLast? <;> rfl
      · rfl

theorem run_withPart (classifier : Classifier) (r : Refinement) (part : Nat) :
    ∃ last, (r.withPart part).run classifier = (r.run classifier).withPart last := by
  fun_induction run classifier r generalizing part with
  | case1 r done => exact ⟨part, run_done done⟩
  | case2 r more ih =>
    obtain ⟨next, step⟩ := step_withPart classifier r part
    obtain ⟨last, ran⟩ := ih next
    exact ⟨last, by rw [run_step (show (r.withPart part).rest ≠ [] from more), step, ran]⟩

end Refinement

inductive Unconsumed : List Text → Prop
  | nil : Unconsumed []
  | empty {rest : List Text} (later : Unconsumed rest) : Unconsumed ([] :: rest)
  | kept {s sector : Text} {rest after : List Text} (nonempty : s ≠ [])
      (opens : Refinement.opened s rest = (sector, after))
      (unread : PartMarker.consume? 0 sector after = none) (later : Unconsumed after) :
      Unconsumed (s :: rest)

namespace Refinement

theorem part_unconsumed {classifier : Classifier} {r : Refinement}
    (unconsumed : Unconsumed r.rest) :
    (r.run classifier).part = r.part := by
  generalize pending : r.rest = sectors at unconsumed
  induction unconsumed generalizing r with
  | nil => rw [run_done pending]
  | empty later ih =>
    rw [run_step (by simp [pending]), ih (by simp [step, pending])]
    simp [step, pending]
  | @kept s sector rest after nonempty opens unread later ih =>
    have more : r.rest ≠ [] := by simp [pending]
    have unread' : PartMarker.consume? r.part sector after = none := by
      have same := consume?_withPart 0 r.part sector after
      rw [unread] at same
      exact Option.map_eq_none_iff.1 same
    have once := stepped classifier r more
    rw [run_step more]
    generalize r.step classifier = next at once
    cases once with
    | drop head =>
      rw [pending] at head
      cases head
      contradiction
    | consume head full opened consumed =>
      rw [pending] at head
      cases head
      rw [opens] at opened
      cases opened
      rw [unread'] at consumed
      contradiction
    | join head full opened lone follows settled =>
      rw [pending] at head
      cases head
      rw [opens] at opened
      cases opened
      exact ih rfl
    | settle head full opened kept apart =>
      rw [pending] at head
      cases head
      rw [opens] at opened
      cases opened
      exact ih (settle_rest _ _ _ _)

end Refinement

def MarkerWord (m : Text) : Prop := m.map Char.toLower ∈ PartMarker.words

instance (m : Text) : Decidable (MarkerWord m) :=
  inferInstanceAs (Decidable (m.map Char.toLower ∈ PartMarker.words))

theorem MarkerWord.letters {m : Text} (marker : MarkerWord m) : ∀ c ∈ m, c.isAlpha = true := by
  have small : ∀ word ∈ PartMarker.words, ∀ l ∈ word, l.isLower = true := by decide
  exact fun c member => isAlpha_of_toLower (small _ marker _ (List.mem_map_of_mem member))

theorem spells_toLower {t : Text} (low : ∀ c ∈ t, c.toNat < 128) :
    Spells (t.map Char.toLower) t := by
  rw [Spells, List.forall₂_map_left_iff, List.forall₂_same]
  exact fun c member => ascii_forall (p := fun c => isLetter c.toLower c) (by decide) (low c member)

theorem MarkerWord.bare {m : Text} (marker : MarkerWord m) :
    PartMarker.ofSector? m.capitalize = some .bare := by
  obtain ⟨capitals, same⟩ :=
    capitalize_nameLetters fun c member => isNameLetter_of_isAlpha (marker.letters c member)
  have spells := spells_toLower fun c member => toNat_lt_of_isNameLetter (capitals c member)
  rw [same] at spells
  exact ofSector?_bare_iff.2 ⟨_, marker, spells⟩

theorem dropWhile_gap {gap : List Text} {n : Text} {word : NumberWord} (empty : ∀ t ∈ gap, t = [])
    (number : NumberWord.ofSector? n = some word) (later : List Text) :
    (gap ++ n :: later).dropWhile (· == []) = n :: later := by
  have full : n ≠ [] := by
    rintro rfl
    have none : NumberWord.ofSector? [] = none := by decide
    rw [none] at number
    contradiction
  rw [List.dropWhile_append_of_pos (by simpa using empty), dropWhile_full full]

namespace Refinement

theorem step_marker (classifier : Classifier) {r : Refinement} {m n : Text}
    {gap later : List Text} {word : NumberWord} (head : r.rest = m :: (gap ++ n :: later))
    (marker : MarkerWord m) (empty : ∀ t ∈ gap, t = [])
    (number : NumberWord.ofSector? n = some word) :
    r.step classifier = { r with part := word.value?.getD r.part, rest := later } := by
  have nonempty : m ≠ [] := by
    rintro rfl
    revert marker
    decide
  have whole := whole_of_letters nonempty marker.letters
  have next := dropWhile_gap empty number later
  obtain ⟨c, tail, rfl⟩ := List.exists_cons_of_ne_nil nonempty
  simp only [step, head, opened_of_unsplit _ whole.unsplit, PartMarker.consume?, marker.bare, next,
    number, Option.map_some]

end Refinement

theorem refine_append_unmarked {classifier : Classifier} (alone : classifier.Local)
    {front : List Text} (unmarked : ∀ s ∈ front, ¬ EndsInMarker s) (back : List Text) :
    refine classifier (front ++ back) =
      (((Refinement.run classifier ⟨[], front, false, 0, {}⟩).before back).run
        classifier).result := by
  rw [← Refinement.run_unmarked alone ⟨[], front, false, 0, {}⟩ unmarked]
  rfl

/-- A marker and its number are refined as if they were not there, behind sectors that end in no
    word for parts. They only leave the part, which is what the sectors before them made it if the
    number is out of range. -/
theorem refine_around_marker (lexicon : Lexicon) {front back gap : List Text} {m n : Text}
    {word : NumberWord} (unmarked : ∀ s ∈ front, ¬ EndsInMarker s) (marker : MarkerWord m)
    (empty : ∀ t ∈ gap, t = []) (number : NumberWord.ofSector? n = some word) :
    let around := refine lexicon.classify (front ++ m :: (gap ++ n :: back))
    let alone := refine lexicon.classify (front ++ back)
    around.sectors = alone.sectors ∧ around.year = alone.year ∧ around.quality = alone.quality ∧
      (Unconsumed back →
        around.part = word.value?.getD (refine lexicon.classify front).part) := by
  intro around alone
  generalize first : Refinement.run lexicon.classify ⟨[], front, false, 0, {}⟩ = r
  have ends : r.rest = [] := first ▸ Refinement.run_rest _ _
  have whole (more : List Text) :
      refine lexicon.classify (front ++ more) = ((r.before more).run lexicon.classify).result :=
    first ▸ refine_append_unmarked lexicon.classify_local unmarked more
  -- the step over the marker leads to the refinement without it, but for the part
  have pending : (r.before (m :: (gap ++ n :: back))).rest = m :: (gap ++ n :: back) := by
    simp [Refinement.before, ends]
  have consumed : (r.before (m :: (gap ++ n :: back))).step lexicon.classify =
      (r.before back).withPart (word.value?.getD r.part) := by
    rw [Refinement.step_marker lexicon.classify pending marker empty number]
    simp [Refinement.before, Refinement.withPart, ends]
  obtain ⟨last, same⟩ :=
    Refinement.run_withPart lexicon.classify (r.before back) (word.value?.getD r.part)
  have found : around = (((r.before back).run lexicon.classify).withPart last).result := by
    rw [← same, ← consumed, ← Refinement.run_step (by simp [pending])]
    exact whole _
  have others : alone = ((r.before back).run lexicon.classify).result := whole back
  refine ⟨by rw [found, others]; rfl, by rw [found, others]; rfl, by rw [found, others]; rfl, ?_⟩
  intro unconsumed
  have behind : Unconsumed ((r.before back).withPart (word.value?.getD r.part)).rest := by
    simpa [Refinement.before, Refinement.withPart, ends] using unconsumed
  have kept : (((r.before back).withPart (word.value?.getD r.part)).run lexicon.classify).part =
      word.value?.getD r.part := Refinement.part_unconsumed behind
  rw [same] at kept
  have part : (refine lexicon.classify front).part = r.part := by rw [refine, first]; rfl
  rw [part, found]
  exact kept

theorem refine_around_part_two :
    let front : List Text := ["Show".toList, "A".toList]
    let back : List Text := ["B".toList, "Special".toList]
    let around := refine Lexicon.movies.classify
      (front ++ "pArT".toList :: ([[]] ++ "ii".toList :: back))
    let alone := refine Lexicon.movies.classify (front ++ back)
    (around.sectors = alone.sectors ∧ around.year = alone.year ∧ around.quality = alone.quality ∧
        around.part = 2) ∧
      alone.sectors = ["Show".toList, "AB".toList, "Special".toList] := by
  intro front back around alone
  have number : NumberWord.ofSector? "ii".toList = some (.value 2) := by decide
  have unmarked : ∀ s ∈ front, ¬ EndsInMarker s := by decide
  have marker : MarkerWord "pArT".toList := by decide
  have empty : ∀ t ∈ ([[]] : List Text), t = [] := by decide
  obtain ⟨sectors, year, quality, part⟩ : _ ∧ _ ∧ _ ∧ (Unconsumed back → around.part = 2) :=
    refine_around_marker Lexicon.movies unmarked marker empty number
  refine ⟨⟨sectors, year, quality, part ?_⟩, by decide +kernel⟩
  exact .kept (by decide) rfl rfl (.kept (by decide) rfl rfl .nil)

end MediaNaming
