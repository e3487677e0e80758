import MediaNaming.Proofs.Sector.Markers

/-
Names of part markers alone. Only empty sectors and markers with their numbers leave nothing behind:
every other sector is settled, and what is settled is never taken back. So refinement loses a whole
name exactly where it is made of markers, or where junk begins at its first sector.
-/
namespace MediaNaming

def BareMarker (s : Text) : Prop := ∃ word ∈ PartMarker.words, Spells word s

inductive MarkerAhead : List Text → List Text → Prop
  | numbered {s : Text} (rest : List Text) (marker : NumberedMarker s) : MarkerAhead (s :: rest) rest
  | pair {m n : Text} {gap : List Text} {word : NumberWord} (rest : List Text) (marker : BareMarker m)
      (empty : ∀ t ∈ gap, t = []) (number : NumberWord.ofSector? n = some word) :
      MarkerAhead (m :: (gap ++ n :: rest)) rest

inductive MarkersOnly : List Text → Prop
  | nil : MarkersOnly []
  | empty {rest : List Text} (more : MarkersOnly rest) : MarkersOnly ([] :: rest)
  | marker {sectors rest : List Text} (first : MarkerAhead sectors rest) (more : MarkersOnly rest) :
      MarkersOnly sectors

theorem markerInitials_capitals : ∀ l ∈ markerInitials,
    upper l = [l.toUpper] ∧ isLetter l l.toUpper = true ∧ isLowercase l.toUpper = false := by
  decide +kernel

theorem isLetter_upper {l c d : Char} {t : Text} (initial : l ∈ markerInitials)
    (small : isLowercase c = true) (letter : isLetter l c = true) (capital : upper c = d :: t) :
    isLetter l d = true := by
  obtain ⟨own, same, large⟩ := markerInitials_capitals l initial
  have plain : ∀ l ∈ markerInitials, l ≠ 's' ∧ l ≠ 'k' := by decide
  rcases isLetter_iff.1 letter with rfl | rfl | ⟨rfl, _⟩ | ⟨rfl, _⟩
  · rw [own] at capital
    rwa [← (List.cons.inj capital).1]
  · rw [large] at small
    contradiction
  · exact absurd rfl (plain _ initial).1
  · exact absurd rfl (plain _ initial).2

theorem afterWord?_capitalize (s : Text) {word : Text} (listed : word ∈ PartMarker.words) :
    Text.afterWord? word s.capitalize = Text.afterWord? word s := by
  cases s with
  | nil => rfl
  | cons c s =>
    by_cases small : isLowercase c = true
    · obtain ⟨d, t, cut⟩ := List.exists_cons_of_ne_nil (upper_ne_nil c)
      cases word with
      | nil => exact absurd listed (by decide)
      | cons l word =>
        have initial := partWords_initial _ listed l rfl
        simp only [Text.capitalize, small, if_true, cut, List.cons_append, Text.afterWord?]
        by_cases letter : isLetter l d = true
        · obtain ⟨rfl, same⟩ := isLetter_of_upper initial cut letter
          simp [letter, same]
        · have other : ¬ isLetter l c = true := fun same =>
            letter (isLetter_upper initial small same cut)
          simp [letter, other]
    · rw [Text.capitalize_cons_of_not_lowercase s (by simpa using small)]

theorem ofSector?_capitalize (s : Text) :
    PartMarker.ofSector? s.capitalize = PartMarker.ofSector? s := by
  have same := List.map_congr_left fun _ listed => afterWord?_capitalize s listed
  have found := congrArg (List.findSome? id) same
  simp only [List.findSome?_map, Function.id_comp] at found
  simp only [PartMarker.ofSector?, found]

theorem numberedMarker_iff {s : Text} :
    NumberedMarker s ↔ ∃ digits, PartMarker.ofSector? s = some (.numbered digits) := by
  constructor
  · exact ofSector?_of_numberedMarker
  · rintro ⟨digits, numbered⟩
    simp only [PartMarker.ofSector?] at numbered
    split at numbered
    · contradiction
    · simp at numbered
    · rename_i c rest found
      split at numbered
      · rename_i decimal
        obtain ⟨word, listed, whole⟩ := List.exists_of_findSome?_eq_some found
        obtain ⟨lead, spells, rfl⟩ := spells_of_afterWord? whole
        exact .written listed spells (by simp) (List.all_eq_true.1 decimal)
      · contradiction

theorem undecimal_of_marker {s : Text} {m : PartMarker}
    (marker : PartMarker.ofSector? s = some m) : ∀ c ∈ s.head?, isDecimal c = false := by
  intro c first
  cases found : PartMarker.words.findSome? fun word => Text.afterWord? word s with
  | none => simp [PartMarker.ofSector?, found] at marker
  | some rest =>
    obtain ⟨word, listed, whole⟩ := List.exists_of_findSome?_eq_some found
    obtain ⟨lead, spells, rfl⟩ := spells_of_afterWord? whole
    cases spells with
    | nil => exact absurd listed (by decide)
    | @cons l d word lead letter more =>
      obtain rfl : d = c := by simpa using first
      exact isDecimal_of_isLetter (partMarker_letters _ listed l (by simp)) letter

theorem unmarked_of_split {s digits word : Text} (cut : splitNumbered? s = some (digits, word)) :
    PartMarker.ofSector? digits = none ∧ PartMarker.ofSector? s = none := by
  obtain ⟨number, decimal⟩ := splitNumbered?_decimal cut
  obtain ⟨d, more, rfl⟩ := List.exists_cons_of_ne_nil number
  have unmarked (tail : Text) : PartMarker.ofSector? (d :: tail) = none := by
    by_contra some_marker
    obtain ⟨m, marker⟩ := Option.ne_none_iff_exists'.1 some_marker
    have digit := decimal d (by simp)
    rw [undecimal_of_marker marker d rfl] at digit
    contradiction
  rw [splitNumbered?_text cut]
  exact ⟨unmarked more, unmarked _⟩

namespace Refinement

theorem ofSector?_opened (s : Text) (rest : List Text) :
    PartMarker.ofSector? (opened s rest).1 = PartMarker.ofSector? s := by
  cases cut : splitNumbered? s with
  | none => rw [opened_of_unsplit rest cut, ofSector?_capitalize]
  | some parts =>
    obtain ⟨digits, word⟩ := parts
    obtain ⟨number, whole⟩ := unmarked_of_split cut
    have opens : (opened s rest).1 = digits.capitalize := by simp [opened, cut]
    rw [opens, ofSector?_capitalize, number, whole]

theorem opened_of_marker {s : Text} {m : PartMarker} (marker : PartMarker.ofSector? s = some m)
    (rest : List Text) : (opened s rest).2 = rest := by
  cases cut : splitNumbered? s with
  | none => rw [opened_of_unsplit rest cut]
  | some parts =>
    rw [(unmarked_of_split cut).2] at marker
    contradiction

theorem markerAhead_iff (part : Nat) {s : Text} {rest later : List Text} :
    MarkerAhead (s :: rest) later ↔
      ∃ n, PartMarker.consume? part (opened s rest).1 (opened s rest).2 = some (n, later) := by
  simp only [PartMarker.consume?, ofSector?_opened]
  constructor
  · intro ahead
    cases ahead with
    | numbered rest marker =>
      obtain ⟨digits, numbered⟩ := numberedMarker_iff.1 marker
      simp [numbered, opened_of_marker numbered]
    | @pair _ n gap word later marker empty number =>
      have bare := ofSector?_bare_iff.2 marker
      simp only [bare, opened_of_marker bare, dropWhile_gap empty number, number, Option.map_some]
      exact ⟨_, rfl⟩
  · rintro ⟨n, consumed⟩
    split at consumed
    · contradiction
    · rename_i digits numbered
      rw [opened_of_marker numbered] at consumed
      cases consumed
      exact .numbered rest (numberedMarker_iff.2 ⟨digits, numbered⟩)
    · rename_i bare
      rw [opened_of_marker bare] at consumed
      split at consumed
      · contradiction
      · rename_i next more behind
        obtain ⟨word, number, same⟩ := Option.map_eq_some_iff.1 consumed
        cases same
        have parts := List.takeWhile_append_dropWhile (p := (· == [])) (l := rest)
        rw [behind] at parts
        rw [← parts]
        refine .pair later (ofSector?_bare_iff.1 bare) (fun t member => ?_) number
        simpa using List.mem_takeWhile_imp member

end Refinement

theorem MarkerAhead.ne_nil {s : Text} {rest later : List Text}
    (ahead : MarkerAhead (s :: rest) later) : s ≠ [] := by
  rintro rfl
  have none : PartMarker.ofSector? [] = none := by decide
  obtain ⟨n, consumed⟩ := (Refinement.markerAhead_iff 0).1 ahead
  rw [PartMarker.consume?, Refinement.ofSector?_opened, none] at consumed
  contradiction

namespace MarkersOnly

theorem of_empty {rest : List Text} (only : MarkersOnly ([] :: rest)) : MarkersOnly rest := by
  cases only with
  | empty more => exact more
  | marker first more => exact absurd rfl first.ne_nil

theorem of_full {s : Text} {rest : List Text} (only : MarkersOnly (s :: rest)) (full : s ≠ []) :
    ∃ later, MarkerAhead (s :: rest) later ∧ MarkersOnly later := by
  cases only with
  | empty more => exact absurd rfl full
  | marker first more => exact ⟨_, first, more⟩

end MarkersOnly

namespace Refinement

variable {classifier : Classifier} {r r' : Refinement}

theorem done_ne_nil_stepped (settled : r.done ≠ []) (stepped : Stepped classifier r r') :
    r'.done ≠ [] := by
  cases stepped with
  | drop head => exact settled
  | consume head nonempty opens consumed => exact settled
  | join head nonempty opens lone follows last => simp
  | settle head nonempty opens kept apart => simp [settle_done]

/-- While nothing is settled, a step leaves markers only if there were markers only, or it settles a
    sector. -/
theorem markersOnly_stepped (unsettled : r.done = []) (stepped : Stepped classifier r r') :
    r'.done = [] ∧ (MarkersOnly r.rest ↔ MarkersOnly r'.rest) ∨
      r'.done ≠ [] ∧ ¬ MarkersOnly r.rest := by
  cases stepped with
  | drop head =>
    rw [head]
    exact Or.inl ⟨unsettled, MarkersOnly.of_empty, .empty⟩
  | @consume s sector rest after later part head nonempty opens consumed =>
    rw [head]
    have ahead : MarkerAhead (s :: rest) later :=
      (markerAhead_iff r.part).2 ⟨part, by rw [opens]; exact consumed⟩
    refine Or.inl ⟨unsettled, fun only => ?_, .marker ahead⟩
    obtain ⟨other, also, more⟩ := only.of_full nonempty
    obtain ⟨n, same⟩ := (markerAhead_iff r.part).1 also
    rw [opens, consumed] at same
    cases same
    exact more
  | join head nonempty opens lone follows last =>
    rw [unsettled] at last
    simp at last
  | @settle s sector rest after head nonempty opens kept apart =>
    rw [head]
    refine Or.inr ⟨by simp [settle_done], fun only => ?_⟩
    obtain ⟨later, ahead, _⟩ := only.of_full nonempty
    obtain ⟨n, consumed⟩ := (markerAhead_iff r.part).1 ahead
    rw [opens, kept] at consumed
    contradiction

theorem run_done_eq_nil_iff (classifier : Classifier) {r : Refinement} (unsettled : r.done = []) :
    (r.run classifier).done = [] ↔ MarkersOnly r.rest := by
  fun_induction run classifier r with
  | case1 r ended => exact iff_of_true unsettled (ended ▸ .nil)
  | case2 r more ih =>
    rcases markersOnly_stepped unsettled (stepped classifier r more) with ⟨still, only⟩ | ⟨some, only⟩
    · exact (ih still).trans only.symm
    · exact iff_of_false (run_keeps classifier (fun _ _ => done_ne_nil_stepped) some) only

end Refinement

def Classifier.junkStart? (classifier : Classifier) (sectors : List Text) : Option Nat :=
  (Refinement.run classifier ⟨[], sectors, false, 0, {}⟩).findings.junkStart

theorem refine_eq_nil_iff (classifier : Classifier) (sectors : List Text) :
    (refine classifier sectors).sectors = [] ↔
      MarkersOnly sectors ∨ classifier.junkStart? sectors = some 0 := by
  have settled := Refinement.run_done_eq_nil_iff classifier (r := ⟨[], sectors, false, 0, {}⟩) rfl
  rw [← settled, Classifier.junkStart?, refine, Refinement.result]
  cases junk : (Refinement.run classifier ⟨[], sectors, false, 0, {}⟩).findings.junkStart with
  | none => simp
  | some start => simp [List.take_eq_nil_iff, or_comm]

/-- These sectors are not all empty and no classifier at hand marks junk among them, but refinement
    leaves none. -/
def RefinedAway (sectors : List Text) : Prop :=
  (∃ s ∈ sectors, s ≠ []) ∧
    ∀ classifier ∈ [Classifier.silent, Lexicon.movies.classify, Lexicon.episodes.classify],
      classifier.junkStart? sectors = none ∧ (refine classifier sectors).sectors = []

theorem markers_refined_away :
    [["CD1".toList], ["Part".toList, "2".toList]].Forall RefinedAway := by
  have away : ∀ sectors ∈ [["CD1".toList], ["Part".toList, "2".toList]], (∃ s ∈ sectors, s ≠ []) ∧
      ∀ classifier ∈ [Classifier.silent, Lexicon.movies.classify, Lexicon.episodes.classify],
        classifier.junkStart? sectors = none ∧ (refine classifier sectors).sectors = [] := by
    decide +kernel
  exact List.forall_iff_forall_mem.2 away

end MediaNaming
