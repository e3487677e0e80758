import MediaNaming.Proofs.Sector.Idempotence

/-
Refinement of sectors with more behind them. Sectors that begin with no number leave what stands
before them to itself: a run over all of them is the run over the front, and then one over the back
from where the first run ended.
-/
namespace MediaNaming

/-- Nothing is behind, or a sector that no part marker can take its number from. -/
def StartsApart (more : List Text) : Prop :=
  ∀ next ∈ more.head?, next ≠ [] ∧ NumberWord.ofSector? next = none

theorem startsApart_nil : StartsApart [] := by simp [StartsApart]

theorem consume?_append {more : List Text} (apart : StartsApart more) (part : Nat) (sector : Text)
    (rest : List Text) : PartMarker.consume? part sector (rest ++ more) =
      (PartMarker.consume? part sector rest).map fun p => (p.1, p.2 ++ more) := by
  simp only [PartMarker.consume?]
  split
  · rfl
  · rfl
  · rw [List.dropWhile_append]
    cases eq : rest.dropWhile (· == []) with
    | cons next later => cases found : NumberWord.ofSector? next <;> simp [found]
    | nil =>
      cases more with
      | nil => rfl
      | cons next later =>
        obtain ⟨full, word⟩ := apart next rfl
        simp [full, word]

namespace Refinement

variable {classifier : Classifier} {more : List Text}

theorem opened_append (s : Text) (rest more : List Text) :
    opened s (rest ++ more) = ((opened s rest).1, (opened s rest).2 ++ more) := by
  simp only [opened]
  split <;> rfl

def before (r : Refinement) (more : List Text) : Refinement := { r with rest := r.rest ++ more }

theorem joinCapital?_before (sector : Text) (rest : List Text) (r : Refinement) :
    (r.before more).joinCapital? sector (rest ++ more) =
      (r.joinCapital? sector rest).map (before · more) := by
  unfold joinCapital?
  by_cases joins : isLoneCapital sector ∧ r.afterCapital
  · rw [if_pos joins, if_pos (show isLoneCapital sector ∧ (r.before more).afterCapital from joins)]
    simp only [before]
    cases r.done.getLast? <;> rfl
  · rw [if_neg joins,
      if_neg (show ¬(isLoneCapital sector ∧ (r.before more).afterCapital) from joins)]
    rfl

theorem settle_before (alone : classifier.Local) (sector : Text) (rest : List Text)
    (r : Refinement) : (r.before more).settle classifier sector (rest ++ more) =
      (r.settle classifier sector rest).before more := by
  simp only [settle, before, alone r.done sector (rest ++ more) rest]

theorem step_before (alone : classifier.Local) {r : Refinement} (some : r.rest ≠ [])
    (consumes : ∀ s rest, r.rest = s :: rest →
      PartMarker.consume? r.part (opened s rest).1 ((opened s rest).2 ++ more) =
        (PartMarker.consume? r.part (opened s rest).1 (opened s rest).2).map
          fun p => (p.1, p.2 ++ more)) :
    (r.before more).step classifier = (r.step classifier).before more := by
  obtain ⟨s, rest, head⟩ := List.exists_cons_of_ne_nil some
  have heads : (r.before more).rest = s :: (rest ++ more) := by rw [before, head]; rfl
  cases s with
  | nil =>
    simp only [step, head, heads]
    rfl
  | cons c tail =>
    have consumed := consumes _ _ head
    rcases opens : opened (c :: tail) rest with ⟨sector, after⟩
    have opensToo := opened_append (c :: tail) rest more
    rw [opens] at opensToo consumed
    simp only [step, head, heads, opens, opensToo]
    rw [show (r.before more).part = r.part from rfl, consumed]
    cases PartMarker.consume? r.part sector after with
    | some p => rfl
    | none =>
      simp only [Option.map_none, joinCapital?_before, settle_before alone]
      cases r.joinCapital? sector after <;> rfl

theorem run_before (alone : classifier.Local) (apart : StartsApart more) (r : Refinement) :
    (r.before more).run classifier = ((r.run classifier).before more).run classifier := by
  fun_induction run classifier r with
  | case1 r done => rfl
  | case2 r some ih =>
    have step : (r.before more).step classifier = (r.step classifier).before more :=
      step_before alone some fun s rest _ => consume?_append apart _ _ _
    rw [run_step (by simp [before, some]), step, ih]

theorem result_unmarked {r : Refinement} (clean : r.findings.junkStart = none) :
    r.result.sectors = r.done := by
  simp only [result, clean]

theorem result_marked {r : Refinement} {start : Nat} (early : r.findings.junkStart = some start) :
    r.result.sectors = r.done.take start := by
  simp only [result, early]

theorem junkStart_run_lt (lexicon : Lexicon) (sectors : List Text) :
    ∀ start ∈ (run lexicon.classify ⟨[], sectors, false, 0, {}⟩).findings.junkStart,
      start < (run lexicon.classify ⟨[], sectors, false, 0, {}⟩).done.length := by
  apply run_keeps lexicon.classify
    (P := fun r => ∀ start ∈ r.findings.junkStart, start < r.done.length)
  · intro r r' bounded stepped
    cases stepped with
    | drop head => exact bounded
    | consume head nonempty opens consumed => exact bounded
    | join head nonempty opens lone follows settled =>
      intro start marked
      have := bounded start marked
      simpa [settled] using this
    | @settle s sector rest after head nonempty opens kept apart =>
      intro start marked
      simp only [settle, Lexicon.classify_junkStart, List.length_append, List.length_cons,
        List.length_nil] at marked ⊢
      split at marked
      · simp only [Findings.markJunk, Option.mem_def, Option.some.injEq] at marked
        split at marked <;> omega
      · have := bounded start marked
        omega
  · simp

end Refinement

theorem NumberWord.value_le {sector : Text} {word : NumberWord} {part : Nat}
    (found : NumberWord.ofSector? sector = some word) (small : part ≤ wordLimit) :
    word.value?.getD part ≤ wordLimit := by
  have listed {words : List Text} {low : Text} {i : Nat} (at_i : words.idxOf? low = some i) :
      i < words.length := (List.findIdx?_eq_some_iff_getElem.1 at_i).1
  simp only [ofSector?] at found
  split at found
  · cases read : sector.readNumber? wordLimit with
    | none =>
      obtain rfl : _ = word := by simpa [read] using found
      exact small
    | some n =>
      obtain rfl : _ = word := by simpa [read] using found
      exact Text.readNumber?_le read
  · rw [Option.or_eq_some_iff] at found
    rcases found with spelled | ⟨_, roman⟩
    · obtain ⟨i, at_i, rfl⟩ := Option.map_eq_some_iff.1 spelled
      have := listed at_i
      simp only [words, List.length_cons, List.length_nil] at this
      simp [value?, wordLimit]
      omega
    · obtain ⟨i, at_i, rfl⟩ := Option.map_eq_some_iff.1 roman
      have := listed at_i
      simp only [romans, List.length_cons, List.length_nil] at this
      simp [value?, wordLimit]
      omega

theorem consume?_le {part n : Nat} {sector : Text} {rest later : List Text}
    (found : PartMarker.consume? part sector rest = some (n, later)) (small : part ≤ wordLimit) :
    n ≤ wordLimit := by
  simp only [PartMarker.consume?] at found
  split at found
  · simp at found
  · rename_i digits _
    obtain ⟨rfl, _⟩ := Prod.mk.inj (Option.some.inj found)
    cases read : digits.readNumber? wordLimit with
    | none => exact small
    | some n => exact Text.readNumber?_le read
  · split at found
    · simp at found
    · obtain ⟨word, read, same⟩ := Option.map_eq_some_iff.1 found
      obtain ⟨rfl, _⟩ := Prod.mk.inj same
      exact NumberWord.value_le read small

theorem refine_part_le (classifier : Classifier) (sectors : List Text) :
    (refine classifier sectors).part ≤ wordLimit := by
  apply Refinement.run_keeps classifier (P := fun r => r.part ≤ wordLimit)
  · intro r r' small stepped
    cases stepped with
    | drop head => exact small
    | consume head nonempty opens consumed => exact consume?_le consumed small
    | join head nonempty opens lone follows settled => exact small
    | settle head nonempty opens kept apart => exact small
  · exact Nat.zero_le _

theorem Refinement.undated_run {lexicon : Lexicon} {sectors : List Text}
    (dateless : (run lexicon.classify ⟨[], sectors, false, 0, {}⟩).findings.year = none) :
    ∀ s ∈ (run lexicon.classify ⟨[], sectors, false, 0, {}⟩).done, yearOf? s = none := by
  refine (run_keeps lexicon.classify
    (P := fun r => Normal r ∧ (r.findings.year = none → ∀ s ∈ r.done, yearOf? s = none))
    ?_ ⟨normal_start sectors, by simp⟩).2 dateless
  rintro r r' ⟨normal, undated⟩ stepped
  refine ⟨normal_stepped normal stepped, ?_⟩
  cases stepped with
  | drop head => exact undated
  | consume head nonempty opens consumed => exact undated
  | @join s sector last rest after done head nonempty opens lone follows settled =>
    intro none t member
    -- a year needs digits, and capitals that are joined have none
    have capitals := (normal_join after normal lone follows settled).last (last ++ sector) (by simp)
    simp only [follows, if_true] at capitals
    rcases List.mem_append.1 member with earlier | joined
    · exact undated none t (by simp [settled, earlier])
    · obtain rfl := List.mem_singleton.1 joined
      exact yearOf?_of_capitals capitals
  | settle head nonempty opens kept apart =>
    intro none t member
    simp only [settle, Lexicon.classify_year, Option.or_eq_none_iff] at none
    rcases List.mem_append.1 member with earlier | here
    · exact undated none.2 t earlier
    · obtain rfl := List.mem_singleton.1 here
      exact none.1

theorem refine_undated {lexicon : Lexicon} {sectors : List Text}
    (dateless : (refine lexicon.classify sectors).year = -1) :
    ∀ s ∈ (refine lexicon.classify sectors).sectors, yearOf? s = none := by
  have bounds := Lexicon.year_run_bounds lexicon sectors
  have undated := @Refinement.undated_run lexicon sectors
  simp only [refine] at dateless ⊢
  generalize Refinement.run lexicon.classify ⟨[], sectors, false, 0, {}⟩ = r at *
  have none : r.findings.year = none := by
    cases told : r.findings.year with
    | none => rfl
    | some year =>
      have := bounds year told
      simp only [Refinement.result, told, Option.getD_some] at dateless
      omega
  obtain ⟨n, taken⟩ := Refinement.result_sectors_take r
  intro s member
  rw [taken] at member
  exact undated none s (List.mem_of_mem_take member)

theorem refine_append {classifier : Classifier} (alone : classifier.Local) {more : List Text}
    (apart : StartsApart more) (sectors : List Text) :
    refine classifier (sectors ++ more) =
      (((Refinement.run classifier ⟨[], sectors, false, 0, {}⟩).before more).run
        classifier).result := by
  rw [← Refinement.run_before alone apart]
  rfl

end MediaNaming
