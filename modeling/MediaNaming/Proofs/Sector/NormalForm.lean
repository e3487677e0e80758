import MediaNaming.Proofs.Sector.Verdict
import Mathlib.Data.List.TakeWhile

/-
Refined sectors are in normal form, whatever the classifier: each is formed, and no two lone
capitals are neighbours. The invariant of a run says so of the settled sectors and adds what the
last of them looks like, since that one may still grow.
-/
namespace MediaNaming

theorem isLoneCapital_iff {s : Text} : isLoneCapital s = true ↔ ∃ c, s = [c] ∧ isUppercase c := by
  cases s with
  | nil => simp [isLoneCapital]
  | cons c s => cases s <;> simp [isLoneCapital]

theorem splitNumbered?_of_head {c : Char} {s : Text} (head : isDecimal c = false) :
    splitNumbered? (c :: s) = none := by
  simp [splitNumbered?, head]

theorem splitNumbered?_of_decimal {s : Text} (digits : ∀ c ∈ s, isDecimal c = true) :
    splitNumbered? s = none := by
  have all : s.dropWhile isDecimal = [] := List.dropWhile_eq_nil_iff.2 digits
  simp [splitNumbered?, all]

theorem splitNumbered?_decimal {s digits word : Text}
    (found : splitNumbered? s = some (digits, word)) :
    digits ≠ [] ∧ ∀ c ∈ digits, isDecimal c = true := by
  simp only [splitNumbered?] at found
  split at found
  · rename_i d rest c tail lead _
    split at found
    · simp only [Option.some.injEq, Prod.mk.injEq] at found
      rw [← found.1, ← lead]
      exact ⟨by simp [lead], fun c member => List.mem_takeWhile_imp member⟩
    · simp at found
  · simp at found

theorem splitNumbered?_capitalize {s : Text} (unsplit : splitNumbered? s = none) :
    splitNumbered? s.capitalize = none := by
  cases s with
  | nil => rfl
  | cons c s =>
    by_cases small : isLowercase c = true
    · obtain ⟨d, t, cut, digit⟩ := isDecimal_upper small
      simp only [Text.capitalize, small, if_true, cut, List.cons_append]
      exact splitNumbered?_of_head digit
    · simpa [Text.capitalize, small] using unsplit

theorem capitalize_of_decimal {s : Text} (digits : ∀ c ∈ s, isDecimal c = true) :
    s.capitalize = s := by
  cases s with
  | nil => rfl
  | cons c s =>
    exact Text.capitalize_cons_of_not_lowercase s (isLowercase_of_decimal (digits c (by simp)))

theorem afterWord?_suffix {word t rest : Text} (found : Text.afterWord? word t = some rest) :
    ∃ lead, t = lead ++ rest := by
  induction word generalizing t with
  | nil => exact ⟨[], by simpa [Text.afterWord?] using found⟩
  | cons letter word ih =>
    cases t with
    | nil => simp [Text.afterWord?] at found
    | cons c t =>
      simp only [Text.afterWord?] at found
      split at found
      · obtain ⟨lead, rfl⟩ := ih found
        exact ⟨c :: lead, rfl⟩
      · simp at found

theorem ofSector?_numbered {s digits : Text}
    (found : PartMarker.ofSector? s = some (.numbered digits)) :
    ∃ c ∈ s.getLast?, isDecimal c = true := by
  simp only [PartMarker.ofSector?] at found
  split at found
  · simp at found
  · simp at found
  · rename_i c rest eq
    split at found
    · rename_i all
      obtain ⟨word, _, after⟩ := List.exists_of_findSome?_eq_some eq
      obtain ⟨lead, rfl⟩ := afterWord?_suffix after
      refine ⟨(c :: rest).getLast (by simp), ?_, ?_⟩
      · rw [List.getLast?_append_of_ne_nil _ (by simp), List.getLast?_eq_some_getLast]
        rfl
      · exact List.all_eq_true.1 all _ (List.getLast_mem _)
    · simp at found

namespace Refinement

/-- The settled sectors are formed and apart. Only capitals may follow a lone capital. -/
structure Normal (r : Refinement) : Prop where
  formed : ∀ s ∈ r.done, Formed s
  capitals : r.done.IsChain KeepsCapital
  last : ∀ s ∈ r.done.getLast?,
    if r.afterCapital then s.all isUppercase = true else isLoneCapital s = false

theorem formed_of_opened {s sector : Text} {rest after : List Text} {part : Nat} (nonempty : s ≠ [])
    (opens : opened s rest = (sector, after))
    (kept : PartMarker.consume? part sector after = none) : Formed sector := by
  have capital : sector ≠ [] ∧ splitNumbered? sector = none ∧ sector.capitalize = sector := by
    simp only [opened] at opens
    split at opens
    · rename_i digits word found
      obtain ⟨some_digit, all⟩ := splitNumbered?_decimal found
      cases opens
      rw [capitalize_of_decimal all]
      exact ⟨some_digit, splitNumbered?_of_decimal all, capitalize_of_decimal all⟩
    · rename_i unsplit
      cases opens
      exact ⟨by simpa using nonempty, splitNumbered?_capitalize unsplit,
        Text.capitalize_capitalize s⟩
  refine ⟨⟨capital.1, capital.2.1, ?_⟩, capital.2.2⟩
  intro digits numbered
  rw [capital.2.2] at numbered
  simp [PartMarker.consume?, numbered] at kept

theorem formed_join {last : Text} {c : Char} (formed : Formed last) (capital : isUppercase c)
    (capitals : last.all isUppercase = true) : Formed (last ++ [c]) := by
  have whole := Text.capitalize_append (t := [c]) formed.nonempty formed.capitalized
  refine ⟨⟨by simp, ?_, ?_⟩, whole⟩
  · obtain ⟨d, tail, rfl⟩ := List.exists_cons_of_ne_nil formed.nonempty
    exact splitNumbered?_of_head
      (isDecimal_of_uppercase (List.all_eq_true.1 capitals d (by simp)))
  · intro digits numbered
    rw [whole] at numbered
    obtain ⟨d, final, digit⟩ := ofSector?_numbered numbered
    obtain rfl : c = d := by simpa using final
    rw [isDecimal_of_uppercase capital] at digit
    contradiction

theorem isLoneCapital_append {s t : Text} (left : s ≠ []) (right : t ≠ []) :
    isLoneCapital (s ++ t) = false := by
  obtain ⟨c, s, rfl⟩ := List.exists_cons_of_ne_nil left
  obtain ⟨d, t, rfl⟩ := List.exists_cons_of_ne_nil right
  cases s <;> rfl

theorem normal_start (sectors : List Text) : Normal ⟨[], sectors, false, 0, {}⟩ where
  formed := by simp
  capitals := List.IsChain.nil
  last := by simp

theorem normal_join {r : Refinement} {done : List Text} {last sector : Text} (after : List Text)
    (normal : Normal r) (lone : isLoneCapital sector = true) (follows : r.afterCapital = true)
    (settled : r.done = done ++ [last]) :
    Normal { r with done := done ++ [last ++ sector], rest := after } := by
  obtain ⟨c, rfl, capital⟩ := isLoneCapital_iff.1 lone
  have formed := normal.formed last (by simp [settled])
  have capitals : last.all isUppercase = true := by
    simpa [follows] using normal.last last (by simp [settled])
  have grown := formed_join formed capital capitals
  have apart := normal.capitals
  rw [settled, List.isChain_append] at apart
  refine ⟨?_, ?_, ?_⟩
  · intro s member
    simp only [List.mem_append, List.mem_singleton] at member
    rcases member with earlier | rfl
    · exact normal.formed s (by simp [settled, earlier])
    · exact grown
  · rw [List.isChain_append]
    refine ⟨apart.1, List.IsChain.singleton _, ?_⟩
    intro s _ t member _
    obtain rfl : last ++ [c] = t := by simpa using member
    rw [grown.capitalized]
    exact isLoneCapital_append formed.nonempty (by simp)
  · intro s member
    obtain rfl : last ++ [c] = s := by simpa using member
    simp only [follows, if_true, List.all_append, capitals, Bool.true_and]
    simpa using capital

theorem normal_settle {classifier : Classifier} {r : Refinement} {sector : Text}
    {after : List Text} (normal : Normal r) (formed : Formed sector)
    (apart : isLoneCapital sector = true → r.afterCapital = true → r.done = []) :
    Normal (r.settle classifier sector after) := by
  refine ⟨?_, ?_, ?_⟩
  · intro s member
    simp only [settle, List.mem_append, List.mem_singleton] at member
    rcases member with earlier | rfl
    · exact normal.formed s earlier
    · exact formed
  · simp only [settle]
    rw [List.isChain_append]
    refine ⟨normal.capitals, List.IsChain.singleton _, ?_⟩
    intro s final t member lone
    obtain rfl : sector = t := by simpa using member
    rw [formed.capitalized]
    rw [(normal.formed s (List.mem_of_mem_getLast? final)).capitalized] at lone
    by_contra capital
    cases follows : r.afterCapital with
    | true => simp [apart (by simpa using capital) follows] at final
    | false =>
      have other := normal.last s final
      simp [follows, lone] at other
  · intro s member
    obtain rfl : sector = s := by simpa [settle] using member
    cases lone : isLoneCapital sector with
    | true =>
      obtain ⟨c, rfl, capital⟩ := isLoneCapital_iff.1 lone
      simpa [settle, lone] using capital
    | false => simp [settle, lone]

theorem normal_stepped {classifier : Classifier} {r r' : Refinement} (normal : Normal r)
    (stepped : Stepped classifier r r') : Normal r' := by
  cases stepped with
  | drop head => exact ⟨normal.formed, normal.capitals, normal.last⟩
  | consume head nonempty opens consumed =>
    exact ⟨normal.formed, normal.capitals, normal.last⟩
  | join head nonempty opens lone follows settled => exact normal_join _ normal lone follows settled
  | settle head nonempty opens kept apart =>
    exact normal_settle normal (formed_of_opened nonempty opens kept) apart

theorem normal_run (classifier : Classifier) (sectors : List Text) :
    Normal (run classifier ⟨[], sectors, false, 0, {}⟩) :=
  run_keeps _ (fun _ _ normal stepped => normal_stepped normal stepped) (normal_start sectors)

theorem result_sectors_take (r : Refinement) : ∃ n, r.result.sectors = r.done.take n := by
  simp only [result]
  split
  · exact ⟨_, rfl⟩
  · exact ⟨r.done.length, by simp⟩

theorem result_getElem? {r : Refinement} {i : Nat} {s : Text}
    (found : r.result.sectors[i]? = some s) :
    r.done[i]? = some s ∧ ∀ start ∈ r.findings.junkStart, i < start := by
  simp only [result] at found
  split at found
  · rename_i start marked
    rw [List.getElem?_take] at found
    split at found
    · exact ⟨found, by simpa [marked]⟩
    · simp at found
  · rename_i none
    exact ⟨found, by simp [none]⟩

end Refinement

theorem refine_formed (classifier : Classifier) (sectors : List Text) :
    ∀ s ∈ (refine classifier sectors).sectors, Formed s := by
  obtain ⟨n, taken⟩ := Refinement.result_sectors_take
    (Refinement.run classifier ⟨[], sectors, false, 0, {}⟩)
  intro s member
  rw [refine, taken] at member
  exact (Refinement.normal_run classifier sectors).formed s (List.mem_of_mem_take member)

theorem refine_capitals (classifier : Classifier) (sectors : List Text) :
    (refine classifier sectors).sectors.IsChain KeepsCapital := by
  obtain ⟨n, taken⟩ := Refinement.result_sectors_take
    (Refinement.run classifier ⟨[], sectors, false, 0, {}⟩)
  rw [refine, taken]
  exact (Refinement.normal_run classifier sectors).capitals.take n

end MediaNaming
