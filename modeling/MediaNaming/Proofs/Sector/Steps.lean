import MediaNaming.Proofs.Text.Capitals
import MediaNaming.Sector.Refinement
import Mathlib.Data.List.Chain
import Mathlib.Data.List.TakeWhile

/-
What one step of refinement does, and what follows for a whole run. A sector that refinement
takes as it is once it is capitalized is whole, and neighbours that it neither joins nor
consumes stand apart; such sectors are settled one by one.
-/
namespace MediaNaming

structure Whole (s : Text) : Prop where
  nonempty : s ≠ []
  unsplit : splitNumbered? s = none
  unnumbered : ∀ digits, PartMarker.ofSector? s.capitalize ≠ some (.numbered digits)

structure Formed (s : Text) : Prop extends Whole s where
  capitalized : s.capitalize = s

theorem formed_iff {s : Text} : Formed s ↔ s ≠ [] ∧ splitNumbered? s = none ∧
    (∀ m ∈ PartMarker.ofSector? s.capitalize, m = .bare) ∧ s.capitalize = s := by
  constructor
  · intro formed
    refine ⟨formed.nonempty, formed.unsplit, ?_, formed.capitalized⟩
    intro m found
    cases m with
    | bare => rfl
    | numbered digits => exact absurd found (formed.unnumbered digits)
  · rintro ⟨nonempty, unsplit, bare, capitalized⟩
    refine ⟨⟨nonempty, unsplit, ?_⟩, capitalized⟩
    intro digits numbered
    simp [numbered] at bare

instance (s : Text) : Decidable (Formed s) := decidable_of_iff _ formed_iff.symm

def KeepsMarker (s t : Text) : Prop :=
  PartMarker.ofSector? s.capitalize = some .bare → NumberWord.ofSector? t = none

instance : DecidableRel KeepsMarker := fun s t =>
  inferInstanceAs (Decidable (PartMarker.ofSector? s.capitalize = some .bare →
    NumberWord.ofSector? t = none))

def KeepsCapital (s t : Text) : Prop :=
  isLoneCapital s.capitalize = true → isLoneCapital t.capitalize = false

instance : DecidableRel KeepsCapital := fun s t =>
  inferInstanceAs (Decidable (isLoneCapital s.capitalize = true →
    isLoneCapital t.capitalize = false))

structure Settled (sectors : List Text) : Prop where
  whole : ∀ s ∈ sectors, Whole s
  markers : sectors.IsChain KeepsMarker
  capitals : sectors.IsChain KeepsCapital

def Classifier.findingsFrom (classifier : Classifier) (done : List Text) :
    List Text → Findings → Findings
  | [], findings => findings
  | s :: rest, findings =>
    classifier.findingsFrom (done ++ [s.capitalize]) rest
      (classifier (done ++ s.capitalize :: rest) done.length findings)

theorem Settled.tail {s : Text} {sectors : List Text} (settled : Settled (s :: sectors)) :
    Settled sectors where
  whole := fun t member => settled.whole t (List.mem_cons_of_mem s member)
  markers := settled.markers.tail
  capitals := settled.capitals.tail

namespace Refinement

inductive Stepped (classifier : Classifier) (r : Refinement) : Refinement → Prop
  | drop {rest : List Text} (head : r.rest = [] :: rest) :
      Stepped classifier r { r with rest := rest }
  | consume {s sector : Text} {rest after later : List Text} {part : Nat}
      (head : r.rest = s :: rest) (nonempty : s ≠ []) (opens : opened s rest = (sector, after))
      (consumed : PartMarker.consume? r.part sector after = some (part, later)) :
      Stepped classifier r { r with part := part, rest := later }
  | join {s sector last : Text} {rest after done : List Text}
      (head : r.rest = s :: rest) (nonempty : s ≠ []) (opens : opened s rest = (sector, after))
      (lone : isLoneCapital sector = true) (follows : r.afterCapital = true)
      (settled : r.done = done ++ [last]) :
      Stepped classifier r { r with done := done ++ [last ++ sector], rest := after }
  | settle {s sector : Text} {rest after : List Text}
      (head : r.rest = s :: rest) (nonempty : s ≠ []) (opens : opened s rest = (sector, after))
      (kept : PartMarker.consume? r.part sector after = none)
      (apart : isLoneCapital sector = true → r.afterCapital = true → r.done = []) :
      Stepped classifier r (r.settle classifier sector after)

theorem joinCapital?_eq_some {sector : Text} {rest : List Text} {r joined : Refinement}
    (found : r.joinCapital? sector rest = some joined) :
    isLoneCapital sector = true ∧ r.afterCapital = true ∧ ∃ done last,
      r.done = done ++ [last] ∧
      joined = { r with done := done ++ [last ++ sector], rest := rest } := by
  simp only [joinCapital?] at found
  split at found
  · rename_i both
    obtain ⟨last, final, rfl⟩ := Option.map_eq_some_iff.1 found
    have done := List.dropLast_append_getLast? last final
    exact ⟨both.1, both.2, r.done.dropLast, last, done.symm, rfl⟩
  · simp at found

theorem joinCapital?_eq_none {sector : Text} {rest : List Text} {r : Refinement}
    (apart : r.joinCapital? sector rest = none) :
    isLoneCapital sector = true → r.afterCapital = true → r.done = [] := by
  intro lone follows
  simpa [joinCapital?, lone, follows] using apart

theorem stepped (classifier : Classifier) (r : Refinement) (more : r.rest ≠ []) :
    Stepped classifier r (r.step classifier) := by
  simp only [step]
  split
  · contradiction
  · rename_i rest head
    exact .drop head
  · rename_i c tail rest head
    rcases opens : opened (c :: tail) rest with ⟨sector, after⟩
    simp only
    split
    · rename_i part later consumed
      exact .consume head (List.cons_ne_nil c tail) opens consumed
    · rename_i kept
      cases joined : r.joinCapital? sector after with
      | some s =>
        obtain ⟨lone, follows, done, last, settled, rfl⟩ := joinCapital?_eq_some joined
        exact .join head (List.cons_ne_nil c tail) opens lone follows settled
      | none =>
        exact .settle head (List.cons_ne_nil c tail) opens kept (joinCapital?_eq_none joined)

theorem run_keeps (classifier : Classifier) {P : Refinement → Prop}
    (keeps : ∀ r r', P r → Stepped classifier r r' → P r') {r : Refinement} (start : P r) :
    P (r.run classifier) := by
  fun_induction run classifier r with
  | case1 r done => exact start
  | case2 r more ih => exact ih (keeps r _ start (stepped classifier r more))

theorem run_rest (classifier : Classifier) (r : Refinement) : (r.run classifier).rest = [] := by
  fun_induction run classifier r with
  | case1 r done => exact done
  | case2 r more ih => exact ih

theorem run_done {classifier : Classifier} {r : Refinement} (done : r.rest = []) :
    r.run classifier = r := by
  rw [run, if_pos done]

theorem run_step {classifier : Classifier} {r : Refinement} (more : r.rest ≠ []) :
    r.run classifier = (r.step classifier).run classifier := by
  rw [run, if_neg more]

theorem opened_of_unsplit {s : Text} (rest : List Text) (unsplit : splitNumbered? s = none) :
    opened s rest = (s.capitalize, rest) := by
  simp [opened, unsplit]

theorem opened_of_formed {s : Text} (rest : List Text) (formed : Formed s) :
    opened s rest = (s, rest) := by
  rw [opened_of_unsplit rest formed.unsplit, formed.capitalized]

theorem settle_done (classifier : Classifier) (sector : Text) (rest : List Text) (r : Refinement) :
    (r.settle classifier sector rest).done = r.done ++ [sector] := rfl

theorem consume?_eq_none {part : Nat} {s : Text} {rest : List Text} (whole : Whole s)
    (nonempty : ∀ next ∈ rest.head?, next ≠ [])
    (markers : ∀ next ∈ rest.head?, KeepsMarker s next) :
    PartMarker.consume? part s.capitalize rest = none := by
  simp only [PartMarker.consume?]
  split
  · rfl
  · rename_i digits numbered
    exact absurd numbered (whole.unnumbered digits)
  · rename_i bare
    cases rest with
    | nil => rfl
    | cons next later =>
      have full : next ≠ [] := nonempty next rfl
      have word := markers next rfl bare
      simp [full, word]

theorem consume?_rest {part n : Nat} {sector : Text} {rest later : List Text}
    (found : PartMarker.consume? part sector rest = some (n, later)) :
    later.length ≤ rest.length ∧ ∀ s ∈ later, s ∈ rest := by
  simp only [PartMarker.consume?] at found
  split at found
  · simp at found
  · simp only [Option.some.injEq, Prod.mk.injEq] at found
    exact found.2 ▸ ⟨Nat.le_refl _, fun s member => member⟩
  · split at found
    · simp at found
    · rename_i next more eq
      simp only [Option.map_eq_some_iff, Prod.mk.injEq] at found
      obtain ⟨_, _, _, rfl⟩ := found
      have tail : more <:+ rest :=
        (List.suffix_cons next more).trans (eq ▸ List.dropWhile_suffix _)
      exact ⟨tail.length_le, fun s member => tail.subset member⟩

theorem step_settle {classifier : Classifier} {r : Refinement} {s : Text} {rest : List Text}
    (head : r.rest = s :: rest) (whole : Whole s)
    (kept : PartMarker.consume? r.part s.capitalize rest = none)
    (apart : isLoneCapital s.capitalize = true → r.afterCapital = false) :
    r.step classifier = r.settle classifier s.capitalize rest := by
  obtain ⟨c, tail, rfl⟩ := List.exists_cons_of_ne_nil whole.nonempty
  have joins : r.joinCapital? (Text.capitalize (c :: tail)) rest = none := by
    simp only [joinCapital?]
    split
    · rename_i both
      simp [apart both.1] at both
    · rfl
  simp only [step, head, opened_of_unsplit rest whole.unsplit, kept, joins, Option.getD_none]

/-- Settled sectors are capitalized and classified, and nothing else happens to them. -/
theorem run_settled (classifier : Classifier) {r : Refinement} (settled : Settled r.rest)
    (first : ∀ s ∈ r.rest.head?, isLoneCapital s.capitalize = true → r.afterCapital = false) :
    (r.run classifier).done = r.done ++ r.rest.map Text.capitalize ∧
      (r.run classifier).part = r.part ∧
      (r.run classifier).findings = classifier.findingsFrom r.done r.rest r.findings := by
  induction sectors : r.rest generalizing r with
  | nil => simp [run_done sectors, Classifier.findingsFrom]
  | cons s rest ih =>
    rw [sectors] at settled first
    have tail := settled.tail
    have kept : PartMarker.consume? r.part s.capitalize rest = none := by
      apply consume?_eq_none (settled.whole s (by simp))
      · intro next member
        exact (tail.whole next (List.mem_of_mem_head? member)).nonempty
      · exact (List.isChain_cons.1 settled.markers).1
    rw [run_step (by simp [sectors]),
      step_settle sectors (settled.whole s (by simp)) kept (first s rfl)]
    have next := ih (r := r.settle classifier s.capitalize rest) tail
      (by
        intro t member lone
        have apart := (List.isChain_cons.1 settled.capitals).1 t member
        by_contra alone
        rw [apart (by simpa [settle] using alone)] at lone
        contradiction)
      rfl
    simpa [settle, Classifier.findingsFrom] using next

end Refinement
end MediaNaming
