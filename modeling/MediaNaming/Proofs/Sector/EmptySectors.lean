import MediaNaming.Proofs.Sector.Verdict
import MediaNaming.Proofs.Text.Splitting

/-
Empty sectors only separate. A run over the sectors and one over the sectors that are not empty
do the same in step, but for the steps that drop an empty one. So fragments that are spread over
a name, with any delimiters between them, are refined as if they were its sectors.
-/
namespace MediaNaming

def isFull (s : Text) : Bool := s != []

theorem isFull_iff {s : Text} : isFull s = true ↔ s ≠ [] := by simp [isFull]

theorem filter_full {s : Text} (full : s ≠ []) (rest : List Text) :
    (s :: rest).filter isFull = s :: rest.filter isFull :=
  List.filter_cons_of_pos (isFull_iff.2 full)

theorem dropWhile_full {s : Text} (full : s ≠ []) (rest : List Text) :
    (s :: rest).dropWhile (· == []) = s :: rest :=
  List.dropWhile_cons_of_neg (by simpa using full)

theorem dropWhile_filter (rest : List Text) : (rest.filter isFull).dropWhile (· == []) =
    (rest.dropWhile (· == [])).filter isFull := by
  induction rest with
  | nil => rfl
  | cons s rest ih =>
    by_cases empty : s = []
    · rw [empty, List.filter_cons_of_neg (by decide), ih]
      rfl
    · rw [filter_full empty, dropWhile_full empty, dropWhile_full empty, filter_full empty]

theorem consume?_filter (part : Nat) (sector : Text) (rest : List Text) :
    PartMarker.consume? part sector (rest.filter isFull) =
      (PartMarker.consume? part sector rest).map fun p => (p.1, p.2.filter isFull) := by
  simp only [PartMarker.consume?]
  split
  · rfl
  · rfl
  · rw [dropWhile_filter]
    cases eq : rest.dropWhile (· == []) with
    | nil => rfl
    | cons next later =>
      have full : next ≠ [] := by
        have kept := List.head?_dropWhile_not (fun s : Text => s == []) rest
        rw [eq, List.head?_cons] at kept
        exact beq_eq_false_iff_ne.1 (by simpa only [Bool.not_eq_true] using kept)
      rw [filter_full full]
      cases found : NumberWord.ofSector? next <;> simp [found]

namespace Refinement

def compact (r : Refinement) : Refinement := { r with rest := r.rest.filter isFull }

theorem opened_filter (s : Text) (rest : List Text) :
    opened s (rest.filter isFull) = ((opened s rest).1, (opened s rest).2.filter isFull) := by
  simp only [opened]
  split
  · rename_i digits word found
    have full : word ≠ [] := by
      rintro rfl
      simp only [splitNumbered?] at found
      split at found
      · split at found <;> simp at found
      · simp at found
    rw [filter_full full]
  · rfl

theorem joinCapital?_compact (sector : Text) (rest : List Text) (r : Refinement) :
    r.compact.joinCapital? sector (rest.filter isFull) =
      (r.joinCapital? sector rest).map compact := by
  unfold joinCapital?
  by_cases joins : isLoneCapital sector ∧ r.afterCapital
  · rw [if_pos joins, if_pos (show isLoneCapital sector ∧ r.compact.afterCapital from joins)]
    simp only [compact]
    cases r.done.getLast? <;> rfl
  · rw [if_neg joins, if_neg (show ¬(isLoneCapital sector ∧ r.compact.afterCapital) from joins)]
    rfl

theorem settle_compact {classifier : Classifier} (alone : classifier.Local) (sector : Text)
    (rest : List Text) (r : Refinement) :
    r.compact.settle classifier sector (rest.filter isFull) =
      (r.settle classifier sector rest).compact := by
  simp only [settle, compact, alone r.done sector (rest.filter isFull) rest]

theorem step_compact {classifier : Classifier} (alone : classifier.Local) {r : Refinement}
    {s : Text} {rest : List Text} (head : r.rest = s :: rest) (full : s ≠ []) :
    r.compact.step classifier = (r.step classifier).compact := by
  obtain ⟨c, tail, rfl⟩ := List.exists_cons_of_ne_nil full
  have heads : r.compact.rest = (c :: tail) :: rest.filter isFull := by
    rw [compact, head, filter_full full]
  rcases opens : opened (c :: tail) rest with ⟨sector, after⟩
  have opensToo := opened_filter (c :: tail) rest
  rw [opens] at opensToo
  have consumes := consume?_filter r.part sector after
  simp only [step, head, heads, opens, opensToo]
  rw [show r.compact.part = r.part from rfl, consumes]
  cases PartMarker.consume? r.part sector after with
  | some p => rfl
  | none =>
    simp only [Option.map_none, joinCapital?_compact, settle_compact alone]
    cases r.joinCapital? sector after <;> rfl

theorem run_compact {classifier : Classifier} (alone : classifier.Local) (r : Refinement) :
    r.compact.run classifier = r.run classifier := by
  fun_induction run classifier r with
  | case1 r done =>
    have same : r.compact = r := by
      obtain ⟨kept, rest, afterCapital, part, findings⟩ := r
      cases done
      rfl
    rw [same, run_done done]
  | case2 r more ih =>
    obtain ⟨s, rest, head⟩ := List.exists_cons_of_ne_nil more
    by_cases empty : s = []
    · have dropped : (r.step classifier).compact = r.compact := by
        simp [step, head, empty, compact, isFull]
      rw [← ih, dropped]
    · rw [← ih, ← step_compact alone head empty]
      exact run_step (by simp [compact, head, filter_full empty])

end Refinement

theorem refine_filter {classifier : Classifier} (alone : classifier.Local) (sectors : List Text) :
    refine classifier (sectors.filter isFull) = refine classifier sectors := by
  rw [refine, refine, ← Refinement.run_compact alone ⟨[], sectors, false, 0, {}⟩]
  rfl

/-- Fragments in order, with one delimiter or more from each to the next. -/
inductive Spread : List Text → Text → Prop
  | last (t : Text) : Spread [t] t
  | more {t name : Text} {fragments : List Text} (gap : Text) (apart : gap ≠ [])
      (delimiters : ∀ c ∈ gap, isDelimiter c = true) (spread : Spread fragments name) :
      Spread (t :: fragments) (t ++ (gap ++ name))

theorem sectorsOf_gap {gap : Text} (name : Text) (delimiters : ∀ c ∈ gap, isDelimiter c = true) :
    (sectorsOf (gap ++ name)).filter isFull = (sectorsOf name).filter isFull := by
  induction gap with
  | nil => rfl
  | cons c gap ih =>
    have rest := ih fun d member => delimiters d (by simp [member])
    rw [sectorsOf, List.cons_append, Text.pieces_stop (delimiters c (by simp)),
      List.filter_cons_of_neg (by decide)]
    exact rest

theorem Spread.sectors {fragments : List Text} {name : Text} (spread : Spread fragments name)
    (clean : ∀ t ∈ fragments, t ≠ [] ∧ ∀ c ∈ t, isDelimiter c = false) :
    (sectorsOf name).filter isFull = fragments := by
  induction spread with
  | last t =>
    obtain ⟨full, solid⟩ := clean t (by simp)
    rw [sectorsOf, Text.pieces_of_clean solid, filter_full full]
    rfl
  | @more t name fragments gap apart delimiters spread ih =>
    obtain ⟨full, solid⟩ := clean t (by simp)
    obtain ⟨c, gap, rfl⟩ := List.exists_cons_of_ne_nil apart
    have rest := sectorsOf_gap name fun d member => delimiters d (List.mem_cons_of_mem c member)
    rw [ih fun u member => clean u (by simp [member])] at rest
    rw [sectorsOf, List.cons_append, Text.pieces_append_stop (delimiters c (by simp)),
      Text.pieces_of_clean solid, List.singleton_append, filter_full full]
    exact congrArg (t :: ·) rest

theorem Spread.mem {fragments : List Text} {name : Text} (spread : Spread fragments name) {c : Char}
    (member : c ∈ name) : isDelimiter c = true ∨ ∃ t ∈ fragments, c ∈ t := by
  induction spread with
  | last t => exact Or.inr ⟨t, by simp, member⟩
  | @more t name fragments gap apart delimiters spread ih =>
    simp only [List.mem_append] at member
    rcases member with inside | delimiter | later
    · exact Or.inr ⟨t, by simp, inside⟩
    · exact Or.inl (delimiters c delimiter)
    · rcases ih later with delimiter | ⟨u, among, inside⟩
      · exact Or.inl delimiter
      · exact Or.inr ⟨u, by simp [among], inside⟩

end MediaNaming
