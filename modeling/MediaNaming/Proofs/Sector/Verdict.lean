import MediaNaming.Proofs.Sector.Steps
import MediaNaming.Proofs.Text.Splitting

/-
The verdict of a lexicon on one sector: whether junk begins there, and the year that it tells.
A run over settled sectors finds the first junk among them and the last year.
-/
namespace MediaNaming

/-- The text by which a sector is judged: in lowercase, without brackets around it. -/
def judged (s : Text) : Text := withoutBrackets s.lowercase

def yearOf? (s : Text) : Option Int := year? (judged s)

def opensBracket (s : Text) : Bool :=
  s.lowercase.head? = some '[' ∨ s.lowercase.head? = some '\x7b'

def Classifier.Local (classifier : Classifier) : Prop :=
  ∀ done s rest other f, classifier (done ++ s :: rest) done.length f =
    classifier (done ++ s :: other) done.length f

namespace Lexicon

def isJunk (lexicon : Lexicon) (index : Nat) (s : Text) : Bool :=
  match yearOf? s with
  | some _ => lexicon.cutsAtYear && decide (0 < index)
  | none => lexicon.isTag (judged s) || (opensBracket s && decide (0 < index))

theorem classify_local (lexicon : Lexicon) : lexicon.classify.Local := by
  intro done s rest other f
  simp [classify]

theorem classify_of_year {lexicon : Lexicon} {done rest : List Text} {s : Text} {f : Findings}
    {year : Int} (found : yearOf? s = some year) :
    lexicon.classify (done ++ s :: rest) done.length f =
      if lexicon.cutsAtYear ∧ 0 < done.length then (f.recordYear year).markJunk done.length
      else f.recordYear year := by
  simp only [yearOf?, judged] at found
  simp [classify, found]

theorem classify_of_no_year {lexicon : Lexicon} {done rest : List Text} {s : Text} {f : Findings}
    (none : yearOf? s = none) :
    (lexicon.classify (done ++ s :: rest) done.length f).year = f.year ∧
      (lexicon.classify (done ++ s :: rest) done.length f).junkStart =
        if lexicon.isTag (judged s) ∨ (opensBracket s ∧ 0 < done.length) then
          (f.markJunk done.length).junkStart
        else f.junkStart := by
  simp only [yearOf?, judged] at none
  simp only [classify, List.getElem?_append_right (Nat.le_refl _), Nat.sub_self,
    List.getElem?_cons_zero, none, judged, opensBracket, decide_eq_true_eq]
  constructor
  · split <;> split <;> rfl
  · split <;> split <;> rfl

theorem classify_year (lexicon : Lexicon) (done : List Text) (s : Text) (rest : List Text)
    (f : Findings) :
    (lexicon.classify (done ++ s :: rest) done.length f).year = (yearOf? s).or f.year := by
  cases found : yearOf? s with
  | some year =>
    rw [classify_of_year found]
    split <;> rfl
  | none => simpa using (classify_of_no_year found).1

theorem classify_junkStart (lexicon : Lexicon) (done : List Text) (s : Text) (rest : List Text)
    (f : Findings) :
    (lexicon.classify (done ++ s :: rest) done.length f).junkStart =
      if lexicon.isJunk done.length s then (f.markJunk done.length).junkStart else f.junkStart := by
  cases found : yearOf? s with
  | some year =>
    rw [classify_of_year found]
    simp only [isJunk, found, Bool.and_eq_true, decide_eq_true_eq]
    split <;> rfl
  | none => simp [(classify_of_no_year found).2, isJunk, found]

theorem junkStart_findingsFrom_lt {lexicon : Lexicon} {done sectors : List Text} {f : Findings}
    {start : Nat} (before : ∀ start ∈ f.junkStart, start < done.length + sectors.length)
    (found : (lexicon.classify.findingsFrom done sectors f).junkStart = some start) :
    start < done.length + sectors.length := by
  induction sectors generalizing done f with
  | nil => exact before start found
  | cons s sectors ih =>
    have bound : start < (done ++ [s.capitalize]).length + sectors.length := by
      refine ih ?_ found
      intro start marked
      rw [classify_junkStart] at marked
      simp only [List.length_append, List.length_cons, List.length_nil] at before ⊢
      split at marked
      · simp only [Findings.markJunk, Option.mem_def, Option.some.injEq] at marked
        cases earlier : f.junkStart with
        | none => simp only [earlier] at marked; omega
        | some first =>
          have := before first earlier
          simp only [earlier] at marked
          omega
      · have := before start marked
        omega
    simpa [Nat.add_comm, Nat.add_left_comm, Nat.add_assoc] using bound

theorem junkStart_findingsFrom_ne_none {lexicon : Lexicon} {done sectors : List Text}
    {f : Findings} (marked : f.junkStart ≠ none) :
    (lexicon.classify.findingsFrom done sectors f).junkStart ≠ none := by
  induction sectors generalizing done f with
  | nil => exact marked
  | cons s sectors ih =>
    apply ih
    rw [classify_junkStart]
    split
    · simp [Findings.markJunk]
    · exact marked

theorem junkStart_findingsFrom_eq_none (lexicon : Lexicon) (done sectors : List Text)
    {f : Findings} (fresh : f.junkStart = none) :
    (lexicon.classify.findingsFrom done sectors f).junkStart = none ↔
      ∀ i s, sectors[i]? = some s → lexicon.isJunk (done.length + i) s.capitalize = false := by
  induction sectors generalizing done f with
  | nil => simp [Classifier.findingsFrom, fresh]
  | cons s sectors ih =>
    have first := classify_junkStart lexicon done s.capitalize sectors f
    simp only [Classifier.findingsFrom]
    constructor
    · intro clean i t at_i
      cases junk : lexicon.isJunk done.length s.capitalize with
      | true =>
        rw [junk, if_pos rfl] at first
        exact absurd clean (junkStart_findingsFrom_ne_none (by simp [first, Findings.markJunk]))
      | false =>
        rw [junk, if_neg Bool.false_ne_true] at first
        cases i with
        | zero =>
          obtain rfl : s = t := by simpa using at_i
          exact junk
        | succ i =>
          have later := (ih _ (first.trans fresh)).1 clean i t (by simpa using at_i)
          simpa [Nat.add_comm, Nat.add_left_comm] using later
    · intro clean
      have junk := clean 0 s (by simp)
      rw [Nat.add_zero] at junk
      rw [junk, if_neg Bool.false_ne_true] at first
      apply (ih _ (first.trans fresh)).2
      intro i t at_i
      have later := clean (i + 1) t (by simpa using at_i)
      simpa [Nat.add_comm, Nat.add_left_comm] using later

theorem year_findingsFrom (lexicon : Lexicon) (done sectors : List Text) (f : Findings) :
    (lexicon.classify.findingsFrom done sectors f).year =
      ((sectors.filterMap fun s => yearOf? s.capitalize).getLast?).or f.year := by
  induction sectors generalizing done f with
  | nil => simp [Classifier.findingsFrom]
  | cons s sectors ih =>
    simp only [Classifier.findingsFrom, ih, classify_year, List.filterMap_cons]
    cases found : yearOf? s.capitalize with
    | none => simp
    | some year =>
      simp only [List.getLast?_cons]
      cases (sectors.filterMap fun s => yearOf? s.capitalize).getLast? <;> simp

theorem year?_bounds {t : Text} {year : Int} (found : year? t = some year) :
    1900 ≤ year ∧ year ≤ 2099 := by
  simp only [year?] at found
  split at found
  · rename_i shape
    obtain ⟨_, _, early, late⟩ := shape
    cases found
    omega
  · simp at found

theorem year_run_bounds (lexicon : Lexicon) (sectors : List Text) :
    ∀ year ∈ (Refinement.run lexicon.classify ⟨[], sectors, false, 0, {}⟩).findings.year,
      1900 ≤ year ∧ year ≤ 2099 := by
  apply Refinement.run_keeps lexicon.classify
    (P := fun r => ∀ year ∈ r.findings.year, 1900 ≤ year ∧ year ≤ 2099)
  · intro r r' bounded stepped
    cases stepped with
    | settle head nonempty opens kept apart =>
      intro year here
      simp only [Refinement.settle, classify_year, Option.mem_def, Option.or_eq_some_iff] at here
      rcases here with told | ⟨_, earlier⟩
      · exact year?_bounds told
      · exact bounded year earlier
    | drop head => exact bounded
    | consume head nonempty opens consumed => exact bounded
    | join head nonempty opens lone follows settled => exact bounded
  · simp

theorem refine_year (lexicon : Lexicon) (sectors : List Text) :
    (refine lexicon.classify sectors).year = -1 ∨
      (1900 ≤ (refine lexicon.classify sectors).year ∧
        (refine lexicon.classify sectors).year ≤ 2099) := by
  have bounded := year_run_bounds lexicon sectors
  simp only [refine, Refinement.result]
  cases told : (Refinement.run lexicon.classify ⟨[], sectors, false, 0, {}⟩).findings.year with
  | none => exact Or.inl rfl
  | some year => exact Or.inr (bounded year told)

end Lexicon

theorem year?_digits {t : Text} {year : Int} (found : year? t = some year) :
    t.length = 4 ∧ ∀ c ∈ t, c.isDigit = true := by
  simp only [year?] at found
  split at found
  · rename_i shape
    exact ⟨shape.1, List.all_eq_true.1 shape.2.1⟩
  · simp at found

/-- A year is no tag, unless a tag of the lexicon is a year. -/
theorem isTag_of_year {lexicon : Lexicon} (tags : ∀ tag ∈ lexicon.tags, year? tag = none)
    {s : Text} {year : Int} (found : yearOf? s = some year) :
    lexicon.isTag (judged s) = false := by
  have digits := (year?_digits found).2
  have hyphen : '-' ∉ judged s := by
    intro member
    simpa using digits '-' member
  have listed : judged s ∉ lexicon.tags := by
    intro member
    have := tags _ member
    rw [yearOf?, this] at found
    simp at found
  simp [Lexicon.isTag, Text.splitFirst?_eq_none hyphen, listed]

theorem isJunk_of_isTag {lexicon : Lexicon} (tags : ∀ tag ∈ lexicon.tags, year? tag = none)
    {s : Text} (tag : lexicon.isTag (judged s) = true) (index : Nat) :
    lexicon.isJunk index s = true := by
  cases found : yearOf? s with
  | some year =>
    rw [isTag_of_year tags found] at tag
    contradiction
  | none => simp [Lexicon.isJunk, found, tag]

theorem default_tags_no_year :
    ∀ tag ∈ Lexicon.resolutionTags ++ Lexicon.releaseTags, year? tag = none := by
  decide

end MediaNaming
