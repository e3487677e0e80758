import MediaNaming.Proofs.Sector.Survivors

/-
Refining twice. A second refinement can still consume a bare marker whose number only came next
to it in the first one, and cut at a tag that only joined capitals spell. These are the only
ways in which it changes anything: refined sectors are kept exactly when they are steady.
-/
namespace MediaNaming

structure Lexicon.Steady (lexicon : Lexicon) (sectors : List Text) : Prop where
  markers : sectors.IsChain KeepsMarker
  tags : ∀ s ∈ sectors, lexicon.isTag (judged s) = false

instance (lexicon : Lexicon) (sectors : List Text) : Decidable (lexicon.Steady sectors) :=
  decidable_of_iff (sectors.IsChain KeepsMarker ∧ ∀ s ∈ sectors, lexicon.isTag (judged s) = false)
    ⟨fun ⟨markers, tags⟩ => ⟨markers, tags⟩, fun steady => ⟨steady.markers, steady.tags⟩⟩

theorem yearOf?_of_capitals {s : Text} (capitals : s.all isUppercase = true) : yearOf? s = none := by
  have letters := lowercase_of_capitals capitals
  cases found : yearOf? s with
  | some year =>
    obtain ⟨four, digits⟩ := year?_digits found
    obtain ⟨c, tail, text⟩ := List.exists_cons_of_length_eq_add_one four
    have member : c ∈ judged s := by simp [text]
    have digit := digits c member
    rw [(letters c (Text.mem_trimEnds member)).1] at digit
    contradiction
  | none => rfl

theorem isJunk_of_capitals {lexicon : Lexicon} {s : Text} (capitals : s.all isUppercase = true)
    (index : Nat) : lexicon.isJunk index s = lexicon.isTag (judged s) := by
  have letters := lowercase_of_capitals capitals
  have year := yearOf?_of_capitals capitals
  have bracket : opensBracket s = false := by
    simp only [opensBracket, decide_eq_false_iff_not, not_or]
    constructor <;> intro head
    · have := (letters _ (List.mem_of_mem_head? head)).2
      revert this
      decide
    · have := (letters _ (List.mem_of_mem_head? head)).2
      revert this
      decide
  simp [Lexicon.isJunk, year, bracket]

namespace Refinement

/-- Sectors before the junk are no junk where they stand, unless they are joined capitals. -/
def Judged (lexicon : Lexicon) (r : Refinement) : Prop :=
  ∀ i s, r.done[i]? = some s → (∀ start ∈ r.findings.junkStart, i < start) →
    s.all isUppercase = true ∨ lexicon.isJunk i s = false

theorem judged_run (lexicon : Lexicon) (sectors : List Text) :
    (run lexicon.classify ⟨[], sectors, false, 0, {}⟩).Judged lexicon := by
  intro i s at_i before
  rw [lexicon.isJunk_eq_marks]
  exact (passed_run lexicon.classify_judgesBy sectors i s at_i before).imp_left And.right

theorem keepsMarker_of_kept {part : Nat} {s : Text} {rest : List Text} (capital : s.capitalize = s)
    (kept : PartMarker.consume? part s rest = none) :
    ∀ next ∈ rest.head?, next ≠ [] → KeepsMarker s next := by
  intro next head full bare
  obtain ⟨later, rfl⟩ : ∃ later, rest = next :: later := by
    cases rest with
    | nil => simp at head
    | cons first later => exact ⟨later, by simpa using head⟩
  rw [capital] at bare
  simpa [PartMarker.consume?, bare, full] using kept

/-- A run over formed sectors never gains one, and if it loses none, then no marker among them
    stood before a number. -/
theorem run_length_le (classifier : Classifier) {r : Refinement} (formed : ∀ s ∈ r.rest, Formed s) :
    (r.run classifier).done.length ≤ r.done.length + r.rest.length ∧
      ((r.run classifier).done.length = r.done.length + r.rest.length →
        r.rest.IsChain KeepsMarker) := by
  fun_induction run classifier r with
  | case1 r done => simp [done]
  | case2 r more ih =>
    have once := stepped classifier r more
    generalize r.step classifier = next at once ih
    cases once with
    | drop head => exact absurd rfl (formed [] (by simp [head])).nonempty
    | @consume s sector rest after later part head nonempty opens consumed =>
      rw [opened_of_formed rest (formed s (by simp [head]))] at opens
      cases opens
      obtain ⟨shorter, among⟩ := consume?_rest consumed
      have bound := (ih fun t member => formed t (by simp [head, among t member])).1
      simp only [head, List.length_cons] at bound ⊢
      exact ⟨by omega, fun equal => by omega⟩
    | @join s sector last rest after done head nonempty opens lone follows settled =>
      rw [opened_of_formed rest (formed s (by simp [head]))] at opens
      cases opens
      have bound := (ih fun t member => formed t (by simp [head, show t ∈ rest from member])).1
      simp only [head, settled, List.length_cons, List.length_append, List.length_nil] at bound ⊢
      exact ⟨by omega, fun equal => by omega⟩
    | @settle s sector rest after head nonempty opens kept apart =>
      have first := formed s (by simp [head])
      rw [opened_of_formed rest first] at opens
      cases opens
      obtain ⟨bound, chain⟩ :=
        ih fun t member => formed t (by simp [head, show t ∈ rest from member])
      simp only [settle_done, settle_rest, List.length_append, List.length_cons,
        List.length_nil] at bound chain
      rw [head, List.length_cons]
      refine ⟨by omega, fun equal => List.isChain_cons.2 ⟨?_, chain (by omega)⟩⟩
      intro t member
      exact keepsMarker_of_kept first.capitalized kept t member
        (formed t (by simp [head, List.mem_of_mem_head? member])).nonempty

end Refinement

theorem map_capitalize_of_formed {sectors : List Text} (formed : ∀ s ∈ sectors, Formed s) :
    sectors.map Text.capitalize = sectors := by
  conv => rhs; rw [← List.map_id sectors]
  exact List.map_congr_left fun s member => (formed s member).capitalized

theorem refine_of_settled {lexicon : Lexicon} {sectors : List Text}
    (formed : ∀ s ∈ sectors, Formed s) (markers : sectors.IsChain KeepsMarker)
    (capitals : sectors.IsChain KeepsCapital) :
    (refine lexicon.classify sectors).sectors = sectors ↔
      ∀ i s, sectors[i]? = some s → lexicon.isJunk i s = false := by
  have settled : Settled sectors := ⟨fun s member => (formed s member).toWhole, markers, capitals⟩
  obtain ⟨done, _, found⟩ := Refinement.run_settled lexicon.classify
    (r := ⟨[], sectors, false, 0, {}⟩) settled (fun _ _ _ => rfl)
  have clean := Lexicon.junkStart_findingsFrom_eq_none lexicon [] sectors
    (f := {}) rfl
  have same (i : Nat) (s : Text) (at_i : sectors[i]? = some s) : s.capitalize = s :=
    (formed s (List.mem_of_getElem? at_i)).capitalized
  have judged : (∀ i s, sectors[i]? = some s → lexicon.isJunk i s = false) ↔
      (lexicon.classify.findingsFrom [] sectors {}).junkStart = none := by
    rw [clean]
    constructor <;> intro no_junk i s at_i
    · simpa [same i s at_i] using no_junk i s at_i
    · simpa [same i s at_i] using no_junk i s at_i
  rw [judged]
  simp only [refine, Refinement.result, done, found, List.nil_append,
    map_capitalize_of_formed formed]
  constructor
  · intro kept
    by_contra marked
    obtain ⟨start, first⟩ := Option.ne_none_iff_exists'.1 marked
    have before := Lexicon.junkStart_findingsFrom_lt (by simp) first
    have shorter := congrArg List.length kept
    simp only [first, List.length_take, List.length_nil] at shorter before
    omega
  · intro none
    simp [none]

theorem refine_twice_iff {lexicon : Lexicon} (tags : ∀ tag ∈ lexicon.tags, year? tag = none)
    (sectors : List Text) :
    (refine lexicon.classify (refine lexicon.classify sectors).sectors).sectors =
        (refine lexicon.classify sectors).sectors ↔
      lexicon.Steady (refine lexicon.classify sectors).sectors := by
  have formed := refine_formed lexicon.classify sectors
  have capitals := refine_capitals lexicon.classify sectors
  have judged := Refinement.judged_run lexicon sectors
  generalize once : (refine lexicon.classify sectors).sectors = refined at *
  constructor
  · intro kept
    have bound := Refinement.run_length_le lexicon.classify
      (r := ⟨[], refined, false, 0, {}⟩) formed
    obtain ⟨n, taken⟩ := Refinement.result_sectors_take
      (Refinement.run lexicon.classify ⟨[], refined, false, 0, {}⟩)
    have length := congrArg List.length (taken.symm.trans kept)
    simp only [List.length_take, List.length_nil] at length bound
    have markers := bound.2 (by omega)
    refine ⟨markers, fun s member => ?_⟩
    have clean := (refine_of_settled formed markers capitals).1 kept
    obtain ⟨i, at_i⟩ := List.getElem?_of_mem member
    by_contra tag
    have junk := isJunk_of_isTag tags (by simpa using tag) i
    rw [clean i s at_i] at junk
    contradiction
  · intro steady
    apply (refine_of_settled formed steady.markers capitals).2
    intro i s at_i
    obtain ⟨settled, before⟩ := Refinement.result_getElem? (once ▸ at_i)
    rcases judged i s settled before with all | clean
    · rw [isJunk_of_capitals all, steady.tags s (List.mem_of_getElem? at_i)]
    · exact clean

theorem refined_kept_iff_steady (sectors : List Text) :
    ((refine Lexicon.movies.classify (refine Lexicon.movies.classify sectors).sectors).sectors =
        (refine Lexicon.movies.classify sectors).sectors ↔
      Lexicon.movies.Steady (refine Lexicon.movies.classify sectors).sectors) ∧
    ((refine Lexicon.episodes.classify (refine Lexicon.episodes.classify sectors).sectors).sectors =
        (refine Lexicon.episodes.classify sectors).sectors ↔
      Lexicon.episodes.Steady (refine Lexicon.episodes.classify sectors).sectors) :=
  ⟨refine_twice_iff default_tags_no_year sectors, refine_twice_iff default_tags_no_year sectors⟩

theorem refined_marker_consumes_cut_number :
    (refine Lexicon.movies.classify
        (refine Lexicon.movies.classify ["Part".toList, "5-foo".toList]).sectors).sectors ≠
      (refine Lexicon.movies.classify ["Part".toList, "5-foo".toList]).sectors ∧
    (refine Lexicon.episodes.classify
        (refine Lexicon.episodes.classify ["Part".toList, "5-foo".toList]).sectors).sectors ≠
      (refine Lexicon.episodes.classify ["Part".toList, "5-foo".toList]).sectors := by
  decide +kernel

end MediaNaming
