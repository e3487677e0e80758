import MediaNaming.Proofs.Sector.NormalForm

/-
Which refined sectors were judged as they stand. A sector is judged once, when it is settled; after
that only a lone capital can join it, and joined capitals are not judged again. So whatever survives
a verdict of its own is spelled by two capitals or more, and every word of capitals survives whose
first letter does.
-/
namespace MediaNaming

/-- Whether junk begins at a sector depends on its text and on whether it is the first, and it
    begins at the sectors that are marked. -/
def Classifier.JudgesBy (classifier : Classifier) (marks : Bool → Text → Bool) : Prop :=
  ∀ sectors index s f, sectors[index]? = some s →
    (classifier sectors index f).junkStart =
      if marks (index == 0) s then (f.markJunk index).junkStart else f.junkStart

def JoinedCapitals (s : Text) : Prop := 2 ≤ s.length ∧ s.all isUppercase = true

instance (s : Text) : Decidable (JoinedCapitals s) :=
  inferInstanceAs (Decidable (2 ≤ s.length ∧ s.all isUppercase = true))

namespace Lexicon

def marks (lexicon : Lexicon) (first : Bool) (s : Text) : Bool :=
  lexicon.isJunk (if first then 0 else 1) s

theorem isJunk_eq_marks (lexicon : Lexicon) (index : Nat) (s : Text) :
    lexicon.isJunk index s = lexicon.marks (index == 0) s := by
  cases index <;> simp [marks, isJunk]

theorem classify_judgesBy (lexicon : Lexicon) : lexicon.classify.JudgesBy lexicon.marks := by
  intro sectors index s f here
  obtain ⟨bound, same⟩ := List.getElem?_eq_some_iff.1 here
  have split : sectors = sectors.take index ++ s :: sectors.drop (index + 1) := by
    rw [← same, List.getElem_cons_drop, List.take_append_drop]
  have place : (sectors.take index).length = index := by simp; omega
  have judged := classify_junkStart lexicon (sectors.take index) s (sectors.drop (index + 1)) f
  rwa [← split, place, isJunk_eq_marks] at judged

end Lexicon

theorem getElem?_snoc {sectors : List Text} {last s : Text} {i : Nat}
    (found : (sectors ++ [last])[i]? = some s) :
    (i < sectors.length ∧ sectors[i]? = some s) ∨ (i = sectors.length ∧ last = s) := by
  obtain ⟨bound, same⟩ := List.getElem?_eq_some_iff.1 found
  by_cases earlier : i < sectors.length
  · rw [List.getElem_append_left earlier] at same
    exact Or.inl ⟨earlier, List.getElem?_eq_some_iff.2 ⟨earlier, same⟩⟩
  · have here : i = sectors.length := by simp at bound; omega
    subst here
    exact Or.inr ⟨rfl, by simpa using same⟩

theorem ofSector?_single (c : Char) : PartMarker.ofSector? [c] = none := by
  simp [PartMarker.ofSector?, PartMarker.words, Text.afterWord?]

namespace Refinement

variable {classifier : Classifier} {marks : Bool → Text → Bool} {r r' : Refinement}

/-- A settled sector before the junk is not marked where it stands, unless capitals joined it. -/
def Passed (marks : Bool → Text → Bool) (r : Refinement) : Prop :=
  ∀ i s, r.done[i]? = some s → (∀ start ∈ r.findings.junkStart, i < start) →
    JoinedCapitals s ∨ marks (i == 0) s = false

theorem passed_join {done after : List Text} {last sector : Text} (passed : r.Passed marks)
    (normal : Normal r) (lone : isLoneCapital sector = true) (follows : r.afterCapital = true)
    (settled : r.done = done ++ [last]) :
    Passed marks { r with done := done ++ [last ++ sector], rest := after } := by
  intro i s at_i before
  rcases getElem?_snoc at_i with ⟨earlier, same⟩ | ⟨_, rfl⟩
  · apply passed i s _ before
    rwa [settled, List.getElem?_append_left earlier]
  · have capitals := (normal_join after normal lone follows settled).last
      (last ++ sector) (by simp)
    simp only [follows, if_true] at capitals
    have grown : 2 ≤ (last ++ sector).length := by
      have full := List.length_pos_iff.2 (normal.formed last (by simp [settled])).nonempty
      obtain ⟨c, rfl, _⟩ := isLoneCapital_iff.1 lone
      simp only [List.length_append, List.length_singleton]
      omega
    exact Or.inl ⟨grown, capitals⟩

theorem passed_settle {sector : Text} {after : List Text} (judges : classifier.JudgesBy marks)
    (passed : r.Passed marks) : (r.settle classifier sector after).Passed marks := by
  intro i s at_i before
  simp only [settle] at at_i before
  rw [judges (r.done ++ sector :: after) r.done.length sector _ (by simp)] at before
  rcases getElem?_snoc at_i with ⟨earlier, same⟩ | ⟨rfl, rfl⟩
  · apply passed i s same
    intro start marked
    split at before
    · have := before (min start r.done.length)
        (by simp [Findings.markJunk, Option.mem_def.1 marked])
      omega
    · exact before start marked
  · right
    by_contra junk
    rw [if_pos (by simpa using junk)] at before
    cases marked : r.findings.junkStart with
    | none =>
      have := before r.done.length (by simp [Findings.markJunk, marked])
      omega
    | some start =>
      have := before (min start r.done.length) (by simp [Findings.markJunk, marked])
      omega

theorem passed_stepped (judges : classifier.JudgesBy marks) (normal : Normal r)
    (passed : r.Passed marks) (stepped : Stepped classifier r r') : r'.Passed marks := by
  cases stepped with
  | drop head => exact passed
  | consume head nonempty opens consumed => exact passed
  | join head nonempty opens lone follows settled =>
    exact passed_join passed normal lone follows settled
  | settle head nonempty opens kept apart => exact passed_settle judges passed

theorem passed_run (judges : classifier.JudgesBy marks) (sectors : List Text) :
    (run classifier ⟨[], sectors, false, 0, {}⟩).Passed marks := by
  refine (run_keeps classifier (P := fun r => Normal r ∧ r.Passed marks) ?_
    ⟨normal_start sectors, by intro i s at_i; simp at at_i⟩).2
  rintro r r' ⟨normal, passed⟩ stepped
  exact ⟨normal_stepped normal stepped, passed_stepped judges normal passed stepped⟩

theorem formed_capital {c : Char} (capital : isUppercase c = true) : Formed [c] := by
  have same := Text.capitalize_cons_of_not_lowercase [] (isLowercase_of_uppercase capital)
  have unsplit : splitNumbered? [c] = none := splitNumbered?_of_head (isDecimal_of_uppercase capital)
  refine ⟨⟨List.cons_ne_nil c [], unsplit, ?_⟩, same⟩
  simp [same, ofSector?_single]

theorem run_capitals {letters last : Text} {done : List Text}
    (capitals : letters.all isUppercase = true) (head : r.rest = letters.map fun c => [c])
    (follows : r.afterCapital = true) (settled : r.done = done ++ [last]) :
    (r.run classifier).done = done ++ [last ++ letters] ∧
      (r.run classifier).findings = r.findings := by
  induction letters generalizing r last with
  | nil =>
    rw [run_done head, List.append_nil]
    exact ⟨settled, rfl⟩
  | cons c letters ih =>
    rw [List.all_cons, Bool.and_eq_true] at capitals
    have next := formed_capital capitals.1
    have joins : r.step classifier =
        { r with done := done ++ [last ++ [c]], rest := letters.map fun c => [c] } := by
      simp only [step, head, List.map_cons, opened_of_formed _ next, PartMarker.consume?,
        ofSector?_single]
      simp [joinCapital?, isLoneCapital, capitals.1, follows, settled]
    obtain ⟨settledLater, found⟩ : ((r.step classifier).run classifier).done =
        done ++ [last ++ [c] ++ letters] ∧ ((r.step classifier).run classifier).findings =
          (r.step classifier).findings :=
      ih capitals.2 (by rw [joins]) (by rw [joins]; exact follows) (by rw [joins])
    rw [run_step (by simp [head]), settledLater, found, joins, List.append_assoc]
    exact ⟨rfl, rfl⟩

end Refinement

theorem refine_capitals_joined {classifier : Classifier} {marks : Bool → Text → Bool}
    (judges : classifier.JudgesBy marks) {word : Text} (joined : JoinedCapitals word)
    (passes : marks true (word.take 1) = false) :
    (refine classifier (word.map fun c => [c])).sectors = [word] := by
  obtain ⟨several, capitals⟩ := joined
  obtain ⟨c, letters, rfl⟩ := List.exists_cons_of_length_pos (show 0 < word.length by omega)
  rw [List.all_cons, Bool.and_eq_true] at capitals
  have first := Refinement.formed_capital capitals.1
  let r : Refinement := ⟨[], [c] :: letters.map fun c => [c], false, 0, {}⟩
  have settles : r.step classifier = r.settle classifier [c] (letters.map fun c => [c]) := by
    have step : r.step classifier =
        r.settle classifier (Text.capitalize [c]) (letters.map fun c => [c]) :=
      Refinement.step_settle rfl first.toWhole
        (by simp [first.capitalized, PartMarker.consume?, ofSector?_single]) fun _ => rfl
    rwa [first.capitalized] at step
  have clean : (r.step classifier).findings.junkStart = none := by
    rw [settles]
    have verdict := judges ([c] :: letters.map fun c => [c]) 0 [c] {} rfl
    rwa [if_neg (by simpa using passes)] at verdict
  obtain ⟨done, findings⟩ : ((r.step classifier).run classifier).done = [] ++ [[c] ++ letters] ∧
      ((r.step classifier).run classifier).findings = (r.step classifier).findings :=
    Refinement.run_capitals capitals.2 (by rw [settles]; rfl)
      (by rw [settles]; simp [Refinement.settle, isLoneCapital, capitals.1]) (by rw [settles]; rfl)
  have ends : (r.run classifier).result.sectors = (r.run classifier).done := by
    rw [Refinement.run_step (by simp [r])]
    simp only [Refinement.result, findings, clean]
  rw [refine, List.map_cons, ends, Refinement.run_step (by simp [r]), done]
  rfl

def Unmarked (marks : Bool → Text → Bool) (sectors : List Text) : Prop :=
  ∀ i s, sectors[i]? = some s → marks (i == 0) s = false

theorem survivor_passed {classifier : Classifier} {marks : Bool → Text → Bool}
    (judges : classifier.JudgesBy marks) {sectors : List Text} {i : Nat} {s : Text}
    (here : (refine classifier sectors).sectors[i]? = some s) :
    JoinedCapitals s ∨ marks (i == 0) s = false := by
  obtain ⟨settled, before⟩ := Refinement.result_getElem? here
  exact Refinement.passed_run judges sectors i s settled before

theorem survivor_untagged {lexicon : Lexicon} (tags : ∀ tag ∈ lexicon.tags, year? tag = none)
    {sectors : List Text} {s : Text} (survives : s ∈ (refine lexicon.classify sectors).sectors) :
    JoinedCapitals s ∨ lexicon.isTag (judged s) = false := by
  obtain ⟨i, here⟩ := List.getElem?_of_mem survives
  refine (survivor_passed lexicon.classify_judgesBy here).imp_right fun unmarked => ?_
  by_contra tag
  rw [← lexicon.isJunk_eq_marks, isJunk_of_isTag tags (by simpa using tag)] at unmarked
  contradiction

/-- The verdict on a survivor is the one it was given, unless it is spelled by joined capitals; and
    each word of capitals can be spelled so, whatever the verdict on it, if its first letter passes.
    Under both lexicons no survivor is a tag, joined capitals apart. -/
theorem survivors_unmarked_iff {classifier : Classifier} {marks : Bool → Text → Bool}
    (judges : classifier.JudgesBy marks) (sectors : List Text) :
    (Unmarked marks (refine classifier sectors).sectors ↔
      ∀ i s, (refine classifier sectors).sectors[i]? = some s → JoinedCapitals s →
        marks (i == 0) s = false) ∧
    (∀ word, JoinedCapitals word → marks true (word.take 1) = false →
      (refine classifier (word.map fun c => [c])).sectors = [word]) ∧
    ∀ lexicon ∈ [Lexicon.movies, Lexicon.episodes],
      (∀ s ∈ (refine lexicon.classify sectors).sectors, lexicon.isTag (judged s) = false) ↔
        ∀ s ∈ (refine lexicon.classify sectors).sectors, JoinedCapitals s →
          lexicon.isTag (judged s) = false := by
  refine ⟨⟨fun unmarked i s here _ => unmarked i s here, fun capitals i s here => ?_⟩,
    fun word => refine_capitals_joined judges, fun lexicon default => ?_⟩
  · exact (survivor_passed judges here).elim (capitals i s here) id
  · have tags : ∀ tag ∈ lexicon.tags, year? tag = none := by
      simp only [List.mem_cons, List.not_mem_nil, or_false] at default
      rcases default with rfl | rfl <;> exact default_tags_no_year
    refine ⟨fun untagged s survives _ => untagged s survives, fun capitals s survives => ?_⟩
    exact (survivor_untagged tags survives).elim (capitals s survives) id

theorem survivors_unmarked_am :
    Lexicon.movies.classify.JudgesBy Lexicon.movies.marks ∧
      (refine Lexicon.movies.classify
        ["A".toList, "M".toList, "Show".toList, "720p".toList]).sectors =
          ["AM".toList, "Show".toList] ∧
      Unmarked Lexicon.movies.marks ["AM".toList, "Show".toList] := by
  have refined : (refine Lexicon.movies.classify
      ["A".toList, "M".toList, "Show".toList, "720p".toList]).sectors =
        ["AM".toList, "Show".toList] := by decide +kernel
  have exact_iff := (survivors_unmarked_iff Lexicon.movies.classify_judgesBy
    ["A".toList, "M".toList, "Show".toList, "720p".toList]).1
  rw [refined] at exact_iff
  refine ⟨Lexicon.movies.classify_judgesBy, refined, exact_iff.2 fun i s here joined => ?_⟩
  have passes : ∀ s ∈ ["AM".toList, "Show".toList], JoinedCapitals s →
      Lexicon.movies.marks true s = false ∧ Lexicon.movies.marks false s = false := by
    decide +kernel
  obtain ⟨first, later⟩ := passes s (List.mem_of_getElem? here) joined
  cases i with
  | zero => exact first
  | succ i => exact later

def KeepsJoinedTag (lexicon : Lexicon) : Prop :=
  lexicon.classify.JudgesBy lexicon.marks ∧
    (refine lexicon.classify ["Movie".toList, "D".toList, "V".toList, "D".toList]).sectors =
      ["Movie".toList, "DVD".toList] ∧
    ¬ Unmarked lexicon.marks ["Movie".toList, "DVD".toList] ∧
    lexicon.isTag (judged "DVD".toList) = true

theorem joined_tag_survives : [Lexicon.movies, Lexicon.episodes].Forall KeepsJoinedTag := by
  have found : ∀ lexicon ∈ [Lexicon.movies, Lexicon.episodes],
      (refine lexicon.classify ["Movie".toList, "D".toList, "V".toList, "D".toList]).sectors =
          ["Movie".toList, "DVD".toList] ∧
        lexicon.marks false "DVD".toList = true ∧ lexicon.isTag (judged "DVD".toList) = true := by
    decide +kernel
  rw [List.forall_iff_forall_mem]
  intro lexicon default
  obtain ⟨refined, marked, tag⟩ := found lexicon default
  refine ⟨lexicon.classify_judgesBy, refined, fun unmarked => ?_, tag⟩
  exact Bool.false_ne_true ((unmarked 1 _ rfl).symm.trans marked)

end MediaNaming
