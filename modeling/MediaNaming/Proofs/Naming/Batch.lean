import MediaNaming.Proofs.Episode.Cuts

/-
Reading a batch. Each way in which reading a name can fail rejects that one file, but for a cut
inside a character; so every other batch is read to its end, and each of its names is told once.
-/
namespace MediaNaming

theorem NamingError.FromScan.rejectsFile {input : Text} {failure : NamingError}
    (scanned : failure.FromScan input) : failure.rejectsFile = true := by
  rcases scanned with ⟨first, second, rfl⟩ | ⟨sector, rfl⟩ <;> rfl

namespace NamingError

def isBrokenCut : NamingError → Bool
  | brokenCut _ _ _ => true
  | _ => false

def FromReading (failure : NamingError) : Prop :=
  failure.rejectsFile = true ∨ failure.isBrokenCut = true

theorem FromReading.rejectsFile_eq {failure : NamingError} (reading : failure.FromReading) :
    failure.rejectsFile = !failure.isBrokenCut := by
  cases failure <;> simp_all [FromReading, NamingError.rejectsFile, isBrokenCut]

end NamingError

theorem Evidence.complete_failure {input : Text} {sectors : List Text} {e : Evidence}
    {failure : NamingError} (failed : e.complete input sectors = .error failure) :
    failure.FromReading := by
  simp only [complete] at failed
  split at failed
  · simp at failed
  · split at failed
    · simp at failed
    · rcases addBareNumber_failure failed with scanned | ⟨number, index, _, broken⟩
      · exact Or.inl scanned.rejectsFile
      · obtain ⟨_, rfl⟩ := readBareNumber_error_iff.1 broken
        exact Or.inr rfl

theorem extract_failure {sectors : List Text} {year : Int} {input : Text} {failure : NamingError}
    (failed : (extract sectors year input).parts = .error failure) : failure.FromReading := by
  rcases ran : (Scan.start sectors).run input with ⟨scan, _ | e⟩
  · cases completes : scan.evidence.complete input scan.sectors with
    | error e =>
      simp only [extract, ran, completes, Except.map, Except.error.injEq] at failed
      exact failed ▸ Evidence.complete_failure completes
    | ok found => simp [extract, ran, completes, Except.map] at failed
  · simp only [extract, ran, Except.error.injEq] at failed
    exact Or.inl (failed ▸ Scan.run_error ran).rejectsFile

namespace Renamer

variable {r : Renamer} {input : Text}

theorem parseEpisode_failure {failure : NamingError}
    (failed : r.parseEpisode input = .error failure) : failure.FromReading := by
  simp only [parseEpisode, Episode.ofName?, bind, Except.bind] at failed
  split at failed
  · rename_i why unsplit
    cases failed
    exact Or.inl (ofName?_error unsplit ▸ rfl)
  · rename_i media read
    split at failed
    · rename_i why unread
      cases failed
      exact extract_failure unread
    · simp [pure, Except.pure] at failed

def breaks (r : Renamer) (input : Text) : Bool :=
  match r.parseEpisode input with
  | .ok _ => false
  | .error why => why.isBrokenCut

def rejected? (r : Renamer) (input : Text) : Option (Text × NamingError) :=
  match r.parseEpisode input with
  | .ok _ => none
  | .error why => some (input, why)

variable {inputs more : List Text}

theorem parseBatch_cons (whole : r.breaks input = false) :
    r.parseBatch (input :: more) = (r.parseBatch more).map fun batch =>
      ⟨(r.parseEpisode input).toOption.toList ++ batch.parsed,
        (r.rejected? input).toList ++ batch.skipped⟩ := by
  cases read : r.parseEpisode input with
  | ok e =>
    simp only [parseBatch, rejected?, read]
    cases r.parseBatch more <;> rfl
  | error why =>
    have skipped : why.rejectsFile = true := by
      rw [(parseEpisode_failure read).rejectsFile_eq]
      simpa [breaks, read] using whole
    simp only [parseBatch, rejected?, read, skipped, if_true]
    cases r.parseBatch more <;> rfl

theorem parseBatch_whole (whole : ∀ input ∈ inputs, r.breaks input = false) :
    r.parseBatch inputs = .ok ⟨inputs.filterMap fun input => (r.parseEpisode input).toOption,
      inputs.filterMap r.rejected?⟩ := by
  induction inputs with
  | nil => rfl
  | cons input more ih =>
    rw [parseBatch_cons (whole input (by simp)), ih fun other member => whole other (by simp [member])]
    simp only [Except.map, List.filterMap_cons]
    cases (r.parseEpisode input).toOption <;> cases r.rejected? input <;> rfl

theorem parsed_add_skipped (r : Renamer) (inputs : List Text) :
    (inputs.filterMap fun input => (r.parseEpisode input).toOption).length +
      (inputs.filterMap r.rejected?).length = inputs.length := by
  have either : ∀ input ∈ inputs,
      ((r.rejected? input).isSome = true ↔ ¬ (r.parseEpisode input).toOption.isSome = true) := by
    intro input _
    simp only [rejected?]
    cases r.parseEpisode input <;> simp [Except.toOption]
  rw [List.length_filterMap_eq_countP, List.length_filterMap_eq_countP,
    List.length_eq_countP_add_countP fun input => (r.parseEpisode input).toOption.isSome]
  congr 1
  exact List.countP_congr fun input member => by simpa using either input member

/-- A batch ends early only where reading one of its names breaks. -/
theorem parseBatch_error {why : NamingError} (failed : r.parseBatch inputs = .error why) :
    ∃ input ∈ inputs, r.parseEpisode input = .error why ∧ why.isBrokenCut = true := by
  induction inputs with
  | nil => simp [parseBatch] at failed
  | cons input more ih =>
    cases broken : r.breaks input with
    | false =>
      rw [parseBatch_cons broken] at failed
      cases rest : r.parseBatch more with
      | ok batch => simp [rest, Except.map] at failed
      | error other =>
        obtain rfl : other = why := by simpa [rest, Except.map] using failed
        obtain ⟨later, member, read⟩ := ih rest
        exact ⟨later, by simp [member], read⟩
    | true =>
      cases read : r.parseEpisode input with
      | ok e => simp [breaks, read] at broken
      | error other =>
        have cut : other.isBrokenCut = true := by simpa [breaks, read] using broken
        have ends : other.rejectsFile = false := by
          simp [(parseEpisode_failure read).rejectsFile_eq, cut]
        obtain rfl : other = why := by simpa [parseBatch, read, ends] using failed
        exact ⟨input, by simp, read, cut⟩

/-- Where no reading breaks, a batch succeeds: its files are those that can be read, in order, and
    the names left out are all others, in order, each with what is wrong with it. -/
theorem parseBatch_complete (r : Renamer) {inputs : List Text}
    (whole : ∀ input ∈ inputs, r.breaks input = false) :
    ∃ batch, r.parseBatch inputs = .ok batch ∧
      batch.parsed = inputs.filterMap (fun input => (r.parseEpisode input).toOption) ∧
      batch.skipped = inputs.filterMap r.rejected? ∧
      batch.parsed.length + batch.skipped.length = inputs.length :=
  ⟨_, parseBatch_whole whole, rfl, rfl, parsed_add_skipped r inputs⟩

theorem parseBatch_complete_mixed :
    let inputs : List Text :=
      ["Show.S01E02.mkv".toList, "Show S01E02".toList, "Show.mkv".toList, "Show.2x03.mkv".toList]
    (∀ input ∈ inputs, ({} : Renamer).breaks input = false) ∧
      ∃ batch, ({} : Renamer).parseBatch inputs = .ok batch ∧
        batch.parsed = inputs.filterMap (fun input => (({} : Renamer).parseEpisode input).toOption) ∧
        batch.skipped = inputs.filterMap ({} : Renamer).rejected? ∧
        batch.parsed.length + batch.skipped.length = inputs.length := by
  intro inputs
  have whole : ∀ input ∈ inputs, ({} : Renamer).breaks input = false := by decide +kernel
  exact ⟨whole, parseBatch_complete {} whole⟩

end Renamer
end MediaNaming
