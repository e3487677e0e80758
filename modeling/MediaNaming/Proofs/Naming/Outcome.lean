import MediaNaming.Naming.Renamer
import MediaNaming.Proofs.Episode.Steps
import MediaNaming.Proofs.Naming.Phrase
import MediaNaming.Proofs.Sector.NormalForm
import MediaNaming.Proofs.Sector.Rebuilding

/-
What holds of every episode that is read, whatever its name was.
-/
namespace MediaNaming

/-- What holds of an episode whatever the classifier: names in shape, episodes of two digits, and an
    extension that can be split off again. -/
structure Episode.InShape (e : Episode) : Prop where
  named : e.seriesName ≠ []
  name : Phrase e.seriesName
  title : Phrase e.episodeTitle
  bounded : ∀ n ∈ e.episodes, n < 100
  undotted : '.' ∉ e.media.extension
  unnested : pathSeparator ∉ e.media.extension

structure Episode.Sound (e : Episode) : Prop extends e.InShape where
  year : e.media.year = -1 ∨ (1900 ≤ e.media.year ∧ e.media.year ≤ 2099)

theorem mem_toOption {ε α : Type} {x : Except ε α} {a : α} : a ∈ x.toOption ↔ x = .ok a := by
  cases x with
  | error e => simp [Except.toOption]
  | ok b => simp [Except.toOption]

theorem Episode.ofName?_ok {classifier : Classifier} {input : Text} {e : Episode}
    (read : Episode.ofName? classifier input = .ok e) :
    ∃ split scan evidence refined, SplitName.ofPath? input = .ok split ∧
      refine classifier (sectorsOf split.name) = refined ∧
      (Scan.start refined.sectors).run input = (scan, none) ∧
      scan.evidence.complete input scan.sectors = .ok evidence ∧
      e = Episode.ofParts ⟨split.name, split.extension, split.location, refined.year, refined.part,
        refined.quality, scan.sectors⟩
        (EpisodeParts.ofEvidence scan.sectors refined.year evidence) := by
  simp only [Episode.ofName?, MediaFile.ofName?, bind, Except.bind] at read
  cases cut : SplitName.ofPath? input with
  | error failure => simp [cut] at read
  | ok split =>
    generalize refines : refine classifier (sectorsOf split.name) = refined at *
    simp only [cut, refines, pure, Except.pure, extract] at read
    rcases ran : (Scan.start refined.sectors).run input with ⟨scan, failure⟩
    cases failure with
    | some failure => simp [ran] at read
    | none =>
      cases completes : scan.evidence.complete input scan.sectors with
      | error failure => simp [ran, completes, Except.map] at read
      | ok evidence =>
        simp only [ran, completes, Except.map, Except.ok.injEq] at read
        exact ⟨split, scan, evidence, refined, rfl, refines, ran, completes, read.symm⟩

theorem phrase_unknownSeries : Phrase unknownSeries where
  solid := by
    have all : ∀ c ∈ unknownSeries, isSolid c = true := by decide
    exact fun c member => Or.inr (all c member)
  spaced := by
    have all : ∀ c ∈ unknownSeries, c ≠ ' ' := by decide
    apply List.Pairwise.isChain
    exact List.pairwise_of_forall_mem_list fun c _ d member _ => all d member
  first := by decide
  last := by decide

theorem Scan.sound_of_name {classifier : Classifier} {input : Text} {split : SplitName}
    {scan : Scan} {failure : Option NamingError} (cut : SplitName.ofPath? input = .ok split)
    (ran : (Scan.start (refine classifier (sectorsOf split.name)).sectors).run input =
      (scan, failure)) : scan.Sound := by
  have sectors : ∀ t ∈ (refine classifier (sectorsOf split.name)).sectors, t ≠ [] ∧ Solid t :=
    fun t member => ⟨(refine_formed _ _ t member).nonempty,
      refine_solid _ (solid_sectorsOf (ofPath?_eq_ok.1 cut).flat) t member⟩
  have sound := Scan.sound_run input sectors
  rwa [ran] at sound

theorem Episode.inShape_of_read {classifier : Classifier} {input : Text} {e : Episode}
    (read : Episode.ofName? classifier input = .ok e) : e.InShape := by
  obtain ⟨split, scan, evidence, refined, cut, refines, ran, completes, rfl⟩ :=
    Episode.ofName?_ok read
  obtain ⟨-, -, -, unnested, undotted⟩ := ofPath?_eq_ok.1 cut
  have sound := Scan.sound_of_name cut (refines ▸ ran)
  obtain ⟨name, title⟩ := phrase_nameAndTitle sound.sectors evidence.block refined.year
  refine ⟨?_, ?_, title, Evidence.complete_lt sound.bounded completes, undotted, unnested⟩
  · simp only [Episode.ofParts, EpisodeParts.ofEvidence]
    split
    · decide
    · assumption
  · simp only [Episode.ofParts, EpisodeParts.ofEvidence]
    split
    · exact phrase_unknownSeries
    · exact name

theorem sound_of_read {input : Text} {e : Episode}
    (read : ({} : Renamer).parseEpisode input = .ok e) : e.Sound := by
  have shaped := Episode.inShape_of_read read
  obtain ⟨split, _, _, _, _, rfl, _, _, rfl⟩ := Episode.ofName?_ok read
  exact ⟨shaped, Lexicon.refine_year Lexicon.episodes (sectorsOf split.name)⟩

end MediaNaming
