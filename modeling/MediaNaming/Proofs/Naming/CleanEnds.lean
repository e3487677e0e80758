import MediaNaming.Proofs.Episode.Block
import MediaNaming.Proofs.Naming.Phrase

/-
The ends of series names and titles. Whatever the sectors hold, joining them trims hyphens and
blanks away together. Splitting at a hyphen trims blanks only, which is enough, because there the
hyphen is the only one.
-/
namespace MediaNaming

theorem cleanEnds_nil : CleanEnds [] := ⟨by simp, by simp⟩

theorem cleanEnds_joinSectors (sectors : List Text) : CleanEnds (joinSectors sectors) :=
  Text.trimEnds_ends isHyphenOrBlank _

theorem cleanEnds_joinName (year : Int) (sectors : List Text) :
    CleanEnds (joinName year sectors) := by
  rw [joinName]
  split <;> exact cleanEnds_joinSectors _

theorem SplitsAtHyphen.full {t left right : Text} (splits : SplitsAtHyphen t left right)
    (ends : CleanEnds t) : left.trim ≠ [] ∧ right.trim ≠ [] := by
  obtain ⟨rfl, -, -⟩ := splits
  obtain ⟨first, last⟩ := ends
  have solid {c : Char} (clean : isHyphenOrBlank c = false) : isBlank c = false :=
    (Bool.or_eq_false_iff.1 clean).2
  constructor
  · cases left with
    | nil => exact absurd (first ' ' rfl) (by decide)
    | cons c left => exact Text.trimEnds_ne_nil (List.mem_cons_self) (solid (first c rfl))
  · cases right using List.reverseRec with
    | nil => exact absurd (last ' ' (by simp)) (by decide)
    | append_singleton right c =>
      have ends : left ++ ' ' :: '-' :: ' ' :: (right ++ [c]) =
          (left ++ ' ' :: '-' :: ' ' :: right) ++ [c] := by simp
      have final : isHyphenOrBlank c = false := last c (by rw [ends, List.getLast?_append]; rfl)
      exact Text.trimEnds_ne_nil (by simp) (solid final)

theorem cleanEnds_nameAndTitle (sectors : List Text) (block : Option (Nat × Nat)) (year : Int) :
    CleanEnds (nameAndTitle sectors block year).1 ∧
      CleanEnds (nameAndTitle sectors block year).2 := by
  simp only [nameAndTitle]
  split
  · exact ⟨cleanEnds_joinName year sectors, cleanEnds_nil⟩
  · rename_i stop
    cases found : splitAtHyphen? (joinSectors (sectors.drop (stop + 1))) with
    | none => exact ⟨cleanEnds_nil, cleanEnds_joinSectors _⟩
    | some parts =>
      obtain ⟨name, title⟩ := parts
      obtain ⟨left, right, splits, rfl, rfl⟩ := splitAtHyphen?_eq_some.1 found
      exact ⟨cleanEnds_trim splits.before, cleanEnds_trim splits.after⟩
  · exact ⟨cleanEnds_joinName year _, cleanEnds_joinSectors _⟩

theorem cleanEnds_seriesName (sectors : List Text) (year : Int) (e : Evidence) :
    (EpisodeParts.ofEvidence sectors year e).seriesName ≠ [] ∧
      CleanEnds (EpisodeParts.ofEvidence sectors year e).seriesName := by
  have name := (cleanEnds_nameAndTitle sectors e.block year).1
  simp only [EpisodeParts.ofEvidence]
  split
  · exact ⟨by decide, by decide, by decide⟩
  · rename_i named
    exact ⟨named, name⟩

def behindBlock (sectors : List Text) (stop : Nat) : Text := joinSectors (sectors.drop (stop + 1))

variable {sectors : List Text} {e : Evidence} {stop : Nat}

theorem ofEvidence_split (year : Int) (here : e.block = some (0, stop)) {left right : Text}
    (splits : SplitsAtHyphen (behindBlock sectors stop) left right) :
    (EpisodeParts.ofEvidence sectors year e).seriesName = left.trim ∧
      (EpisodeParts.ofEvidence sectors year e).episodeTitle = right.trim := by
  have full := splits.full (cleanEnds_joinSectors _)
  have found : splitAtHyphen? (joinSectors (sectors.drop (stop + 1))) =
      some (left.trim, right.trim) := splitAtHyphen?_eq_some.2 ⟨left, right, splits, rfl, rfl⟩
  simp [EpisodeParts.ofEvidence, nameAndTitle, here, found, full.1]

theorem ofEvidence_unsplit (year : Int) (here : e.block = some (0, stop))
    (whole : ∀ left right, ¬ SplitsAtHyphen (behindBlock sectors stop) left right) :
    (EpisodeParts.ofEvidence sectors year e).seriesName = unknownSeries ∧
      (EpisodeParts.ofEvidence sectors year e).episodeTitle = behindBlock sectors stop := by
  have unfound : splitAtHyphen? (joinSectors (sectors.drop (stop + 1))) = none := by
    rw [Option.eq_none_iff_forall_ne_some]
    rintro ⟨name, title⟩ found
    obtain ⟨left, right, splits, -, -⟩ := splitAtHyphen?_eq_some.1 found
    exact whole left right splits
  simp [EpisodeParts.ofEvidence, nameAndTitle, here, unfound, behindBlock]

/-- A series is named, and neither its name nor the title begins or ends with a hyphen or a blank.
    What follows a block that comes first is name and title if it splits at its only hyphen: both
    hold something then, and no hyphen. Otherwise all of it is the title. -/
theorem extract_clean {year : Int} {input : Text} {parts : EpisodeParts}
    (read : (extract sectors year input).parts = .ok parts) :
    parts.seriesName ≠ [] ∧ CleanEnds parts.seriesName ∧ CleanEnds parts.episodeTitle ∧
      ∀ stop, parts.block = some (0, stop) →
        (∀ left right,
          SplitsAtHyphen (behindBlock (extract sectors year input).sectors stop) left right →
            parts.seriesName = left.trim ∧ parts.episodeTitle = right.trim ∧
              (parts.seriesName ≠ [] ∧ '-' ∉ parts.seriesName) ∧
              parts.episodeTitle ≠ [] ∧ '-' ∉ parts.episodeTitle) ∧
        ((∀ left right,
          ¬ SplitsAtHyphen (behindBlock (extract sectors year input).sectors stop) left right) →
            parts.seriesName = unknownSeries ∧
              parts.episodeTitle = behindBlock (extract sectors year input).sectors stop) := by
  obtain ⟨scan, found, ran, completes, rfl⟩ := extract_ok read
  have respelled : (extract sectors year input).sectors = scan.sectors := by
    simp [extract, ran]
  obtain ⟨named, name⟩ := cleanEnds_seriesName scan.sectors year found
  have title : CleanEnds (EpisodeParts.ofEvidence scan.sectors year found).episodeTitle :=
    (cleanEnds_nameAndTitle scan.sectors found.block year).2
  rw [respelled]
  refine ⟨named, name, title, fun stop here => ⟨fun left right splits => ?_, ?_⟩⟩
  · obtain ⟨front, back⟩ := ofEvidence_split year here splits
    obtain ⟨fullName, fullTitle⟩ := splits.full (cleanEnds_joinSectors _)
    rw [front, back]
    exact ⟨rfl, rfl, ⟨fullName, fun inside => splits.before (Text.mem_trimEnds inside)⟩,
      fullTitle, fun inside => splits.after (Text.mem_trimEnds inside)⟩
  · exact ofEvidence_unsplit year here

def ledPilot : List Text := ["S01E01", "-", "Show", "-", "\tPilot", "-"].map String.toList

theorem extract_clean_pilot : ∃ parts,
    (extract ledPilot (-1) []).parts = .ok parts ∧
      SplitsAtHyphen (behindBlock (extract ledPilot (-1) []).sectors 0) "Show".toList
        "\tPilot".toList ∧
      parts.seriesName = "Show".toList ∧ parts.episodeTitle = "Pilot".toList ∧
      CleanEnds parts.seriesName ∧ CleanEnds parts.episodeTitle ∧
      parts.seriesName ≠ [] ∧ parts.episodeTitle ≠ [] := by
  have read : (extract ledPilot (-1) []).parts =
      .ok ⟨some 1, [1], some (0, 0), "Show".toList, "Pilot".toList⟩ := by decide +kernel
  obtain ⟨named, name, title, leading⟩ := extract_clean read
  have splits : SplitsAtHyphen (behindBlock (extract ledPilot (-1) []).sectors 0) "Show".toList
      "\tPilot".toList := ⟨by decide +kernel, by decide, by decide⟩
  obtain ⟨_, _, _, titled, _⟩ := (leading 0 rfl).1 _ _ splits
  exact ⟨_, read, splits, rfl, rfl, name, title, named, titled⟩

end MediaNaming
