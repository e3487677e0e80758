import MediaNaming.Naming.Renamer
import MediaNaming.Proofs.Episode.Scanning
import MediaNaming.Proofs.Sector.Rebuilding

/-
Names whose season and episodes stand in one place. The scan passes what is around the block,
and what comes before it gives the series name, what comes after it the title.
-/
namespace MediaNaming

theorem extract_of_evidence {input : Text} {sectors ended : List Text} {evidence found : Evidence}
    (scans : (Scan.start sectors).run input = (⟨ended, [], evidence⟩, none))
    (completes : evidence.complete input ended = .ok found) (year : Int) :
    extract sectors year input = ⟨.ok (EpisodeParts.ofEvidence ended year found), ended⟩ := by
  have all : Scan.sectors ⟨ended, [], evidence⟩ = ended := by simp [Scan.sectors]
  simp only [extract, scans, all, completes, Except.map]

theorem parseEpisode_of_evidence {input : Text} {split : SplitName} {refined : Refined}
    {sectors : List Text} {evidence found : Evidence} (cut : SplitName.ofPath? input = .ok split)
    (refines : refine Lexicon.episodes.classify (sectorsOf split.name) = refined)
    (scans : (Scan.start refined.sectors).run input = (⟨sectors, [], evidence⟩, none))
    (completes : evidence.complete input sectors = .ok found) :
    ({} : Renamer).parseEpisode input = .ok (Episode.ofParts
      ⟨split.name, split.extension, split.location, refined.year, refined.part, refined.quality,
        sectors⟩
      (EpisodeParts.ofEvidence sectors refined.year found)) := by
  simp only [Renamer.parseEpisode, Episode.ofName?, MediaFile.ofName?, cut, refines,
    extract_of_evidence scans completes, bind, Except.bind, pure, Except.pure]

namespace Scan

variable {input : Text} {before marks marked after : List Text}

theorem run_around (found : Nat → Evidence) (quiet : ∀ s ∈ before ++ after, Quiet s)
    (unpaired : (before ++ marks.take 1).IsChain Unpaired) (unpairedAfter : after.IsChain Unpaired)
    (some_mark : marks ≠ [])
    (reads : ∀ done rest, run input ⟨done, marks ++ rest, {}⟩ =
      run input ⟨done ++ marked, rest, found done.length⟩) :
    (start (before ++ marks ++ after)).run input =
      (⟨before ++ marked ++ after, [], found before.length⟩, none) := by
  have first : (marks ++ after).take 1 = marks.take 1 := by
    obtain ⟨mark, more, rfl⟩ := List.exists_cons_of_ne_nil some_mark
    rfl
  have front : run input ⟨[], before ++ (marks ++ after), {}⟩ =
      run input ⟨[] ++ before, marks ++ after, {}⟩ :=
    run_quiet (fun s member => quiet s (by simp [member])) (by rwa [first])
  have back : run input ⟨before ++ marked, after ++ [], found before.length⟩ =
      run input ⟨before ++ marked ++ after, [], found before.length⟩ :=
    run_quiet (fun s member => quiet s (by simp [member])) (by simpa using unpairedAfter)
  rw [List.append_nil] at back
  rw [start, List.append_assoc, front, List.nil_append, reads, back, run_done]

end Scan

theorem nameAndTitle_around {before marked : List Text} (after : List Text) (year : Int)
    (named : before ≠ []) (some_mark : marked ≠ []) :
    nameAndTitle (before ++ marked ++ after)
        (some (before.length, before.length + (marked.length - 1))) year =
      (joinName year before, joinTitle year after) := by
  have filled : 0 < before.length ∧ 0 < marked.length :=
    ⟨List.length_pos_iff.2 named, List.length_pos_iff.2 some_mark⟩
  obtain ⟨k, size⟩ : ∃ k, before.length = k + 1 := ⟨before.length - 1, by omega⟩
  have stop : before.length + (marked.length - 1) + 1 = (before ++ marked).length := by
    rw [List.length_append]
    omega
  have front : (before ++ marked ++ after).take before.length = before := by
    rw [List.append_assoc, List.take_left]
  rw [size] at stop front ⊢
  rw [nameAndTitle, stop, front, List.drop_left]

theorem ofEvidence_of_split {sectors : List Text} {year : Int} {e : Evidence} {name title : Text}
    (split : nameAndTitle sectors e.block year = (name, title)) (named : name ≠ []) :
    EpisodeParts.ofEvidence sectors year e = ⟨e.season, e.episodes, e.block, name, title⟩ := by
  simp [EpisodeParts.ofEvidence, split, named]

theorem isBareNumber_false {t : Text} (other : 3 < t.length ∨ ∃ c ∈ t, isDecimal c = false) :
    isBareNumber t = false := by
  rcases other with long | ⟨c, member, undecimal⟩
  · simp [isBareNumber, long]
  · have mixed : t.all isDecimal = false := by
      rw [List.all_eq_false]
      exact ⟨c, member, by simp [undecimal]⟩
    simp [isBareNumber, mixed]

theorem bareNumbers_around {before after : List Text} {number : Text}
    (others : ∀ s ∈ before ++ after, isBareNumber s = false) (bare : isBareNumber number = true) :
    bareNumbers (before ++ [number] ++ after) none = [(number, before.length)] := by
  have none_among {sectors : List Text} (index : Nat)
      (clean : ∀ s ∈ sectors, isBareNumber s = false) :
      (sectors.zipIdx index).filter (fun p => isOutside none p.2 && isBareNumber p.1) = [] := by
    apply List.filter_eq_nil_iff.2
    intro p member
    simp [clean p.1 (List.fst_mem_of_mem_zipIdx member)]
  have front := none_among 0 fun s (member : s ∈ before) => others s (by simp [member])
  have back := none_among (0 + (before ++ [number]).length)
    fun s (member : s ∈ after) => others s (by simp [member])
  rw [bareNumbers, List.zipIdx_append, List.zipIdx_append, List.filter_append, List.filter_append]
  rw [front, back]
  simp [isOutside, bare]

theorem digitRuns_eq_nil {t : Text} (undigit : ∀ c ∈ t, isDecimal c = false) :
    digitRuns t = [] := by
  apply List.filter_eq_nil_iff.2
  intro run member
  rw [Text.pieces_of_stops (fun c inside => by simp [undigit c inside]) run member]
  decide

theorem leadingNumber?_of_no_digit {s : Text} (sectors : List Text)
    (undigit : ∀ c ∈ s, isDecimal c = false) : leadingNumber? (s :: sectors) = none := by
  simp [leadingNumber?, digitRuns_eq_nil undigit]

theorem complete_of_episodes {input : Text} {sectors : List Text} {e : Evidence}
    (found : e.episodes ≠ []) : e.complete input sectors = .ok e := by
  rw [Evidence.complete, if_pos found]

theorem complete_of_bare {input number : Text} {sectors : List Text} {index season episode : Nat}
    (unled : leadingNumber? sectors = none) (only : bareNumbers sectors none = [(number, index)])
    (read : readBareNumber number = .ok (some season, some episode)) :
    Evidence.complete input sectors {} = .ok ⟨some season, [episode], some (index, index)⟩ := by
  simp [Evidence.complete, Evidence.addLeadingNumber, unled, Evidence.addBareNumber, only, read,
    Evidence.assertSeason, Evidence.addEpisodes, Evidence.cover, bind, Except.bind]

/-- The scan turns the marks into `marked`. With what it finds the season and the episodes are
    known among sectors that are no numbers, and the block is where the marks stand. -/
structure ReadAs (input : Text) (marks marked : List Text) (season : Nat) (episodes : List Nat)
    (found : Nat → Evidence) : Prop where
  some_mark : marked ≠ []
  scans : ∀ done rest, Scan.run input ⟨done, marks ++ rest, {}⟩ =
    Scan.run input ⟨done ++ marked, rest, found done.length⟩
  completes : ∀ first before after, (∀ c ∈ first, isDecimal c = false) →
    (∀ t ∈ first :: before ++ after, isBareNumber t = false) →
    (found (first :: before).length).complete input (first :: before ++ marked ++ after) =
      .ok ⟨some season, episodes,
        some ((first :: before).length, (first :: before).length + (marked.length - 1))⟩

theorem readAs_letters {input : Text} {s e : Char} {season first : Text} {last : Option Text}
    (letterS : s = 's' ∨ s = 'S') (letterE : e = 'e' ∨ e = 'E') (short : ShortDigits season)
    (shortFirst : ShortDigits first) (shortLast : ∀ t ∈ last, ShortDigits t) :
    ReadAs input [lettersText s e season first last] [lettersText s e season first last]
      season.decimalValue (rangeNumbers first last)
      fun index => Scan.evidenceAt index season.decimalValue (rangeNumbers first last) :=
  ⟨List.cons_ne_nil _ _, fun _ _ => Scan.run_letters letterS letterE short shortFirst shortLast,
    fun _ _ _ _ _ => complete_of_episodes (List.cons_ne_nil _ _)⟩

theorem readAs_cross {input : Text} {x : Char} {season first : Text} {last : Option Text}
    (cross : isCross x = true) (short : ShortDigits season) (shortFirst : ShortDigits first)
    (shortLast : ∀ t ∈ last, ShortDigits t) :
    ReadAs input [crossText x season first last] [lettersText 'S' 'E' season first last]
      season.decimalValue (rangeNumbers first last)
      fun index => Scan.evidenceAt index season.decimalValue (rangeNumbers first last) :=
  ⟨List.cons_ne_nil _ _, fun _ _ => Scan.run_cross cross short shortFirst shortLast,
    fun _ _ _ _ _ => complete_of_episodes (List.cons_ne_nil _ _)⟩

end MediaNaming
