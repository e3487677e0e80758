import MediaNaming.Episode.Evidence
import MediaNaming.Proofs.Episode.Reading
import Mathlib.Data.List.Chain

/-
How the scan goes over sectors. Quiet sectors are passed and leave the evidence alone; a mark
that comes first gives the season and the episodes, and the block is where it stands.
-/
namespace MediaNaming

def Unpaired (sector next : Text) : Prop :=
  PairWord.ofSector? sector = none ∨ shortNumber? next = none

instance : DecidableRel Unpaired := fun s t =>
  inferInstanceAs (Decidable (PairWord.ofSector? s = none ∨ shortNumber? t = none))

theorem isChain_unpaired {sectors : List Text} (unshort : ∀ t ∈ sectors, shortNumber? t = none) :
    sectors.IsChain Unpaired := by
  apply List.Pairwise.isChain
  exact List.pairwise_of_forall_mem_list fun _ _ t member => Or.inr (unshort t member)

theorem toLower_of_decimal {c : Char} (digit : isDecimal c = true) : c.toLower = c := by
  by_cases low : c.toNat < 128
  · have := ascii_forall (p := fun c => !isDecimal c || c.toLower == c) (by decide) low
    simpa [digit] using this
  · exact dif_neg fun capital => by
      have high : c.toNat ≤ 90 := capital.2
      omega

theorem ofSector?_of_decimal {t : Text} (digit : ∃ c ∈ t, isDecimal c = true) :
    PairWord.ofSector? t = none := by
  obtain ⟨c, member, decimal⟩ := digit
  have other {word : Text} (letters : ∀ d ∈ word, isDecimal d = false) :
      Text.isWord word t = false := by
    rw [Text.isWord, beq_eq_false_iff_ne]
    rintro rfl
    have none := letters c.toLower (List.mem_map_of_mem member)
    rw [toLower_of_decimal decimal, decimal] at none
    contradiction
  rw [PairWord.ofSector?, other (show ∀ d ∈ "season".toList, isDecimal d = false by decide),
    other (show ∀ d ∈ "episode".toList, isDecimal d = false by decide),
    if_neg Bool.false_ne_true, if_neg Bool.false_ne_true]

namespace Scan

variable {input : Text} {done rest : List Text} {evidence : Evidence}

theorem run_done : run input ⟨done, [], evidence⟩ = (⟨done, [], evidence⟩, none) := by
  rw [run, if_pos rfl]

theorem run_step {s after : Scan} (more : s.rest ≠ []) (stepped : s.step input = .ok after) :
    s.run input = after.run input := by
  rw [run, if_neg more]
  split
  · rename_i next same
    rw [stepped] at same
    cases same
    rfl
  · rename_i e failed
    rw [stepped] at failed
    simp at failed

theorem run_failed {s : Scan} {e : NamingError} (more : s.rest ≠ [])
    (failed : s.step input = .error e) : s.run input = (s, some e) := by
  rw [run, if_neg more]
  split
  · rename_i after same
    rw [failed] at same
    simp at same
  · rename_i e' same
    rw [failed] at same
    cases same
    rfl

theorem run_ended {s scan : Scan} (ran : s.run input = (scan, none)) : scan.rest = [] := by
  fun_induction run input s with
  | case1 s done =>
    cases ran
    exact done
  | case2 s more after step ih => exact ih ran
  | case3 s more e failed => simp at ran

theorem run_succeeds {P : Scan → Prop}
    (advances : ∀ s, P s → s.rest ≠ [] → ∃ after, s.step input = .ok after ∧ P after) {s : Scan}
    (begins : P s) : ∃ scan, s.run input = (scan, none) ∧ P scan ∧ scan.rest = [] := by
  fun_induction run input s with
  | case1 s done => exact ⟨s, rfl, begins, done⟩
  | case2 s more after step ih =>
    obtain ⟨next, taken, holds⟩ := advances s begins more
    rw [step] at taken
    cases taken
    exact ih holds
  | case3 s more e failed =>
    obtain ⟨next, taken, -⟩ := advances s begins more
    rw [failed] at taken
    contradiction

theorem step_quiet {sector : Text} (quiet : Quiet sector)
    (unpaired : ∀ next ∈ rest.head?, Unpaired sector next) :
    step input ⟨done, sector :: rest, evidence⟩ = .ok ⟨done ++ [sector], rest, evidence⟩ := by
  have alone : pair? sector rest = none := by
    cases rest with
    | nil => rfl
    | cons next later =>
      simp only [pair?]
      rcases unpaired next rfl with word | number
      · simp [word]
      · simp [number]
  simp [step, quiet.seasons, quiet.episodes, quiet.crosses, alone, pass]

theorem run_quiet {sectors : List Text} (quiet : ∀ s ∈ sectors, Quiet s)
    (unpaired : (sectors ++ rest.take 1).IsChain Unpaired) :
    run input ⟨done, sectors ++ rest, evidence⟩ = run input ⟨done ++ sectors, rest, evidence⟩ := by
  induction sectors generalizing done with
  | nil => simp
  | cons s sectors ih =>
    rw [List.cons_append, List.isChain_cons] at unpaired
    have stepped : step input ⟨done, s :: (sectors ++ rest), evidence⟩ =
        .ok ⟨done ++ [s], sectors ++ rest, evidence⟩ := by
      apply step_quiet (quiet s (by simp))
      intro next member
      apply unpaired.1 next
      cases sectors with
      | nil => cases rest <;> simp_all
      | cons t sectors => simpa using member
    rw [List.cons_append, run_step (by simp) stepped,
      ih (fun t member => quiet t (by simp [member])) unpaired.2, List.append_assoc]
    rfl

def evidenceAt (index : Nat) (season : Nat) (episodes : List Nat) : Evidence :=
  ⟨some season, episodes, some (index, index)⟩

theorem run_letters {s e : Char} {season first : Text} {last : Option Text}
    (letterS : s = 's' ∨ s = 'S') (letterE : e = 'e' ∨ e = 'E') (short : ShortDigits season)
    (shortFirst : ShortDigits first) (shortLast : ∀ t ∈ last, ShortDigits t) :
    run input ⟨done, lettersText s e season first last :: rest, {}⟩ =
      run input ⟨done ++ [lettersText s e season first last], rest,
        evidenceAt done.length season.decimalValue (rangeNumbers first last)⟩ := by
  apply run_step (by simp)
  have opensS : isLetter 's' s = true := by rcases letterS with rfl | rfl <;> decide
  have opensE : isLetter 'e' e = true := by rcases letterE with rfl | rfl <;> decide
  have seasons := seasonMarks_lettersText opensS letterE short shortFirst shortLast
  have episodes := episodeMarks_lettersText letterS opensE short shortFirst shortLast
  simp [step, seasons, episodes, Evidence.assertSeason, Evidence.addEpisodes, Evidence.cover, pass,
    evidenceAt, bind, Except.bind]

theorem run_cross {x : Char} {season first : Text} {last : Option Text}
    (cross : isCross x = true) (short : ShortDigits season) (shortFirst : ShortDigits first)
    (shortLast : ∀ t ∈ last, ShortDigits t) :
    run input ⟨done, crossText x season first last :: rest, {}⟩ =
      run input ⟨done ++ [lettersText 'S' 'E' season first last], rest,
        evidenceAt done.length season.decimalValue (rangeNumbers first last)⟩ := by
  rw [← run_letters (Or.inr rfl) (Or.inr rfl) short shortFirst shortLast]
  apply run_step (by simp)
  have letterless := crossText_letterless cross short shortFirst shortLast
  have seasons : seasonMarks (crossText x season first last) = [] :=
    seasonMarks_of_letterless true fun c member => (letterless c member).1
  have episodes : episodeMarks (crossText x season first last) = [] :=
    episodeMarks_of_letterless true fun c member => (letterless c member).2
  simp [step, seasons, episodes, crossMarks_crossText cross short shortFirst shortLast,
    respelled_crossText]

theorem step_pair {sector next : Text} {word : PairWord} (quiet : Quiet sector)
    (pairs : PairWord.ofSector? sector = some word) (short : ShortDigits next) :
    step input ⟨done, sector :: next :: rest, evidence⟩ =
      passPair input word next.decimalValue sector next rest
        ⟨done, sector :: next :: rest, evidence⟩ := by
  simp [step, quiet.seasons, quiet.episodes, quiet.crosses, pair?, pairs,
    shortNumber?_of_short short]

theorem run_words {season episode : Text} {seasonWord episodeWord : Text}
    (quietSeason : Quiet seasonWord) (quietEpisode : Quiet episodeWord)
    (pairsSeason : PairWord.ofSector? seasonWord = some .season)
    (pairsEpisode : PairWord.ofSector? episodeWord = some .episode)
    (short : ShortDigits season) (shortEpisode : ShortDigits episode) :
    run input ⟨done, seasonWord :: season :: episodeWord :: episode :: rest, {}⟩ =
      run input ⟨done ++ [seasonWord, season, episodeWord, episode], rest,
        ⟨some season.decimalValue, [episode.decimalValue],
          some (done.length, done.length + 3)⟩⟩ := by
  have first : step input ⟨done, seasonWord :: season :: episodeWord :: episode :: rest, {}⟩ =
      .ok ⟨done ++ [seasonWord, season], episodeWord :: episode :: rest,
        ⟨some season.decimalValue, [], some (done.length, done.length + 1)⟩⟩ := by
    rw [step_pair quietSeason pairsSeason short]
    simp [passPair, Evidence.assertSeason, Evidence.cover, bind, Except.bind]
  have second : step input ⟨done ++ [seasonWord, season], episodeWord :: episode :: rest,
        ⟨some season.decimalValue, [], some (done.length, done.length + 1)⟩⟩ =
      .ok ⟨done ++ [seasonWord, season, episodeWord, episode], rest,
        ⟨some season.decimalValue, [episode.decimalValue],
          some (done.length, done.length + 3)⟩⟩ := by
    rw [step_pair quietEpisode pairsEpisode shortEpisode]
    simp [passPair, Evidence.cover, bind, Except.bind]
    omega
  rw [run_step (by simp) first, run_step (by simp) second]

end Scan
end MediaNaming
