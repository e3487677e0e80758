import MediaNaming.Proofs.Naming.MovieName
import MediaNaming.Proofs.Naming.Outcome
import MediaNaming.Proofs.Sector.Continuation

/-
Refining the words of a canonical movie name. Its sectors are refined by themselves first; then the
year in brackets cuts off what follows, and the part is consumed, but the hyphen before it stays
where no year has cut it off.
-/
namespace MediaNaming

theorem consume?_separator {s : Text} (separator : Separator s) (part : Nat) (rest : List Text) :
    PartMarker.consume? part s rest = none := by
  have unmarked := separator.unmarked
  have unnumbered := separator.unnumbered
  rw [separator.capitalized] at unmarked unnumbered
  simp only [PartMarker.consume?]
  split
  · rfl
  · rename_i digits numbered
    exact absurd numbered (unnumbered digits)
  · rename_i bare
    exact absurd bare unmarked

theorem Separator.startsApart {s : Text} (separator : Separator s) (rest : List Text) :
    StartsApart (s :: rest) := by
  intro next head
  obtain rfl : s = next := by simpa using head
  exact ⟨separator.nonempty, separator.unnumbered_word⟩

theorem numberWord_ofNumber {n : Nat} (small : n ≤ wordLimit) :
    NumberWord.ofSector? (Text.ofNumber n) = some (.value n) := by
  have digits := ofNumber_digits n
  have full : Text.ofNumber n ≠ [] := Nat.toDigits_ne_nil
  have value := decimalValue_ofNumber n
  have read := readNumber?_of_digits digits full (value.symm ▸ small)
  rw [value] at read
  simp [NumberWord.ofSector?, full, List.all_eq_true.2 digits, read]

theorem isJunk_hyphen (index : Nat) : Lexicon.movies.isJunk index hyphen = false := by
  have year : yearOf? hyphen = none := by decide
  have tag : Lexicon.movies.isTag (judged hyphen) = false := by decide
  have bracket : opensBracket hyphen = false := by decide
  simp [Lexicon.isJunk, year, tag, bracket]

theorem isJunk_bracketedYear {y : Nat} (recent : 1900 ≤ y ∧ y ≤ 2099) (index : Nat) :
    Lexicon.movies.isJunk index (bracketedYear y) = decide (0 < index) := by
  simp [Lexicon.isJunk, yearOf?_bracketedYear recent, Lexicon.movies]

namespace Refinement

variable {r : Refinement} {rest : List Text}

theorem run_separator (classifier : Classifier) {s : Text} (separator : Separator s)
    (head : r.rest = s :: rest) :
    r.run classifier = (r.settle classifier s rest).run classifier := by
  have capital := separator.capitalized
  have step : r.step classifier = r.settle classifier s.capitalize rest :=
    step_settle head separator.toWhole (by rw [capital, consume?_separator separator])
      fun lone => by rw [separator.several] at lone; contradiction
  rw [run_step (by simp [head]), step, capital]

theorem run_part (classifier : Classifier) {n : Nat} (small : n ≤ wordLimit)
    (head : r.rest = [partWord, Text.ofNumber n]) :
    r.run classifier = { r with part := n, rest := [] } := by
  have full : Text.ofNumber n ≠ [] := Nat.toDigits_ne_nil
  have bare : PartMarker.ofSector? partWord.capitalize = some .bare := by decide
  have consumed : PartMarker.consume? r.part partWord.capitalize [Text.ofNumber n] = some (n, []) := by
    simp [PartMarker.consume?, bare, full, numberWord_ofNumber small, NumberWord.value?]
  obtain ⟨c, tail, text⟩ : ∃ c tail, partWord = c :: tail := ⟨_, _, rfl⟩
  have step : r.step classifier = { r with part := n, rest := [] } := by
    rw [text] at head consumed
    have opens := opened_of_unsplit [Text.ofNumber n] (show splitNumbered? (c :: tail) = none by
      rw [← text]; decide)
    simp only [step, head, opens, consumed]
  rw [run_step (by simp [head]), step, run_done rfl]

theorem run_hyphenedPart {n : Nat} (small : n ≤ wordLimit)
    (head : r.rest = [hyphen, partWord, Text.ofNumber n]) :
    (r.run Lexicon.movies.classify).done = r.done ++ [hyphen] ∧
      (r.run Lexicon.movies.classify).part = n ∧
      (r.run Lexicon.movies.classify).findings.junkStart = r.findings.junkStart ∧
      (r.run Lexicon.movies.classify).findings.year = r.findings.year := by
  have year : yearOf? hyphen = none := by decide
  rw [run_separator _ separator_hyphen head, run_part _ small rfl]
  simp [settle, Lexicon.classify_junkStart, Lexicon.classify_year, isJunk_hyphen, year]

theorem settle_bracketedYear {y : Nat} (recent : 1900 ≤ y ∧ y ≤ 2099) (rest : List Text)
    (r : Refinement) :
    (r.settle Lexicon.movies.classify (bracketedYear y) rest).findings.year = some (y : Int) ∧
      (r.settle Lexicon.movies.classify (bracketedYear y) rest).findings.junkStart =
        if r.done = [] then r.findings.junkStart
        else (r.findings.markJunk r.done.length).junkStart := by
  simp only [settle, Lexicon.classify_year, Lexicon.classify_junkStart,
    yearOf?_bracketedYear recent, isJunk_bracketedYear recent, Option.some_or, decide_eq_true_eq,
    List.length_pos_iff, ne_eq, ite_not, and_self]

theorem result_behind {r s : Refinement} {start : Nat} {extra : List Text}
    (early : r.findings.junkStart = some start) (bounded : start < r.done.length)
    (done : s.done = r.done ++ extra) (junk : s.findings.junkStart = some start) :
    s.result.sectors = r.result.sectors := by
  rw [result_marked junk, result_marked early, done,
    List.take_append_of_le_length (Nat.le_of_lt bounded)]

theorem result_cut {r s : Refinement} {extra : List Text}
    (bounded : ∀ start ∈ r.findings.junkStart, start < r.done.length)
    (done : s.done = r.done ++ extra)
    (junk : s.findings.junkStart = (r.findings.markJunk r.done.length).junkStart) :
    s.result.sectors = r.result.sectors := by
  simp only [Findings.markJunk] at junk
  cases early : r.findings.junkStart with
  | none =>
    rw [early] at junk
    rw [result_marked junk, result_unmarked early, done, List.take_left]
  | some start =>
    have within := bounded start early
    simp only [early, Nat.min_eq_left (Nat.le_of_lt within)] at junk
    exact result_behind early within done junk

/-- Refinement does not just drop a hyphen at the end. -/
theorem done_hyphen_ne {classifier : Classifier} (alone : classifier.Local) (sectors : List Text) :
    (run classifier ⟨[], sectors, false, 0, {}⟩).done ++ [hyphen] ≠ sectors := by
  induction size : sectors.length using Nat.strongRecOn generalizing sectors with
  | ind n ih =>
    intro same
    generalize first : (run classifier ⟨[], sectors, false, 0, {}⟩).done = front at same
    have shorter : front.length < n := by
      rw [← size, ← same]
      simp
    -- the front is refined by itself, and the hyphen is settled behind it
    have again : (run classifier ⟨[], front, false, 0, {}⟩).done ++ [hyphen] = front := by
      have whole := run_before alone (separator_hyphen.startsApart []) ⟨[], front, false, 0, {}⟩
      have head : ((run classifier ⟨[], front, false, 0, {}⟩).before [hyphen]).rest = [hyphen] := by
        rw [before, run_rest]
        rfl
      have settles := (run_separator classifier separator_hyphen head).trans
        (run_done (settle_rest _ _ _ _))
      have ends : (run classifier ⟨[], front ++ [hyphen], false, 0, {}⟩).done = _ :=
        congrArg Refinement.done (whole.trans settles)
      rw [same, first] at ends
      exact ends.symm
    exact ih front.length shorter front rfl again

end Refinement

namespace Movie

structure Sound (m : Movie) : Prop where
  formed : ∀ s ∈ m.media.sectors, Formed s
  capitals : m.media.sectors.IsChain KeepsCapital
  solid : ∀ s ∈ m.media.sectors, Solid s
  kept : (refine Lexicon.movies.classify m.media.sectors).sectors = m.media.sectors ↔
    Lexicon.movies.Steady m.media.sectors
  year : m.media.year = -1 ∨ (1900 ≤ m.media.year ∧ m.media.year ≤ 2099)
  undated : m.media.year = -1 → ∀ s ∈ m.media.sectors, yearOf? s = none
  part : m.media.part ≤ wordLimit
  undotted : '.' ∉ m.media.extension
  unnested : pathSeparator ∉ m.media.extension

theorem sound_of_read {input : Text} {m : Movie} (read : ({} : Renamer).parseMovie input = .ok m) :
    m.Sound := by
  simp only [Renamer.parseMovie, MediaFile.ofName?, bind, Except.bind] at read
  cases cut : SplitName.ofPath? input with
  | error failure => simp [cut, Except.map] at read
  | ok split =>
    simp only [cut, pure, Except.pure, Except.map, Except.ok.injEq] at read
    obtain ⟨-, -, flat, unnested, undotted⟩ := ofPath?_eq_ok.1 cut
    subst read
    exact ⟨refine_formed _ _, refine_capitals _ _, refine_solid _ (solid_sectorsOf flat),
      refine_twice_iff default_tags_no_year _, Lexicon.refine_year _ _, refine_undated,
      refine_part_le _ _, undotted, unnested⟩

def alone (m : Movie) : Refinement :=
  Refinement.run Lexicon.movies.classify ⟨[], m.media.sectors, false, 0, {}⟩

def again (m : Movie) : Refined := refine Lexicon.movies.classify m.canonicalWords

variable {m : Movie}

theorem startsApart_back (sound : m.Sound) :
    StartsApart (m.media.yearSectors ++ m.media.partSectors) := by
  rw [MediaFile.yearSectors, MediaFile.partSectors]
  split
  · have recent := sound.year
    exact (separator_bracketedYear (by omega)).startsApart _
  · split
    · exact separator_hyphen.startsApart _
    · exact startsApart_nil

theorem again_eq (sound : m.Sound) : m.again =
    (({ m.alone with rest := m.media.yearSectors ++ m.media.partSectors } : Refinement).run
      Lexicon.movies.classify).result := by
  have rest : m.alone.rest = [] := Refinement.run_rest _ _
  rw [again, canonicalWords, List.append_assoc,
    refine_append Lexicon.movies.classify_local (startsApart_back sound)]
  show ((m.alone.before _).run _).result = _
  rw [Refinement.before, rest, List.nil_append]

/-- What is left of the part: the hyphen, and the number as the part of the name. -/
theorem run_partSectors (sound : m.Sound) {r : Refinement} (head : r.rest = m.media.partSectors) :
    (r.run Lexicon.movies.classify).done = r.done ++ (if 0 < m.media.part then [hyphen] else []) ∧
      (r.run Lexicon.movies.classify).part = (if 0 < m.media.part then m.media.part else r.part) ∧
      (r.run Lexicon.movies.classify).findings.junkStart = r.findings.junkStart ∧
      (r.run Lexicon.movies.classify).findings.year = r.findings.year := by
  rw [MediaFile.partSectors] at head
  split at head
  · rename_i positive
    simpa only [if_pos positive] using Refinement.run_hyphenedPart sound.part head
  · rename_i none
    simp [Refinement.run_done head, none]

/-- The year cuts off the hyphen, unless nothing else is left of the sectors. -/
theorem again_dated (sound : m.Sound) (positive : 0 < m.media.year) :
    m.again.year = m.media.year ∧
      m.again.part = (if 0 < m.media.part then m.media.part else m.alone.part) ∧
      m.again.sectors = if m.alone.done = [] then
          bracketedYear m.media.year.toNat :: (if 0 < m.media.part then [hyphen] else [])
        else m.alone.result.sectors := by
  have recent : 1900 ≤ m.media.year.toNat ∧ m.media.year.toNat ≤ 2099 := by
    have := sound.year
    omega
  have bounded : ∀ start ∈ m.alone.findings.junkStart, start < m.alone.done.length :=
    Refinement.junkStart_run_lt Lexicon.movies m.media.sectors
  have back : m.media.yearSectors ++ m.media.partSectors =
      bracketedYear m.media.year.toNat :: m.media.partSectors := by
    rw [MediaFile.yearSectors, if_pos positive]
    rfl
  have settled : ({ m.alone with rest := bracketedYear m.media.year.toNat :: m.media.partSectors } :
      Refinement).settle Lexicon.movies.classify (bracketedYear m.media.year.toNat)
        m.media.partSectors = m.alone.settle Lexicon.movies.classify
          (bracketedYear m.media.year.toNat) m.media.partSectors := rfl
  rw [again_eq sound, back, Refinement.run_separator _ (separator_bracketedYear recent) rfl, settled]
  obtain ⟨told, marked⟩ := m.alone.settle_bracketedYear recent m.media.partSectors
  obtain ⟨done, part, junk, year⟩ :=
    run_partSectors sound (Refinement.settle_rest Lexicon.movies.classify
      (bracketedYear m.media.year.toNat) m.media.partSectors m.alone)
  rw [Refinement.settle_done, List.append_assoc] at done
  rw [told] at year
  rw [marked] at junk
  generalize Refinement.run _ (m.alone.settle _ _ _) = last at *
  refine ⟨?_, part, ?_⟩
  · show last.findings.year.getD (-1) = m.media.year
    rw [year, Option.getD_some]
    omega
  · split
    · -- the year is the first sector, where a bracket does not count as junk
      rename_i nothing
      rw [if_pos nothing] at junk
      have clean : m.alone.findings.junkStart = none := by
        cases early : m.alone.findings.junkStart with
        | none => rfl
        | some start =>
          have := bounded start early
          simp [nothing] at this
      rw [Refinement.result_unmarked (junk.trans clean), done, nothing]
      rfl
    · rename_i something
      rw [if_neg something] at junk
      exact Refinement.result_cut bounded done junk

/-- Without a year nothing cuts off the hyphen before the part. -/
theorem again_dateless (sound : m.Sound) (dateless : m.media.year = -1) :
    m.again.year = m.alone.result.year ∧
      m.again.part = (if 0 < m.media.part then m.media.part else m.alone.part) ∧
      (m.again.sectors = m.alone.result.sectors ∧ m.alone.findings.junkStart ≠ none ∨
        m.again.sectors = m.alone.done ++ (if 0 < m.media.part then [hyphen] else []) ∧
          m.alone.findings.junkStart = none) := by
  have bounded : ∀ start ∈ m.alone.findings.junkStart, start < m.alone.done.length :=
    Refinement.junkStart_run_lt Lexicon.movies m.media.sectors
  have back : m.media.yearSectors ++ m.media.partSectors = m.media.partSectors := by
    rw [MediaFile.yearSectors, if_neg (by omega)]
    rfl
  rw [again_eq sound, back]
  obtain ⟨done, part, junk, year⟩ :=
    run_partSectors sound (r := { m.alone with rest := m.media.partSectors }) rfl
  generalize Refinement.run _ { m.alone with rest := m.media.partSectors } = last at *
  refine ⟨congrArg (Option.getD · (-1)) year, part, ?_⟩
  cases early : m.alone.findings.junkStart with
  | none => exact Or.inr ⟨(Refinement.result_unmarked (junk.trans early)).trans done, rfl⟩
  | some start =>
    refine Or.inl ⟨?_, Option.some_ne_none start⟩
    exact Refinement.result_behind early (bounded start early) done (junk.trans early)

end Movie
end MediaNaming
