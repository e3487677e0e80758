import MediaNaming.Proofs.Episode.Around
import MediaNaming.Proofs.Naming.MovieRereading

/-
Renaming movies twice. A canonical name is read and written again as it is exactly when a second
refinement keeps the sectors and no part stands there without a year: the hyphen before the part is
left among the sectors, and only a year cuts it off.
-/
namespace MediaNaming
namespace Movie

def Stable (m : Movie) : Prop :=
  ∃ name g, ({} : Renamer).renderMovie m = .ok name ∧
    ({} : Renamer).parseMovie (name ++ '.' :: m.media.extension) = .ok g ∧
    ({} : Renamer).renderMovie g = .ok name

theorem stable_iff {m : Movie} : m.Stable ↔
    ∃ g ∈ (({} : Renamer).parseMovie (m.canonicalName ++ '.' :: m.media.extension)).toOption,
      g.canonicalName = m.canonicalName := by
  constructor
  · rintro ⟨name, g, shown, read, again⟩
    rw [renderMovie_canonicalName] at shown again
    cases shown
    exact ⟨g, mem_toOption.2 read, Except.ok.inj again⟩
  · rintro ⟨g, read, same⟩
    exact ⟨_, g, renderMovie_canonicalName m, mem_toOption.1 read,
      same ▸ renderMovie_canonicalName g⟩

instance (m : Movie) : Decidable m.Stable := decidable_of_iff _ stable_iff.symm

variable {m : Movie}

def reread (m : Movie) : Movie :=
  ⟨⟨m.canonicalName, m.media.extension, [], m.again.year, m.again.part, m.again.quality,
    m.again.sectors⟩⟩

theorem Sound.words (sound : m.Sound) : ∀ s ∈ m.media.sectors, s ≠ [] ∧ Solid s :=
  fun s member => ⟨(sound.formed s member).nonempty, sound.solid s member⟩

theorem again_sectorsOf (sound : m.Sound) :
    refine Lexicon.movies.classify (sectorsOf m.canonicalName) = m.again := by
  rw [again, ← wordsOf_canonicalName sound.words, wordsOf,
    refine_filter Lexicon.movies.classify_local]

theorem parseMovie_canonicalName (sound : m.Sound) :
    ({} : Renamer).parseMovie (m.canonicalName ++ '.' :: m.media.extension) = .ok m.reread := by
  have cut := ofPath?_inFolder none (flat_canonicalName sound.words) sound.undotted sound.unnested
  have split : SplitName.ofPath? (m.canonicalName ++ '.' :: m.media.extension) = _ := cut
  simp only [Renamer.parseMovie, MediaFile.ofName?, split, bind, Except.bind, pure, Except.pure,
    Except.map, again_sectorsOf sound]
  rfl

theorem stable_iff_reread (sound : m.Sound) :
    m.Stable ↔ m.reread.canonicalName = m.canonicalName := by
  rw [stable_iff, parseMovie_canonicalName sound]
  simp [Except.toOption]

theorem wordsOf_reread (sound : m.Sound) :
    wordsOf m.reread.canonicalName = m.reread.canonicalWords := by
  apply wordsOf_canonicalName
  intro s member
  have again : s ∈ (refine Lexicon.movies.classify (sectorsOf m.canonicalName)).sectors := by
    rw [again_sectorsOf sound]
    exact member
  exact ⟨(refine_formed _ _ s again).nonempty,
    refine_solid _ (solid_sectorsOf (flat_canonicalName sound.words)) s again⟩

theorem partWord_not_mem (sound : m.Sound) : partWord ∉ m.media.sectors := by
  intro member
  have capital := (sound.formed partWord member).capitalized
  revert capital
  decide

/-- Steady sectors are kept by a second refinement, which finds no part of its own and no year where
    there was none. -/
theorem alone_of_steady (sound : m.Sound) (steady : Lexicon.movies.Steady m.media.sectors) :
    m.alone.done = m.media.sectors ∧ m.alone.part = 0 ∧
      (m.media.year = -1 → m.alone.result.year = -1) := by
  have settled : Settled m.media.sectors :=
    ⟨fun s member => (sound.formed s member).toWhole, steady.markers, sound.capitals⟩
  obtain ⟨done, part, found⟩ := Refinement.run_settled Lexicon.movies.classify
    (r := ⟨[], m.media.sectors, false, 0, {}⟩) settled (fun _ _ _ => rfl)
  refine ⟨?_, part, fun dateless => ?_⟩
  · rw [alone, done]
    exact map_capitalize_of_formed sound.formed
  · have told := Lexicon.year_findingsFrom Lexicon.movies [] m.media.sectors {}
    have silent : (m.media.sectors.filterMap fun s => yearOf? s.capitalize) = [] := by
      rw [List.filterMap_eq_nil_iff]
      intro s member
      rw [(sound.formed s member).capitalized]
      exact sound.undated dateless s member
    rw [silent] at told
    rw [alone, Refinement.result, found, told]
    rfl

theorem again_of_steady (sound : m.Sound) (named : m.media.sectors ≠ [])
    (steady : Lexicon.movies.Steady m.media.sectors)
    (shielded : m.media.part = 0 ∨ 0 < m.media.year) :
    m.again.sectors = m.media.sectors ∧ m.again.year = m.media.year ∧
      m.again.part = m.media.part := by
  obtain ⟨done, none, dateless⟩ := alone_of_steady sound steady
  have kept : m.alone.result.sectors = m.media.sectors := sound.kept.2 steady
  have parts : (if 0 < m.media.part then m.media.part else m.alone.part) = m.media.part := by
    rw [none]
    split
    · rfl
    · omega
  by_cases positive : 0 < m.media.year
  · obtain ⟨year, part, sectors⟩ := again_dated sound positive
    rw [if_neg (by rw [done]; exact named)] at sectors
    exact ⟨sectors.trans kept, year, part.trans parts⟩
  · have unparted : m.media.part = 0 := shielded.resolve_right positive
    have early : m.media.year = -1 := by
      have := sound.year
      omega
    obtain ⟨year, part, sectors⟩ := again_dateless sound early
    refine ⟨?_, year.trans ((dateless early).trans early.symm), part.trans parts⟩
    rcases sectors with ⟨same, _⟩ | ⟨same, _⟩
    · exact same.trans kept
    · simpa [unparted, done] using same

theorem stable_of_steady (sound : m.Sound) (named : m.media.sectors ≠ [])
    (steady : Lexicon.movies.Steady m.media.sectors)
    (shielded : m.media.part = 0 ∨ 0 < m.media.year) : m.Stable := by
  obtain ⟨sectors, year, part⟩ := again_of_steady sound named steady shielded
  rw [stable_iff_reread sound]
  simp only [canonicalName, reread, MediaFile.cleanName, MediaFile.yearPart, MediaFile.partPart,
    sectors, year, part]

theorem partSectors_unparted (sound : m.Sound) (unparted : m.media.partSectors = [])
    (same : m.reread.canonicalWords = m.canonicalWords) : m.reread.media.partSectors = [] := by
  by_contra some
  have word : partWord ∈ m.reread.media.partSectors := by
    rw [MediaFile.partSectors] at some ⊢
    split
    · simp
    · rename_i none
      simp [none] at some
  -- the word for the part would have to be a sector or the year
  have among : partWord ∈ m.canonicalWords := by
    rw [← same]
    exact List.mem_append_right _ word
  rw [canonicalWords, unparted, List.append_nil] at among
  rcases List.mem_append.1 among with sector | year
  · exact partWord_not_mem sound sector
  · rw [MediaFile.yearSectors] at year
    split at year
    · have bracketed := List.mem_singleton.1 year
      exact absurd (congrArg List.head? bracketed) (by simp [partWord, bracketedYear])
    · contradiction

/-- The part is read again as it is shown, so that the words before it are the same, too. -/
theorem front_reread (sound : m.Sound)
    (part : m.again.part = if 0 < m.media.part then m.media.part else m.alone.part)
    (same : m.reread.canonicalWords = m.canonicalWords) :
    m.again.sectors ++ m.reread.media.yearSectors = m.media.sectors ++ m.media.yearSectors := by
  have parts : m.reread.media.partSectors = m.media.partSectors := by
    by_cases parted : 0 < m.media.part
    · simp only [MediaFile.partSectors, reread, part, if_pos parted]
    · have none : m.media.partSectors = [] := if_neg parted
      rw [partSectors_unparted sound none same, none]
  rw [canonicalWords, canonicalWords, parts] at same
  exact List.append_cancel_right same

theorem yearSectors_reread (sound : m.Sound) (dateless : m.media.year = -1)
    (among : ∀ s ∈ m.reread.media.yearSectors, s ∈ m.media.sectors) :
    m.reread.media.yearSectors = [] := by
  have bounds : m.again.year = -1 ∨ (1900 ≤ m.again.year ∧ m.again.year ≤ 2099) :=
    Lexicon.refine_year _ _
  rw [MediaFile.yearSectors] at among ⊢
  split
  · rename_i positive
    have told : 0 < m.again.year := positive
    rw [if_pos positive] at among
    have member := among _ (List.mem_singleton.2 rfl)
    have silent := sound.undated dateless _ member
    rw [show m.reread.media.year = m.again.year from rfl,
      yearOf?_bracketedYear (by omega)] at silent
    contradiction
  · rfl

theorem sectors_of_dated (sound : m.Sound) (positive : 0 < m.media.year)
    (same : m.reread.canonicalWords = m.canonicalWords) : m.again.sectors = m.media.sectors := by
  obtain ⟨year, part, _⟩ := again_dated sound positive
  have years : m.reread.media.yearSectors = m.media.yearSectors := by
    simp only [MediaFile.yearSectors, reread, year]
  have front := front_reread sound part same
  rw [years] at front
  exact List.append_cancel_right front

theorem alone_ne_nil {y : Nat} (recent : 1900 ≤ y ∧ y ≤ 2099) {rest : List Text}
    (back : ∀ s ∈ rest, Separator s) (sectors : m.media.sectors = bracketedYear y :: rest) :
    m.alone.done ≠ [] := by
  have separators : ∀ s ∈ m.media.sectors, Separator s := by
    rw [sectors]
    intro s member
    rcases List.mem_cons.1 member with rfl | later
    · exact separator_bracketedYear recent
    · exact back s later
  have settled := settled_of_inert fun s member => (separators s member).toInert
  have done := (Refinement.run_settled Lexicon.movies.classify
    (r := ⟨[], m.media.sectors, false, 0, {}⟩) settled (fun _ _ _ => rfl)).1
  intro none
  rw [alone] at none
  rw [none, sectors] at done
  simp at done

theorem steady_of_dated (sound : m.Sound) (positive : 0 < m.media.year)
    (same : m.reread.canonicalWords = m.canonicalWords) :
    Lexicon.movies.Steady m.media.sectors := by
  have recent : 1900 ≤ m.media.year.toNat ∧ m.media.year.toNat ≤ 2099 := by
    have := sound.year
    omega
  have again := sectors_of_dated sound positive same
  obtain ⟨_, _, sectors⟩ := again_dated sound positive
  rw [again] at sectors
  split at sectors
  · rename_i nothing
    refine absurd nothing (alone_ne_nil recent ?_ sectors)
    intro s member
    split at member
    · obtain rfl := List.mem_singleton.1 member
      exact separator_hyphen
    · contradiction
  · exact sound.kept.1 sectors.symm

theorem sectors_of_dateless (sound : m.Sound) (dateless : m.media.year = -1)
    (same : m.reread.canonicalWords = m.canonicalWords) : m.again.sectors = m.media.sectors := by
  obtain ⟨_, part, _⟩ := again_dateless sound dateless
  have front := front_reread sound part same
  rw [show m.media.yearSectors = [] from if_neg (by omega), List.append_nil] at front
  have none := yearSectors_reread sound dateless fun s member => by
    rw [← front]
    exact List.mem_append_right _ member
  rwa [none, List.append_nil] at front

theorem sectors_ne_of_junk (sound : m.Sound) (junk : m.alone.findings.junkStart ≠ none) :
    m.alone.result.sectors ≠ m.media.sectors := by
  obtain ⟨start, early⟩ := Option.ne_none_iff_exists'.1 junk
  -- what is settled is cut off somewhere, and it was no more than the sectors
  have within : start < m.alone.done.length :=
    Refinement.junkStart_run_lt Lexicon.movies m.media.sectors start early
  have bound : m.alone.done.length ≤ 0 + m.media.sectors.length :=
    (Refinement.run_length_le Lexicon.movies.classify (r := ⟨[], m.media.sectors, false, 0, {}⟩)
      sound.formed).1
  intro kept
  have length := congrArg List.length kept
  rw [Refinement.result_marked early, List.length_take] at length
  omega

/-- Without a year, only a name without a part can be stable: the hyphen before the part is left
    behind the sectors. -/
theorem steady_of_dateless (sound : m.Sound) (dateless : m.media.year = -1)
    (same : m.reread.canonicalWords = m.canonicalWords) :
    Lexicon.movies.Steady m.media.sectors ∧ m.media.part = 0 := by
  have again := sectors_of_dateless sound dateless same
  obtain ⟨_, _, sectors⟩ := again_dateless sound dateless
  rw [again] at sectors
  rcases sectors with ⟨kept, junk⟩ | ⟨kept, clean⟩
  · exact absurd kept.symm (sectors_ne_of_junk sound junk)
  · by_cases parted : 0 < m.media.part
    · rw [if_pos parted] at kept
      exact absurd kept.symm (Refinement.done_hyphen_ne Lexicon.movies.classify_local _)
    · rw [if_neg parted, List.append_nil, ← Refinement.result_unmarked clean] at kept
      exact ⟨sound.kept.1 kept.symm, by omega⟩

end Movie

theorem movie_stable_iff {input : Text} {m : Movie}
    (read : ({} : Renamer).parseMovie input = .ok m) (named : m.media.sectors ≠ []) :
    m.Stable ↔ Lexicon.movies.Steady m.media.sectors ∧ (m.media.part = 0 ∨ 0 < m.media.year) := by
  have sound := Movie.sound_of_read read
  constructor
  · intro stable
    have names := (Movie.stable_iff_reread sound).1 stable
    have same : m.reread.canonicalWords = m.canonicalWords := by
      rw [← Movie.wordsOf_reread sound, names, Movie.wordsOf_canonicalName sound.words]
    rcases sound.year with dateless | dated
    · obtain ⟨steady, unparted⟩ := Movie.steady_of_dateless sound dateless same
      exact ⟨steady, Or.inl unparted⟩
    · have positive : 0 < m.media.year := by omega
      exact ⟨Movie.steady_of_dated sound positive same, Or.inr positive⟩
  · rintro ⟨steady, shielded⟩
    exact Movie.stable_of_steady sound named steady shielded

theorem movie_stable_dated : ∃ m,
    ({} : Renamer).parseMovie "the.matrix.1999.part.2.mkv".toList = .ok m ∧
      m.canonicalName = "The Matrix (1999) - part 2".toList ∧ m.media.sectors ≠ [] ∧ m.Stable := by
  have evaluated : ∃ m ∈ (({} : Renamer).parseMovie "the.matrix.1999.part.2.mkv".toList).toOption,
      m.canonicalName = "The Matrix (1999) - part 2".toList ∧ m.media.sectors ≠ [] ∧
        Lexicon.movies.Steady m.media.sectors ∧ (m.media.part = 0 ∨ 0 < m.media.year) := by
    decide +kernel
  obtain ⟨m, told, name, named, steady, shielded⟩ := evaluated
  have read := mem_toOption.1 told
  exact ⟨m, read, name, named, (movie_stable_iff read named).2 ⟨steady, shielded⟩⟩

/-- Names that change when they are rendered again: a part without a year, a number that comes next
    to a bare marker only in the first reading, and capitals that spell a tag once they are joined. -/
def unstableMovies : List Text :=
  ["Movie.Part.Two.mkv", "Movie.Part.5-foo.mkv", "Movie.H.D.T.V.mkv"].map String.toList

def UnstableMovie (input : Text) : Prop :=
  ∃ m, ({} : Renamer).parseMovie input = .ok m ∧ m.media.sectors ≠ [] ∧ ¬ m.Stable

theorem unstable_unstableMovies : unstableMovies.Forall UnstableMovie := by
  have evaluated : ∀ input ∈ unstableMovies, ∃ m ∈ (({} : Renamer).parseMovie input).toOption,
      m.media.sectors ≠ [] ∧ ¬ m.Stable := by decide +kernel
  rw [List.forall_iff_forall_mem]
  intro input member
  obtain ⟨m, told, unstable⟩ := evaluated input member
  exact ⟨m, mem_toOption.1 told, unstable⟩

end MediaNaming
