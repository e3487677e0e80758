import MediaNaming.Proofs.Episode.Quoting
import MediaNaming.Proofs.Naming.Phrase

/-
Delimiters only separate. A raw name counts by its location, the words of its name and its
extension; the raw name itself is kept to be told, in the file that is read or in an error.
-/
namespace MediaNaming

def fragmentsOf? (input : Text) : Option (Text × List Text × Text) :=
  match SplitName.ofPath? input with
  | .ok split => some (split.location, wordsOf split.name, split.extension)
  | .error _ => none

/-- The error without the input that it quotes. -/
def NamingError.unquoted (e : NamingError) : NamingError := e.about []

namespace MediaFile

def unnamed (m : MediaFile) : MediaFile := { m with rawName := [] }

def ofWords (classifier : Classifier) (location : Text) (words : List Text) (extension : Text) :
    MediaFile :=
  let refined := refine classifier words
  ⟨[], extension, location, refined.year, refined.part, refined.quality, refined.sectors⟩

end MediaFile

def Movie.unnamed (m : Movie) : Movie := ⟨m.media.unnamed⟩

def Episode.unnamed (e : Episode) : Episode := { e with media := e.media.unnamed }

variable {lexicon : Lexicon}

theorem refine_wordsOf (name : Text) :
    refine lexicon.classify (sectorsOf name) = refine lexicon.classify (wordsOf name) :=
  (refine_filter lexicon.classify_local (sectorsOf name)).symm

theorem ofName?_unnamed (input : Text) :
    ((MediaFile.ofName? lexicon.classify input).map MediaFile.unnamed).mapError NamingError.unquoted =
      match fragmentsOf? input with
      | some (location, words, extension) => .ok (.ofWords lexicon.classify location words extension)
      | none => .error (NamingError.noExtension []) := by
  cases cut : SplitName.ofPath? input with
  | ok split =>
    simp only [fragmentsOf?, cut, MediaFile.ofWords, ← refine_wordsOf]
    rw [MediaFile.ofName?, cut]
    rfl
  | error e =>
    have failed : MediaFile.ofName? lexicon.classify input = .error e := by
      rw [MediaFile.ofName?, cut]
      rfl
    simp only [fragmentsOf?, cut]
    rw [failed, ofName?_error failed]
    rfl

theorem parseMovie_unnamed (r : Renamer) (input : Text) :
    ((r.parseMovie input).map Movie.unnamed).mapError NamingError.unquoted =
      (((MediaFile.ofName? r.movieClassifier input).map MediaFile.unnamed).mapError
        NamingError.unquoted).map Movie.mk := by
  rw [Renamer.parseMovie]
  cases MediaFile.ofName? r.movieClassifier input <;> rfl

theorem ofName?_episode_unnamed (classifier : Classifier) (input : Text) :
    ((Episode.ofName? classifier input).map Episode.unnamed).mapError NamingError.unquoted =
      (((MediaFile.ofName? classifier input).map MediaFile.unnamed).mapError NamingError.unquoted).bind
        fun media =>
          let extraction := extract media.sectors media.year []
          extraction.parts.map (Episode.ofParts { media with sectors := extraction.sectors }) := by
  cases read : MediaFile.ofName? classifier input with
  | error e => rw [Episode.ofName?, read]; rfl
  | ok media =>
    have told := extract_about input [] media.sectors media.year
    simp only [Episode.ofName?, read, Except.map, Except.mapError, Except.bind, MediaFile.unnamed,
      told, bind]
    cases (extract media.sectors media.year input).parts <;> rfl

theorem parse_same_fragments (config : Configuration) (movies episodes : Lexicon)
    {input other : Text} (same : fragmentsOf? input = fragmentsOf? other) :
    let r : Renamer := ⟨config, movies.classify, episodes.classify⟩
    ((r.parseMovie input).map Movie.unnamed).mapError NamingError.unquoted =
        ((r.parseMovie other).map Movie.unnamed).mapError NamingError.unquoted ∧
      ((r.parseEpisode input).map Episode.unnamed).mapError NamingError.unquoted =
        ((r.parseEpisode other).map Episode.unnamed).mapError NamingError.unquoted ∧
      ∀ (lexicon : Lexicon) (sectors : List Text),
        refine lexicon.classify (sectors.filter isFull) = refine lexicon.classify sectors := by
  intro r
  have media (lexicon : Lexicon) :
      ((MediaFile.ofName? lexicon.classify input).map MediaFile.unnamed).mapError
          NamingError.unquoted =
        ((MediaFile.ofName? lexicon.classify other).map MediaFile.unnamed).mapError
          NamingError.unquoted := by
    rw [ofName?_unnamed, ofName?_unnamed, same]
  refine ⟨?_, ?_, fun lexicon => refine_filter lexicon.classify_local⟩
  · rw [parseMovie_unnamed, parseMovie_unnamed, media]
  · rw [Renamer.parseEpisode, Renamer.parseEpisode, ofName?_episode_unnamed,
      ofName?_episode_unnamed, media]

theorem parse_part_and_seasons :
    let input := "tv/Show.S01.part.2.S02.mkv".toList
    let other := "tv/_Show S01,part_._2  S02..mkv".toList
    let r : Renamer := {}
    fragmentsOf? input = fragmentsOf? other ∧
      ((r.parseMovie input).map Movie.unnamed).mapError NamingError.unquoted =
        ((r.parseMovie other).map Movie.unnamed).mapError NamingError.unquoted ∧
      ((r.parseEpisode input).map Episode.unnamed).mapError NamingError.unquoted =
        ((r.parseEpisode other).map Episode.unnamed).mapError NamingError.unquoted ∧
      (r.parseMovie other).map (fun m => (m.media.sectors, m.media.part)) =
        .ok (["Show".toList, "S01".toList, "S02".toList], 2) ∧
      r.parseEpisode other = .error (.conflictingSeasons 1 2 other) := by
  intro input other r
  have same : fragmentsOf? input = fragmentsOf? other := by decide +kernel
  obtain ⟨movie, episode, -⟩ := parse_same_fragments {} Lexicon.movies Lexicon.episodes same
  exact ⟨same, movie, episode, by decide +kernel, by decide +kernel⟩

end MediaNaming
