import MediaNaming.Media.Episode
import MediaNaming.Media.Movie
import MediaNaming.Naming.Configuration
import MediaNaming.Naming.Path

/- Reading raw names and writing canonical ones, by one configuration and two classifiers. -/
namespace MediaNaming

structure Renamer where
  config : Configuration := {}
  movieClassifier : Classifier := Lexicon.movies.classify
  episodeClassifier : Classifier := Lexicon.episodes.classify

structure Batch where
  parsed : List Episode := []
  skipped : List (Text × NamingError) := []

namespace Renamer

def parseMovie (r : Renamer) (input : Text) : Except NamingError Movie :=
  (MediaFile.ofName? r.movieClassifier input).map Movie.mk

def parseEpisode (r : Renamer) (input : Text) : Except NamingError Episode :=
  Episode.ofName? r.episodeClassifier input

/-- Reads every name. An error that rejects one file leaves out that file; any other ends the
    batch. -/
def parseBatch (r : Renamer) : List Text → Except NamingError Batch
  | [] => .ok {}
  | input :: more =>
    match r.parseEpisode input with
    | .ok e => do
      let batch ← r.parseBatch more
      return { batch with parsed := e :: batch.parsed }
    | .error why =>
      if why.rejectsFile then do
        let batch ← r.parseBatch more
        return { batch with skipped := (input, why) :: batch.skipped }
      else .error why

def renderMovie (r : Renamer) (m : Movie) : Except NamingError Text :=
  renderOnce r.config.movieFormat m.fields

def renderEpisode (r : Renamer) (e : TitledEpisode) : Except NamingError Text :=
  renderOnce r.config.episodeFormat e.fields

def movieTarget (r : Renamer) (m : Movie) : Except NamingError Text :=
  (r.renderMovie m).map fun name =>
    targetPath m.media.location r.config.movieFolder name m.media.extension

def episodeTarget (r : Renamer) (e : TitledEpisode) : Except NamingError Text :=
  (r.renderEpisode e).map fun name =>
    targetPath e.episode.media.location r.config.episodeFolder name e.episode.media.extension

end Renamer
end MediaNaming
