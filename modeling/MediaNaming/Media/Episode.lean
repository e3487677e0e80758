import MediaNaming.Episode.Parts
import MediaNaming.Media.MediaFile
import MediaNaming.Template.Renderer
import MediaNaming.Template.Shape

/-
A file of one or more episodes. The season stands in the name or else in the folder. A title
that was resolved elsewhere stands in for a missing one.
-/
namespace MediaNaming

structure Episode where
  media : MediaFile
  seriesName : Text
  episodeTitle : Text
  seasonInName : Option Nat
  episodes : List Nat
  /-- The first and the last sector that hold season and episodes. -/
  block : Option (Nat × Nat)
deriving DecidableEq, Repr

def lastFolder (location : Text) : Text :=
  ((location.pieces (· == pathSeparator)).filter (· != [])).getLastD []

/-- The season that a folder such as `Season 02` names, or 0. -/
def folderSeason (location : Text) : Nat :=
  let folder := (lastFolder location).trim.lowercase
  match (Text.afterLead? "season".toList folder).or (Text.afterLead? "series".toList folder) with
  | none => 0
  | some rest =>
    let digits := rest.dropWhile fun c => c == ' ' || c == '.' || c == '_' || c == '-'
    (Text.readNumber? wordLimit digits).getD 0

namespace Episode

def ofParts (media : MediaFile) (parts : EpisodeParts) : Episode :=
  ⟨media, parts.seriesName, parts.episodeTitle, parts.season, parts.episodes, parts.block⟩

def ofName? (classifier : Classifier) (input : Text) : Except NamingError Episode := do
  let media ← MediaFile.ofName? classifier input
  let extraction := extract media.sectors media.year input
  return ofParts { media with sectors := extraction.sectors } (← extraction.parts)

def season (e : Episode) : Nat := e.seasonInName.getD (folderSeason e.media.location)

def seasonText (e : Episode) : Text := if e.season = 0 then [] else Text.ofPadded e.season

def numbersText (e : Episode) : Text := Text.join ['-'] (e.episodes.map Text.ofPadded)

def fieldsWithTitle (e : Episode) (title : Text) : Fields
  | 'N' => some e.seriesName
  | 'T' => some title
  | 'S' => some e.seasonText
  | 'e' => some e.numbersText
  | c => e.media.fields c

end Episode

structure TitledEpisode where
  episode : Episode
  resolved : Option Text := none
deriving DecidableEq, Repr

namespace TitledEpisode

/-- A resolved title counts only where the name gives none. -/
def title (e : TitledEpisode) : Text :=
  if e.episode.episodeTitle = [] then e.resolved.getD [] else e.episode.episodeTitle

def fields (e : TitledEpisode) : Fields := e.episode.fieldsWithTitle e.title

def isValid (e : TitledEpisode) : Bool :=
  match renderOnce "N - Sxe?( - T)?( (Y))".toList e.fields with
  | .ok name => hasEpisodeShape name
  | .error _ => false

end TitledEpisode
end MediaNaming
