import MediaNaming.Error
import MediaNaming.Json.Reader
import MediaNaming.Json.Record

/- How canonical names are written and where they go. A document overrides what it names. -/
namespace MediaNaming

structure Configuration where
  episodeFormat : Text := "N - Sxe?( - T)?( (Y))".toList
  movieFormat : Text := "C?( (Y))?( - part P)".toList
  episodeFolder : Text := "TV Shows".toList
  movieFolder : Text := "Movies".toList
  lookupEnabled : Bool := false
  /-- The choice is put even when a search finds one series only. -/
  alwaysConfirm : Bool := false
deriving DecidableEq, Repr

namespace Configuration

def fieldNames : List Text :=
  ["tv_format".toList, "movie_format".toList, "tv_subdirectory".toList,
    "movie_subdirectory".toList, "lookup_enabled".toList, "always_confirm".toList]

def toJson (c : Configuration) : Json :=
  .ofMembers [("tv_format", .ofText c.episodeFormat), ("movie_format", .ofText c.movieFormat),
    ("tv_subdirectory", .ofText c.episodeFolder), ("movie_subdirectory", .ofText c.movieFolder),
    ("lookup_enabled", .bool c.lookupEnabled), ("always_confirm", .bool c.alwaysConfirm)]

def ofJson? (json : Json) : Option Configuration := do
  let fields ← json.shortRecord? fieldNames
  let base : Configuration := {}
  return {
    episodeFormat := ← Json.fieldOr? fields "tv_format".toList base.episodeFormat Json.text?
    movieFormat := ← Json.fieldOr? fields "movie_format".toList base.movieFormat Json.text?
    episodeFolder := ← Json.fieldOr? fields "tv_subdirectory".toList base.episodeFolder Json.text?
    movieFolder := ← Json.fieldOr? fields "movie_subdirectory".toList base.movieFolder Json.text?
    lookupEnabled := ← Json.fieldOr? fields "lookup_enabled".toList base.lookupEnabled Json.bool?
    alwaysConfirm := ← Json.fieldOr? fields "always_confirm".toList base.alwaysConfirm Json.bool? }

def read (document : Text) : Except NamingError Configuration :=
  match (Json.read? document).bind ofJson? with
  | some c => .ok c
  | none => .error .invalidConfig

end Configuration
end MediaNaming
