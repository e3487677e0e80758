import MediaNaming.Json.Record
import MediaNaming.Media.EpisodeFile
import MediaNaming.Media.Movie

/-
Saved files. Each record is written with all its fields in order and read by the rules for
records; what a file only remembers is not saved.
-/
namespace MediaNaming

namespace Quality

def toJson (q : Quality) : Json := .ofText q.name

/-- The name alone, or an object that gives the name and null. -/
def ofJson? : Json → Option Quality
  | .string (some name) => ofName? name
  | .object [(some name, .null)] => ofName? name
  | _ => none

end Quality

namespace MediaFile

def fieldNames : List Text :=
  ["original_name".toList, "extension".toList, "location".toList, "year".toList, "part".toList,
    "quality".toList, "sectors".toList]

def toJson (m : MediaFile) : Json :=
  .ofMembers [("original_name", .ofText m.rawName), ("extension", .ofText m.extension),
    ("location", .ofText m.location), ("year", .integer m.year), ("part", .ofNat m.part),
    ("quality", .ofOption Quality.toJson m.quality), ("sectors", .ofList .ofText m.sectors)]

def ofJson? (json : Json) : Option MediaFile := do
  let fields ← json.record? fieldNames
  return {
    rawName := ← Json.field? fields "original_name".toList Json.text?
    extension := ← Json.field? fields "extension".toList Json.text?
    location := ← Json.field? fields "location".toList Json.text?
    year := ← Json.field? fields "year".toList Json.signedWord?
    part := ← Json.field? fields "part".toList (Json.natUpTo? wordLimit)
    quality := ← Json.optionalField? fields "quality".toList Quality.ofJson?
    sectors := ← Json.field? fields "sectors".toList (Json.list? Json.text?) }

end MediaFile

namespace Movie

def toJson (m : Movie) : Json := .ofMembers [("media", m.media.toJson)]

def ofJson? (json : Json) : Option Movie := do
  let fields ← json.record? ["media".toList]
  return ⟨← Json.field? fields "media".toList MediaFile.ofJson?⟩

end Movie

def blockToJson (block : Nat × Nat) : Json := .array [.ofNat block.1, .ofNat block.2]

def blockOfJson? : Json → Option (Nat × Nat)
  | .array [start, stop] => do
    return (← start.natUpTo? longLimit, ← stop.natUpTo? longLimit)
  | _ => none

namespace Episode

def fieldNames : List Text :=
  ["media".toList, "series_name".toList, "episode_title".toList, "season_in_name".toList,
    "episodes".toList, "block".toList]

def toJson (e : Episode) : Json :=
  .ofMembers [("media", e.media.toJson), ("series_name", .ofText e.seriesName),
    ("episode_title", .ofText e.episodeTitle),
    ("season_in_name", .ofOption .ofNat e.seasonInName), ("episodes", .ofList .ofNat e.episodes),
    ("block", .ofOption blockToJson e.block)]

def ofJson? (json : Json) : Option Episode := do
  let fields ← json.record? fieldNames
  return {
    media := ← Json.field? fields "media".toList MediaFile.ofJson?
    seriesName := ← Json.field? fields "series_name".toList Json.text?
    episodeTitle := ← Json.field? fields "episode_title".toList Json.text?
    seasonInName :=
      ← Json.optionalField? fields "season_in_name".toList (Json.natUpTo? wordLimit)
    episodes := ← Json.field? fields "episodes".toList (Json.list? (Json.natUpTo? wordLimit))
    block := ← Json.optionalField? fields "block".toList blockOfJson? }

end Episode

namespace EpisodeFile

def toJson (f : EpisodeFile) : Json := f.episode.toJson

def ofJson? (json : Json) : Option EpisodeFile := (Episode.ofJson? json).map fresh

end EpisodeFile
end MediaNaming
