import MediaNaming.Media.Document
import MediaNaming.Proofs.Json.Records

/-
Files that are saved and read back. Every field is written under its name and read by its own rule,
which gives back what was written as long as the numbers fit. What a file only remembers, the season
of its folder and a resolved title, is not saved; the season is found again in the same folder.
-/
namespace MediaNaming

theorem Quality.ofJson?_toJson (q : Quality) : ofJson? q.toJson = some q := by
  cases q <;> decide

theorem blockOfJson?_blockToJson {block : Nat × Nat}
    (small : block.1 ≤ longLimit ∧ block.2 ≤ longLimit) :
    blockOfJson? (blockToJson block) = some block := by
  rw [blockToJson, blockOfJson?, Json.natUpTo?_ofNat small.1, Json.natUpTo?_ofNat small.2]
  rfl

theorem textual_blockToJson (block : Nat × Nat) : Json.Textual (blockToJson block) := by
  apply Json.Textual.array
  simp only [List.forall_mem_cons]
  exact ⟨.integer _, .integer _, nofun⟩

namespace MediaFile

structure InRange (m : MediaFile) : Prop where
  year : -0x80000000 ≤ m.year ∧ m.year < 0x80000000
  part : m.part ≤ wordLimit

theorem textual_toJson (m : MediaFile) : Json.Textual m.toJson := by
  apply Json.textual_ofMembers
  simp only [List.forall_mem_cons]
  exact ⟨.string _, .string _, .string _, .integer _, .integer _,
    Json.textual_ofOption fun _ _ => .string _, Json.textual_ofList fun _ _ => .string _, nofun⟩

theorem ofJson?_toJson {m : MediaFile} (fits : m.InRange) : ofJson? m.toJson = some m := by
  obtain ⟨fields, recorded, written⟩ : ∃ fields, m.toJson.record? fieldNames = some fields ∧ _ :=
    Json.record?_ofMembers rfl (by decide)
  simp only [List.forall_mem_cons] at written
  obtain ⟨name, extension, location, year, part, quality, sectors, -⟩ := written
  have qualityBack : Json.orNull? Quality.ofJson? (.ofOption Quality.toJson m.quality) =
      some m.quality := Json.orNull?_ofOption rfl fun q _ => q.ofJson?_toJson
  have sectorsBack : Json.list? Json.text? (.ofList .ofText m.sectors) = some m.sectors :=
    Json.list?_ofList fun _ _ => rfl
  simp only [ofJson?, recorded, Json.field?, Json.optionalField?, name, extension, location, year,
    part, quality, sectors, Json.ofText, Json.text?, Json.signedWord?_integer fits.year,
    Json.natUpTo?_ofNat fits.part, qualityBack, sectorsBack, Option.bind_eq_bind, Option.bind_some,
    Option.pure_def]

end MediaFile

namespace Movie

theorem textual_toJson (m : Movie) : Json.Textual m.toJson := by
  apply Json.textual_ofMembers
  simp only [List.forall_mem_cons]
  exact ⟨m.media.textual_toJson, nofun⟩

theorem ofJson?_toJson {m : Movie} (fits : m.media.InRange) : ofJson? m.toJson = some m := by
  obtain ⟨fields, recorded, written⟩ :
      ∃ fields, m.toJson.record? ["media".toList] = some fields ∧ _ :=
    Json.record?_ofMembers rfl (by decide)
  simp only [List.forall_mem_cons] at written
  simp only [ofJson?, recorded, Json.field?, written.1, MediaFile.ofJson?_toJson fits,
    Option.bind_eq_bind, Option.bind_some, Option.pure_def]

end Movie

namespace Episode

structure InRange (e : Episode) : Prop where
  media : e.media.InRange
  season : ∀ n ∈ e.seasonInName, n ≤ wordLimit
  episodes : ∀ n ∈ e.episodes, n ≤ wordLimit
  block : ∀ block ∈ e.block, block.1 ≤ longLimit ∧ block.2 ≤ longLimit

theorem textual_toJson (e : Episode) : Json.Textual e.toJson := by
  apply Json.textual_ofMembers
  simp only [List.forall_mem_cons]
  exact ⟨e.media.textual_toJson, .string _, .string _, Json.textual_ofOption fun _ _ => .integer _,
    Json.textual_ofList fun _ _ => .integer _,
    Json.textual_ofOption fun _ _ => textual_blockToJson _, nofun⟩

theorem ofJson?_toJson {e : Episode} (fits : e.InRange) : ofJson? e.toJson = some e := by
  obtain ⟨fields, recorded, written⟩ : ∃ fields, e.toJson.record? fieldNames = some fields ∧ _ :=
    Json.record?_ofMembers rfl (by decide)
  simp only [List.forall_mem_cons] at written
  obtain ⟨media, series, title, season, episodes, block, -⟩ := written
  have seasonBack : Json.orNull? (Json.natUpTo? wordLimit) (.ofOption .ofNat e.seasonInName) =
      some e.seasonInName :=
    Json.orNull?_ofOption rfl fun n told => Json.natUpTo?_ofNat (fits.season n told)
  have episodesBack : Json.list? (Json.natUpTo? wordLimit) (.ofList .ofNat e.episodes) =
      some e.episodes :=
    Json.list?_ofList fun n member => Json.natUpTo?_ofNat (fits.episodes n member)
  have blockBack : Json.orNull? blockOfJson? (.ofOption blockToJson e.block) = some e.block :=
    Json.orNull?_ofOption rfl fun block held => blockOfJson?_blockToJson (fits.block block held)
  simp only [ofJson?, recorded, Json.field?, Json.optionalField?, media, series, title, season,
    episodes, block, MediaFile.ofJson?_toJson fits.media, Json.ofText, Json.text?, seasonBack,
    episodesBack, blockBack, Option.bind_eq_bind, Option.bind_some, Option.pure_def]

end Episode

namespace EpisodeFile

/-- Without a resolved title, a file that remembers nothing is the same file. -/
theorem fresh_same {f : EpisodeFile} (unresolved : f.resolved = none) :
    (fresh f.episode).toTitledEpisode = f.toTitledEpisode := by
  rw [show f.toTitledEpisode = ⟨f.episode, f.resolved⟩ from rfl, unresolved]
  rfl

end EpisodeFile

/-- Saved files are read back whole. What is written is the text of the saved form; and from that
    form an equal file is read, with the season, the fields and the validity of the one that was
    saved, whatever season it remembered, unless a title had been resolved for it. -/
theorem saved_files_read_back :
    (∀ f : EpisodeFile, f.episode.InRange → f.resolved = none →
      Json.read? f.toJson.write = some f.toJson ∧
        ∃ back, EpisodeFile.ofJson? f.toJson = some back ∧ (back == f) = true ∧
          back.season.1 = f.season.1 ∧ (∀ letter, back.fields letter = f.fields letter) ∧
          back.isValid = f.isValid) ∧
      ∀ m : Movie, m.media.InRange →
        Json.read? m.toJson.write = some m.toJson ∧ Movie.ofJson? m.toJson = some m := by
  constructor
  · intro f fits unresolved
    have same := EpisodeFile.fresh_same unresolved
    refine ⟨Json.read?_write f.episode.textual_toJson, .fresh f.episode, ?_, ?_, ?_, ?_, ?_⟩
    · rw [EpisodeFile.ofJson?, EpisodeFile.toJson, Episode.ofJson?_toJson fits, Option.map_some]
    · exact beq_self_eq_true f.episode
    · rw [(EpisodeFile.season_eq _).1, f.season_eq.1, same]
    · intro letter
      rw [EpisodeFile.fields_eq, EpisodeFile.fields_eq, same]
    · rw [EpisodeFile.isValid_eq, EpisodeFile.isValid_eq, same]
  · intro m fits
    exact ⟨Json.read?_write m.textual_toJson, Movie.ofJson?_toJson fits⟩

theorem saved_files_read_back_season :
    let media : MediaFile := ⟨"Show.E05".toList, "mkv".toList, "/tv/Season 3".toList, -1, 0,
      some .hd1080, ["Show".toList, "E05".toList]⟩
    let f := (EpisodeFile.fresh ⟨media, "Show".toList, [], none, [5], some (1, 1)⟩).season.2
    let m : Movie := ⟨{ media with rawName := ['"', '\n'], year := 1999, part := 2 }⟩
    f.folder = some 3 ∧
      (∃ back, EpisodeFile.ofJson? f.toJson = some back ∧ back.season.1 = f.season.1) ∧
      Movie.ofJson? m.toJson = some m := by
  intro media f m
  have fits : f.episode.InRange :=
    ⟨⟨by decide, by decide⟩, by decide, by decide, by decide⟩
  obtain ⟨_, back, read, _, season, _⟩ := saved_files_read_back.1 f fits rfl
  exact ⟨by decide +kernel, ⟨back, read, season⟩,
    (saved_files_read_back.2 m ⟨by decide, by decide⟩).2⟩

end MediaNaming
