import MediaNaming.Media.Episode

/-
Episodes with what their files remember. The season of a folder is looked up once, and a resolved
title stays. A file never changes what it was read with, so what it remembers of its folder is
what the folder says.
-/
namespace MediaNaming

structure EpisodeFile extends TitledEpisode where
  /-- The season of the folder, once it was asked for. -/
  folder : Option Nat := none
  recalled : ∀ n ∈ folder, n = folderSeason episode.media.location

namespace EpisodeFile

-- what a file remembers does not count
instance : BEq EpisodeFile := ⟨fun f g => f.episode == g.episode⟩

def fresh (e : Episode) : EpisodeFile := ⟨⟨e, none⟩, none, nofun⟩

/-- The season, and the file afterwards. The folder is looked at once, if the name gives none. -/
def season (f : EpisodeFile) : Nat × EpisodeFile :=
  match f.episode.seasonInName, f.folder with
  | some n, _ => (n, f)
  | none, some n => (n, f)
  | none, none =>
    let n := folderSeason f.episode.media.location
    (n, { f with folder := some n, recalled := fun _ same => (Option.some.inj same).symm })

theorem season_eq (f : EpisodeFile) :
    f.season.1 = f.episode.season ∧ f.season.2.toTitledEpisode = f.toTitledEpisode := by
  simp only [season, Episode.season]
  split
  · rename_i n told
    simp [told]
  · rename_i n told known
    simp [told, f.recalled n known]
  · rename_i told unknown
    simp [told]

def fields (f : EpisodeFile) : Fields
  | 'S' => some (if f.season.1 = 0 then [] else Text.ofPadded f.season.1)
  | c => f.toTitledEpisode.fields c

theorem fields_eq (f : EpisodeFile) : f.fields = f.toTitledEpisode.fields := by
  funext c
  unfold fields
  split
  · rw [f.season_eq.1]
    rfl
  · rfl

def isValid (f : EpisodeFile) : Bool :=
  (renderOnce "N - Sxe?( - T)?( (Y))".toList f.fields).toOption.any hasEpisodeShape

theorem isValid_eq (f : EpisodeFile) : f.isValid = f.toTitledEpisode.isValid := by
  rw [isValid, fields_eq, TitledEpisode.isValid]
  cases renderOnce "N - Sxe?( - T)?( (Y))".toList f.toTitledEpisode.fields with
  | ok name => rfl
  | error _ => rfl

end EpisodeFile
end MediaNaming
