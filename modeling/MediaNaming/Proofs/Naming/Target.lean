import MediaNaming.Proofs.Lookup.Titles
import MediaNaming.Proofs.Naming.Stability

/-
Where an episode goes. All that is read from a name is free of path separators, so the target is
one file in the folder for episodes; a title that the service answers is written as it is, and a
separator in it opens a folder of its own.
-/
namespace MediaNaming

variable {σ : Type}

theorem head?_of_flat {t : Text} (flat : pathSeparator ∉ t) : t.head? ≠ some pathSeparator :=
  fun first => flat (List.mem_of_mem_head? first)

section
variable {path part : Text} (under : part.head? ≠ some pathSeparator)
include under

theorem partsOf_pushPath : partsOf (pushPath path part) = partsOf path ++ partsOf part := by
  rw [pushPath, if_neg under]
  split
  · rename_i ended
    rcases ended with rfl | last
    · rfl
    · obtain ⟨front, rfl⟩ := List.getLast?_eq_some_iff.1 last
      have front_parts := partsOf_append front []
      rw [List.append_assoc, List.singleton_append, partsOf_append, front_parts]
      simp [partsOf, Text.pieces]
  · exact partsOf_append path part

theorem pushPath_of_open (full : path ≠ []) (opened : path.getLast? ≠ some pathSeparator) :
    pushPath path part = path ++ pathSeparator :: part := by
  rw [pushPath, if_neg under, if_neg (by simp [full, opened])]

theorem getLast?_pushPath (some_part : part ≠ []) : (pushPath path part).getLast? = part.getLast? := by
  rw [pushPath, if_neg under]
  split
  · exact List.getLast?_append_of_ne_nil path some_part
  · rw [List.getLast?_append_of_ne_nil path (by simp), List.getLast?_cons_of_ne_nil some_part]

theorem pushPath_ne_nil (some_part : part ≠ []) : pushPath path part ≠ [] := by
  intro empty
  have last : (pushPath path part).getLast? = part.getLast? := getLast?_pushPath under some_part
  rw [empty] at last
  exact some_part (List.getLast?_eq_none_iff.1 last.symm)

end

/-- Under a folder without separators a target is one part, but for separators in its own name. -/
theorem targetPath_under (location : Text) {folder name extension : Text} (some_folder : folder ≠ [])
    (flat : pathSeparator ∉ folder)
    (under : (name ++ '.' :: extension).head? ≠ some pathSeparator) :
    targetPath location folder name extension =
        pushPath location folder ++ pathSeparator :: (name ++ '.' :: extension) ∧
      (partsOf (targetPath location folder name extension) =
          partsOf location ++ [folder, name ++ '.' :: extension] ↔
        pathSeparator ∉ name ++ '.' :: extension) := by
  have head : folder.head? ≠ some pathSeparator := head?_of_flat flat
  have last : (pushPath location folder).getLast? = folder.getLast? :=
    getLast?_pushPath head some_folder
  constructor
  · apply pushPath_of_open under (pushPath_ne_nil head some_folder)
    rw [last]
    exact fun ends => flat (List.mem_of_getLast? ends)
  · have alone : partsOf folder = [folder] := (partsOf_eq_singleton some_folder).2 flat
    rw [← partsOf_eq_singleton (by simp), targetPath, partsOf_pushPath under,
      partsOf_pushPath head, alone]
    simp

theorem Renamer.renderEpisode_of_format {r : Renamer}
    (format : r.config.episodeFormat = ({} : Configuration).episodeFormat) (e : TitledEpisode) :
    r.renderEpisode e = .ok e.canonicalName := by
  rw [Renamer.renderEpisode, format]
  exact TitledEpisode.renderEpisode_canonicalName e

theorem TitledEpisode.head?_canonicalName {e : TitledEpisode} (shaped : e.episode.InShape)
    (extension : Text) : (e.canonicalName ++ extension).head? ≠ some pathSeparator := by
  obtain ⟨first, more, name⟩ := List.exists_cons_of_ne_nil shaped.named
  have other : first ≠ pathSeparator := by
    rintro rfl
    exact shaped.name.flat (by simp [name])
  simpa [TitledEpisode.canonicalName, name] using other

namespace Lookup

variable (lookup : Lookup σ)

def Answers (season : Nat) (episodes : List Nat) (title : Text) : Prop :=
  ∃ id episode outside, episode ∈ episodes ∧
    (lookup.service.episodeTitle id season episode outside).1 = .ok (some title)

variable {lookup} {season : Nat} {episodes : List Nat}

theorem askTitles_answers {id : Nat} {outside : σ} {titles : List Text}
    (asked : (lookup.askTitles id season episodes outside).1 = some titles) :
    ∀ title ∈ titles, lookup.Answers season episodes title := by
  induction episodes generalizing outside titles with
  | nil =>
    obtain rfl : [] = titles := by simpa [askTitles] using asked
    simp
  | cons episode more ih =>
    rcases answer : lookup.service.episodeTitle id season episode outside with ⟨_ | known, next⟩
    · simp [askTitles, answer] at asked
    · obtain ⟨later, rest, rfl⟩ : ∃ later, (lookup.askTitles id season more next).1 = some later ∧
          (known.filter fun t => t.trim != []).toList ++ later = titles := by
        simpa [askTitles, answer] using asked
      intro title member
      rcases List.mem_append.1 member with here | after
      · have told : known = some title :=
          (Option.filter_eq_some_iff.1 (Option.mem_toList.1 here)).1
        exact ⟨id, episode, outside, by simp, by rw [answer, told]⟩
      · obtain ⟨id, other, outside, among, told⟩ := ih rest title after
        exact ⟨id, other, outside, by simp [among], told⟩

theorem resolveTitle_answers {series : Text} {s : LookupState σ} {title : Text}
    (resolved : (lookup.resolveTitle series season episodes s).1 = some title) {c : Char}
    (inside : c ∈ title) : c ∈ " & ".toList ∨ ∃ t, lookup.Answers season episodes t ∧ c ∈ t := by
  simp only [resolveTitle] at resolved
  split at resolved
  · contradiction
  · split at resolved
    · contradiction
    · split at resolved
      · rename_i asked
        obtain rfl := Option.some.inj resolved
        rcases Text.mem_join inside with between | ⟨t, among, here⟩
        · exact Or.inl between
        · exact Or.inr ⟨t, askTitles_answers (congrArg Prod.fst asked) t among, here⟩
      · contradiction

end Lookup

theorem TitledEpisode.lookupTitle_file {τ : Type} {enabled : Bool} {resolve : Resolver τ}
    {e after : TitledEpisode} {s : τ} (looked : (e.lookupTitle enabled resolve s).2.1 = after) :
    after.episode = e.episode ∧ (after.title = e.title ∨
      after.title =
        (resolve e.episode.seriesName e.episode.season e.episode.episodes s).1.getD []) := by
  by_cases opens : e.Open enabled
  · rw [lookupTitle_open opens] at looked
    obtain rfl := looked
    exact ⟨rfl, Or.inr (if_pos opens.2.1.1)⟩
  · rw [lookupTitle_closed opens] at looked
    obtain rfl := looked
    exact ⟨rfl, Or.inl rfl⟩

namespace Completer

structure Targeted (folder : Text) (lookup : Lookup σ) (e after : TitledEpisode)
    (name path : Text) : Prop where
  made : path = pushPath e.episode.media.location folder ++
    pathSeparator :: (name ++ '.' :: e.episode.media.extension)
  nested : pathSeparator ∈ name ++ '.' :: e.episode.media.extension ↔ pathSeparator ∈ after.title
  single : partsOf path = partsOf e.episode.media.location ++
      [folder, name ++ '.' :: e.episode.media.extension] ↔ pathSeparator ∉ after.title
  /-- A separator in the title is from the service, or was in the title that was resolved before. -/
  answered : pathSeparator ∈ after.title → (∃ title ∈ e.resolved, pathSeparator ∈ title) ∨
    ∃ title, lookup.Answers e.episode.season e.episode.episodes title ∧ pathSeparator ∈ title

section
variable {r : Renamer} {e : Episode} {lookup : Lookup σ} {s : LookupState σ}

theorem answered_title (shaped : e.InShape) {resolved : Option Text} {after : TitledEpisode}
    (looked : ((attach r lookup).lookup.lookupTitle ⟨e, resolved⟩ s).2.1 = after)
    (inside : pathSeparator ∈ after.title) : (∃ title ∈ resolved, pathSeparator ∈ title) ∨
      ∃ title, lookup.Answers e.season e.episodes title ∧ pathSeparator ∈ title := by
  obtain ⟨_, same | found⟩ := TitledEpisode.lookupTitle_file looked
  · rw [same] at inside
    by_cases named : e.episodeTitle = []
    · rw [TitledEpisode.title_of_unnamed named] at inside
      cases resolved with
      | none => simp at inside
      | some title => exact Or.inl ⟨title, rfl, inside⟩
    · rw [TitledEpisode.title_of_named named] at inside
      exact absurd inside shaped.title.flat
  · rw [found] at inside
    cases resolves : ((attach r lookup).lookup.resolveTitle e.seriesName e.season e.episodes s).1 with
    | none => simp [resolves] at inside
    | some title =>
      rw [resolves, Option.getD_some] at inside
      rcases Lookup.resolveTitle_answers resolves inside with between | answered
      · exact absurd between (by decide)
      · exact Or.inr answered

theorem targeted_canonicalName (shaped : e.InShape) {folder : Text} (some_folder : folder ≠ [])
    (flat : pathSeparator ∉ folder) {resolved : Option Text} {after : TitledEpisode}
    (looked : ((attach r lookup).lookup.lookupTitle ⟨e, resolved⟩ s).2.1 = after) :
    Targeted folder lookup ⟨e, resolved⟩ after after.canonicalName
      (targetPath e.media.location folder after.canonicalName e.media.extension) := by
  obtain rfl : after.episode = e := (TitledEpisode.lookupTitle_file looked).1
  have nested : pathSeparator ∈ after.canonicalName ++ '.' :: after.episode.media.extension ↔
      pathSeparator ∈ after.title := by
    have dot : pathSeparator ≠ '.' := by decide
    rw [List.mem_append, List.mem_cons, TitledEpisode.nested_canonicalName shaped.name]
    simp [dot, shaped.unnested]
  obtain ⟨made, single⟩ := targetPath_under after.episode.media.location some_folder flat
    (TitledEpisode.head?_canonicalName shaped ('.' :: after.episode.media.extension))
  exact ⟨made, nested, single.trans (not_congr nested), answered_title shaped looked⟩

end

section
variable {r : Renamer} (format : r.config.episodeFormat = ({} : Configuration).episodeFormat)
include format

theorem renderEpisode_attach (lookup : Lookup σ) (e : TitledEpisode) (s : LookupState σ) :
    (attach r lookup).renderEpisode e s =
      let (_, after, next) := (attach r lookup).lookup.lookupTitle e s
      (.ok after.canonicalName, after, next) := by
  simp only [renderEpisode, afterLookup, attach, Renamer.renderEpisode_of_format format]

theorem episodeTarget_attach (lookup : Lookup σ) (e : TitledEpisode) (s : LookupState σ) :
    (attach r lookup).episodeTarget e s =
      let (_, after, next) := (attach r lookup).lookup.lookupTitle e s
      (.ok (targetPath after.episode.media.location r.config.episodeFolder after.canonicalName
        after.episode.media.extension), after, next) := by
  simp only [episodeTarget, afterLookup, attach, Renamer.episodeTarget,
    Renamer.renderEpisode_of_format format, Except.map]

end

theorem episodeTarget_targeted {r : Renamer} {input : Text} {e : Episode}
    (format : r.config.episodeFormat = ({} : Configuration).episodeFormat)
    (some_folder : r.config.episodeFolder ≠ []) (flat : pathSeparator ∉ r.config.episodeFolder)
    (read : r.parseEpisode input = .ok e) (lookup : Lookup σ) (resolved : Option Text)
    (s : LookupState σ) :
    ∃ name path after next,
      (attach r lookup).renderEpisode ⟨e, resolved⟩ s = (.ok name, after, next) ∧
      (attach r lookup).episodeTarget ⟨e, resolved⟩ s = (.ok path, after, next) ∧
      Targeted r.config.episodeFolder lookup ⟨e, resolved⟩ after name path := by
  rcases looked : (attach r lookup).lookup.lookupTitle ⟨e, resolved⟩ s with ⟨title, after, next⟩
  have there : ((attach r lookup).lookup.lookupTitle ⟨e, resolved⟩ s).2.1 = after := by rw [looked]
  have same : after.episode = e := (TitledEpisode.lookupTitle_file there).1
  refine ⟨after.canonicalName, _, after, next, ?_, ?_,
    targeted_canonicalName (Episode.inShape_of_read read) some_folder flat there⟩
  · rw [renderEpisode_attach format, looked]
  · simp only [episodeTarget_attach format, looked, same]

def answering (title : Text) : Completer Unit :=
  attach { config := { lookupEnabled := true } } ⟨⟨fun _ _ => (.ok [⟨1, "Show".toList⟩], ()),
    fun _ _ _ _ => (.ok (some title), ())⟩, Chooser.first, true, false⟩

theorem episodeTarget_targeted_pilot : ∃ e name path after next,
    (answering "Pilot".toList).renamer.parseEpisode "tv/Show.S01E01.mkv".toList = .ok e ∧
    (answering "Pilot".toList).renderEpisode ⟨e, none⟩ ⟨{}, ()⟩ = (.ok name, after, next) ∧
    (answering "Pilot".toList).episodeTarget ⟨e, none⟩ ⟨{}, ()⟩ = (.ok path, after, next) ∧
    Targeted "TV Shows".toList (answering "Pilot".toList).lookup ⟨e, none⟩ after name path := by
  have evaluated : ∃ e ∈ ((answering "Pilot".toList).renamer.parseEpisode
      "tv/Show.S01E01.mkv".toList).toOption, e.LacksTitle := by decide +kernel
  obtain ⟨e, told, _⟩ := evaluated
  have read := mem_toOption.1 told
  obtain ⟨name, path, after, next, targeted⟩ :=
    episodeTarget_targeted rfl (by decide) (by decide) read (answering "Pilot".toList).lookup none ⟨{}, ()⟩
  exact ⟨e, name, path, after, next, read, targeted⟩

theorem episodeTarget_nested : ∃ e path,
    (answering "Either/Or".toList).renamer.parseEpisode "Show.S01E01.mkv".toList = .ok e ∧
    ((answering "Either/Or".toList).episodeTarget ⟨e, none⟩ ⟨{}, ()⟩).1 = .ok path ∧
    partsOf path = ["TV Shows".toList, "Show - 01x01 - Either".toList, "Or.mkv".toList] ∧
    ∀ last, partsOf path ≠ partsOf e.media.location ++ ["TV Shows".toList, last] := by
  have parts : partsOf "TV Shows/Show - 01x01 - Either/Or.mkv".toList =
      ["TV Shows".toList, "Show - 01x01 - Either".toList, "Or.mkv".toList] := by decide +kernel
  refine ⟨⟨⟨"Show.S01E01".toList, "mkv".toList, [], -1, 0, none,
    ["Show".toList, "S01E01".toList]⟩, "Show".toList, [], some 1, [1], some (1, 1)⟩,
    "TV Shows/Show - 01x01 - Either/Or.mkv".toList, by decide +kernel, ?_, parts, ?_⟩
  · rw [answering, episodeTarget_attach rfl]
    decide +kernel
  · intro last
    rw [parts]
    simp [partsOf, Text.pieces]

end Completer
end MediaNaming
