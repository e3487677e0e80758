import MediaNaming.Proofs.Naming.MovieName
import MediaNaming.Proofs.Naming.Target

/-
Where a movie goes. The target splits into the folder for movies under the location of the file, the
rendered name and the extension. The location has lost the separator that it was split at, so a file
right under the root goes to a folder that is not.
-/
namespace MediaNaming

def IsAbsolute (path : Text) : Prop := path.head? = some pathSeparator

instance (path : Text) : Decidable (IsAbsolute path) :=
  inferInstanceAs (Decidable (path.head? = some pathSeparator))

/-- The path names something right under the root: its only separator is its first character. -/
def AtRoot (path : Text) : Prop := ∃ file, path = pathSeparator :: file ∧ pathSeparator ∉ file

structure HoldsFolder (location folder directory : Text) : Prop where
  leads : location <+: directory
  parts : partsOf directory = partsOf location ++ [folder]

theorem not_isAbsolute_nil : ¬ IsAbsolute [] := by decide

theorem isAbsolute_append {path : Text} (some_path : path ≠ []) (more : Text) :
    IsAbsolute (path ++ more) ↔ IsAbsolute path := by
  rw [IsAbsolute, IsAbsolute, List.head?_append_of_ne_nil path some_path]

/-- A location that was split off is absolute if the raw name is, unless that is right under the
    root. -/
theorem isAbsolute_location {input : Text} {split : SplitName}
    (cut : SplitName.ofPath? input = .ok split) :
    (IsAbsolute split.location ↔ IsAbsolute input) ↔ ¬ AtRoot input := by
  obtain ⟨_, _, flat, _⟩ := ofPath?_text cut
  obtain ⟨nested, bare, -⟩ := ofPath?_eq_ok.1 cut
  by_cases unnested : pathSeparator ∉ input
  · have nowhere := (bare unnested).1
    have relative : ¬ IsAbsolute input := head?_of_flat unnested
    have elsewhere : ¬ AtRoot input := by
      rintro ⟨file, rfl, _⟩
      exact unnested (by simp)
    rw [nowhere]
    exact iff_of_true (iff_of_false not_isAbsolute_nil relative) elsewhere
  · have text := nested (not_not.1 unnested)
    by_cases nowhere : split.location = []
    · rw [nowhere, List.nil_append] at text
      have root : AtRoot input := ⟨_, text, flat⟩
      have absolute : IsAbsolute input := by
        rw [text]
        rfl
      rw [nowhere]
      exact iff_of_false (fun same => not_isAbsolute_nil (same.2 absolute)) (not_not_intro root)
    · have same : IsAbsolute input ↔ IsAbsolute split.location := by
        rw [text]
        exact isAbsolute_append nowhere _
      have elsewhere : ¬ AtRoot input := by
        rintro ⟨file, whole, absent⟩
        obtain ⟨c, location, start⟩ := List.exists_cons_of_ne_nil nowhere
        rw [text, start, List.cons_append] at whole
        obtain ⟨_, rfl⟩ := List.cons.inj whole
        simp at absent
      exact iff_of_true same.symm elsewhere

section
variable {folder : Text} (some_folder : folder ≠ []) (flat : pathSeparator ∉ folder)
include some_folder flat

theorem holdsFolder_pushPath (location : Text) :
    HoldsFolder location folder (pushPath location folder) := by
  have under : folder.head? ≠ some pathSeparator := head?_of_flat flat
  constructor
  · rw [pushPath, if_neg under]
    split <;> exact List.prefix_append _ _
  · rw [partsOf_pushPath under, (partsOf_eq_singleton some_folder).2 flat]

theorem isAbsolute_pushPath (location : Text) :
    IsAbsolute (pushPath location folder) ↔ IsAbsolute location := by
  have under : folder.head? ≠ some pathSeparator := head?_of_flat flat
  cases location with
  | nil =>
    have relative : pushPath [] folder = folder := by simp [pushPath, under]
    rw [relative]
    exact iff_of_false under not_isAbsolute_nil
  | cons c location =>
    obtain ⟨more, whole⟩ := (holdsFolder_pushPath some_folder flat (c :: location)).leads
    rw [← whole]
    exact isAbsolute_append (by simp) more

end

theorem Renamer.renderMovie_of_format {r : Renamer}
    (format : r.config.movieFormat = ({} : Configuration).movieFormat) (m : Movie) :
    r.renderMovie m = .ok m.canonicalName := by
  rw [Renamer.renderMovie, format]
  exact Movie.renderMovie_canonicalName m

theorem Renamer.parseMovie_split {r : Renamer} {input : Text} {m : Movie}
    (read : r.parseMovie input = .ok m) :
    SplitName.ofPath? input = .ok ⟨m.media.location, m.media.rawName, m.media.extension⟩ ∧
      ∀ s ∈ m.media.sectors, s ≠ [] ∧ Solid s := by
  simp only [Renamer.parseMovie, MediaFile.ofName?, bind, Except.bind] at read
  cases cut : SplitName.ofPath? input with
  | error failure => simp [cut, Except.map] at read
  | ok split =>
    simp only [cut, pure, Except.pure, Except.map, Except.ok.injEq] at read
    subst read
    have flat := (ofPath?_eq_ok.1 cut).flat
    exact ⟨rfl, fun s member => ⟨(refine_formed _ _ s member).nonempty,
      refine_solid _ (solid_sectorsOf flat) s member⟩⟩

theorem movieTarget_rooted_iff {r : Renamer} {input : Text} {m : Movie} (default : r.config = {})
    (read : r.parseMovie input = .ok m) :
    SplitName.ofPath? input = .ok ⟨m.media.location, m.media.rawName, m.media.extension⟩ ∧
      ∃ name path directory, r.renderMovie m = .ok name ∧ r.movieTarget m = .ok path ∧
        SplitName.ofPath? path = .ok ⟨directory, name, m.media.extension⟩ ∧
        HoldsFolder m.media.location "Movies".toList directory ∧
        ((IsAbsolute path ↔ IsAbsolute input) ↔ ¬ AtRoot input) := by
  obtain ⟨cut, solid⟩ := Renamer.parseMovie_split read
  obtain ⟨_, _, _, unnested, undotted⟩ := ofPath?_eq_ok.1 cut
  have some_folder : "Movies".toList ≠ [] := by decide
  have flat_folder : pathSeparator ∉ "Movies".toList := by decide
  have rendered : r.renderMovie m = .ok m.canonicalName :=
    Renamer.renderMovie_of_format (by rw [default]) m
  have flat : pathSeparator ∉ m.canonicalName := Movie.flat_canonicalName solid
  have file : pathSeparator ∉ m.canonicalName ++ '.' :: m.media.extension := by
    simp only [List.mem_append, List.mem_cons, not_or]
    exact ⟨flat, by decide, unnested⟩
  have made := (targetPath_under m.media.location some_folder flat_folder (head?_of_flat file)).1
  have target : r.movieTarget m = .ok (pushPath m.media.location "Movies".toList ++
      pathSeparator :: (m.canonicalName ++ '.' :: m.media.extension)) := by
    rw [Renamer.movieTarget, rendered, default, ← made]
    rfl
  have directory := holdsFolder_pushPath some_folder flat_folder m.media.location
  refine ⟨cut, m.canonicalName, _, pushPath m.media.location "Movies".toList, rendered, target,
    ofPath?_inFolder (some _) flat undotted unnested, directory, ?_⟩
  have full : pushPath m.media.location "Movies".toList ≠ [] :=
    pushPath_ne_nil (head?_of_flat flat_folder) some_folder
  rw [isAbsolute_append full, isAbsolute_pushPath some_folder flat_folder]
  exact isAbsolute_location cut

theorem movieTarget_rooted_media : ∃ m name path directory,
    ({} : Renamer).parseMovie "/media/The.Matrix.1999.mkv".toList = .ok m ∧
      ({} : Renamer).renderMovie m = .ok name ∧ ({} : Renamer).movieTarget m = .ok path ∧
      SplitName.ofPath? path = .ok ⟨directory, name, m.media.extension⟩ ∧
      HoldsFolder m.media.location "Movies".toList directory ∧ IsAbsolute path := by
  have evaluated : ∃ m ∈ (({} : Renamer).parseMovie "/media/The.Matrix.1999.mkv".toList).toOption,
      m.media.location = "/media".toList := by decide +kernel
  obtain ⟨m, told, _⟩ := evaluated
  have read := mem_toOption.1 told
  obtain ⟨_, name, path, directory, rendered, target, split, holds, rooted⟩ :=
    movieTarget_rooted_iff rfl read
  have deeper : ¬ AtRoot "/media/The.Matrix.1999.mkv".toList := by
    rintro ⟨file, same, absent⟩
    obtain rfl : "media/The.Matrix.1999.mkv".toList = file := (List.cons.inj same).2
    exact absent (by decide)
  have absolute : IsAbsolute "/media/The.Matrix.1999.mkv".toList := by decide
  exact ⟨m, name, path, directory, read, rendered, target, split, holds,
    (rooted.2 deeper).2 absolute⟩

theorem movieTarget_leaves_root : ∃ m,
    ({} : Renamer).parseMovie "/Movie.mkv".toList = .ok m ∧
      ({} : Renamer).movieTarget m = .ok "Movies/Movie.mkv".toList ∧
      IsAbsolute "/Movie.mkv".toList ∧ ¬ IsAbsolute "Movies/Movie.mkv".toList :=
  ⟨⟨⟨"Movie".toList, "mkv".toList, [], -1, 0, none, ["Movie".toList]⟩⟩, by decide +kernel,
    by rw [Renamer.movieTarget, Movie.renderMovie_canonicalName]; decide +kernel, by decide,
    by decide⟩

end MediaNaming
