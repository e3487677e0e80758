import MediaNaming.Proofs.Text.Splitting

/-
A raw name put together again. Its parts, with the last separator and the last dot that follows it,
are the raw name; the sectors of the name, with one delimiter for each gap, are the name. Both can be
cut in one way only, and a raw name that cannot be cut has a separator behind each of its dots.
-/
namespace MediaNaming

namespace Text

def weave (first : Text) (gaps : List (Char × Text)) : Text :=
  first ++ gaps.flatMap fun gap => gap.1 :: gap.2

/-- The pieces are what a text is woven from, at the characters where it is cut. -/
structure Woven (stops : Char → Bool) (t : Text) (pieces : List Text) : Prop where
  woven : ∃ first gaps, pieces = first :: gaps.map Prod.snd ∧ t = weave first gaps ∧
    ∀ gap ∈ gaps, stops gap.1 = true
  clean : ∀ piece ∈ pieces, ∀ c ∈ piece, stops c = false

variable {stops : Char → Bool}

theorem weave_cons (first : Text) (c : Char) (next : Text) (gaps : List (Char × Text)) :
    weave first ((c, next) :: gaps) = first ++ c :: weave next gaps := by
  simp [weave]

theorem woven_pieces (stops : Char → Bool) (t : Text) : Woven stops t (t.pieces stops) where
  woven := by
    induction t with
    | nil => exact ⟨[], [], rfl, rfl, by simp⟩
    | cons c t ih =>
      obtain ⟨first, gaps, cut, text, stopped⟩ := ih
      by_cases stop : stops c = true
      · refine ⟨[], (c, first) :: gaps, ?_, ?_, by simpa [stop] using stopped⟩
        · rw [pieces_stop stop, cut, List.map_cons]
        · rw [weave_cons, text, List.nil_append]
      · refine ⟨c :: first, gaps, ?_, ?_, stopped⟩
        · simp [pieces, cut, stop]
        · rw [text, weave, weave, List.cons_append]
  clean := fun piece member => mem_pieces member

theorem pieces_weave {first : Text} {gaps : List (Char × Text)}
    (clean : ∀ piece ∈ first :: gaps.map Prod.snd, ∀ c ∈ piece, stops c = false)
    (stopped : ∀ gap ∈ gaps, stops gap.1 = true) :
    (weave first gaps).pieces stops = first :: gaps.map Prod.snd := by
  induction gaps generalizing first with
  | nil => simpa [weave] using pieces_of_clean (clean first (by simp))
  | cons gap gaps ih =>
    rw [weave_cons, pieces_append_stop (stopped gap (by simp)),
      pieces_of_clean (clean first (by simp)),
      ih (fun piece member => clean piece (by simp_all))
        (fun other member => stopped other (by simp [member]))]
    rfl

theorem pieces_eq_iff {t : Text} {pieces : List Text} :
    t.pieces stops = pieces ↔ Woven stops t pieces := by
  constructor
  · rintro rfl
    exact woven_pieces stops t
  · rintro ⟨⟨first, gaps, rfl, rfl, stopped⟩, clean⟩
    exact pieces_weave clean stopped

end Text

def inFolder (folder : Option Text) (file : Text) : Text :=
  match folder with
  | none => file
  | some location => location ++ pathSeparator :: file

theorem exists_inFolder (input : Text) :
    ∃ folder file, input = inFolder folder file ∧ pathSeparator ∉ file := by
  cases parts : input.splitLast? pathSeparator with
  | none => exact ⟨none, input, rfl, Text.splitLast?_eq_none.1 parts⟩
  | some p =>
    obtain ⟨text, flat⟩ := Text.splitLast?_some parts
    exact ⟨some p.1, p.2, text, flat⟩

section
variable (folder : Option Text) {file : Text} (flat : pathSeparator ∉ file)

include flat

theorem separator_mem_inFolder : pathSeparator ∈ inFolder folder file ↔ folder ≠ none := by
  cases folder with
  | none => simpa [inFolder] using flat
  | some location => simp [inFolder]

theorem ofPath?_file : SplitName.ofPath? (inFolder folder file) =
    match file.splitLast? '.' with
    | some (name, extension) => .ok ⟨folder.getD [], name, extension⟩
    | none => .error (.noExtension (inFolder folder file)) := by
  have parts : ((inFolder folder file).splitLast? pathSeparator).getD ([], inFolder folder file) =
      (folder.getD [], file) := by
    cases folder with
    | none => simp [inFolder, Text.splitLast?_eq_none.2 flat]
    | some location => simp [inFolder, Text.splitLast?_append location flat]
  cases dotted : file.splitLast? '.' <;> simp only [SplitName.ofPath?, parts, dotted]

theorem dot_mem_file : '.' ∈ file ↔
    ∃ lead rest, inFolder folder file = lead ++ '.' :: rest ∧ pathSeparator ∉ rest := by
  constructor
  · intro dotted
    obtain ⟨lead, rest, rfl⟩ := List.append_of_mem dotted
    have unnested : pathSeparator ∉ rest := fun inside => flat (by simp [inside])
    cases folder with
    | none => exact ⟨lead, rest, rfl, unnested⟩
    | some location => exact ⟨location ++ pathSeparator :: lead, rest, by simp [inFolder], unnested⟩
  · rintro ⟨lead, rest, text, unnested⟩
    cases folder with
    | none =>
      rw [show file = lead ++ '.' :: rest from text]
      simp
    | some location =>
      -- both are suffixes of one text: the one that begins with the separator is the longer one
      have here : pathSeparator :: file <:+ inFolder (some location) file := List.suffix_append _ _
      have there : '.' :: rest <:+ inFolder (some location) file := text ▸ List.suffix_append _ _
      rcases List.suffix_or_suffix_of_suffix here there with outer | inner
      · have inside : pathSeparator ∈ '.' :: rest := outer.subset List.mem_cons_self
        rcases List.mem_cons.1 inside with same | behind
        · exact absurd same (by decide)
        · exact absurd behind unnested
      · rcases List.suffix_cons_iff.1 inner with same | within
        · exact absurd (List.cons.inj same).1 (by decide)
        · exact within.subset List.mem_cons_self

end

theorem separator_not_mem_file {name extension : Text} :
    pathSeparator ∉ name ++ '.' :: extension ↔
      pathSeparator ∉ name ∧ pathSeparator ∉ extension := by
  have apart : pathSeparator ≠ '.' := by decide
  simp [apart]

theorem ofPath?_inFolder (folder : Option Text) {name extension : Text}
    (flat : pathSeparator ∉ name) (undotted : '.' ∉ extension)
    (unnested : pathSeparator ∉ extension) :
    SplitName.ofPath? (inFolder folder (name ++ '.' :: extension)) =
      .ok ⟨folder.getD [], name, extension⟩ := by
  have clean := separator_not_mem_file.2 ⟨flat, unnested⟩
  rw [ofPath?_file folder clean, Text.splitLast?_append name undotted]

/-- The raw name is its location, its name and its extension, with the separator and the dot between
    them. Without a separator there is no location. -/
structure SplitsInto (input : Text) (split : SplitName) : Prop where
  nested : pathSeparator ∈ input →
    input = split.location ++ pathSeparator :: (split.name ++ '.' :: split.extension)
  bare : pathSeparator ∉ input →
    split.location = [] ∧ input = split.name ++ '.' :: split.extension
  flat : pathSeparator ∉ split.name
  unnested : pathSeparator ∉ split.extension
  undotted : '.' ∉ split.extension

theorem ofPath?_eq_ok {input : Text} {split : SplitName} :
    SplitName.ofPath? input = .ok split ↔ SplitsInto input split := by
  constructor
  · intro cut
    obtain ⟨folder, file, rfl, flat⟩ := exists_inFolder input
    rw [ofPath?_file folder flat] at cut
    split at cut
    · rename_i name extension dotted
      cases cut
      obtain ⟨rfl, undotted⟩ := Text.splitLast?_some dotted
      have nested := separator_mem_inFolder folder flat
      obtain ⟨flat, unnested⟩ := separator_not_mem_file.1 flat
      refine ⟨fun inside => ?_, fun outside => ?_, flat, unnested, undotted⟩
      · obtain ⟨location, rfl⟩ := Option.ne_none_iff_exists'.1 (nested.1 inside)
        rfl
      · obtain rfl : folder = none := by
          by_contra some_folder
          exact outside (nested.2 some_folder)
        exact ⟨rfl, rfl⟩
    · contradiction
  · rintro ⟨nested, bare, flat, unnested, undotted⟩
    obtain ⟨location, name, extension⟩ := split
    by_cases inside : pathSeparator ∈ input
    · rw [nested inside]
      exact ofPath?_inFolder (some location) flat undotted unnested
    · obtain ⟨rfl, rfl⟩ := bare inside
      exact ofPath?_inFolder none flat undotted unnested

theorem ofPath?_text {input : Text} {split : SplitName}
    (cut : SplitName.ofPath? input = .ok split) : ∃ lead,
      input = lead ++ (split.name ++ '.' :: split.extension) ∧
        pathSeparator ∉ split.name ++ '.' :: split.extension ∧ '.' ∉ split.extension := by
  obtain ⟨nested, bare, flat, unnested, undotted⟩ := ofPath?_eq_ok.1 cut
  have clean := separator_not_mem_file.2 ⟨flat, unnested⟩
  by_cases inside : pathSeparator ∈ input
  · exact ⟨split.location ++ [pathSeparator], by simpa using nested inside, clean, undotted⟩
  · exact ⟨[], (bare inside).2, clean, undotted⟩

theorem ofPath?_subset {input : Text} {split : SplitName}
    (cut : SplitName.ofPath? input = .ok split) : split.name ⊆ input := by
  obtain ⟨lead, text, -⟩ := ofPath?_text cut
  intro c member
  rw [text]
  simp [member]

theorem ofPath?_eq_error {input : Text} {e : NamingError} :
    SplitName.ofPath? input = .error e ↔
      e = .noExtension input ∧ ∀ lead rest, input = lead ++ '.' :: rest → pathSeparator ∈ rest := by
  obtain ⟨folder, file, rfl, flat⟩ := exists_inFolder input
  have dots : (∀ lead rest, inFolder folder file = lead ++ '.' :: rest → pathSeparator ∈ rest) ↔
      '.' ∉ file := by
    rw [dot_mem_file folder flat]
    simp only [not_exists, not_and, not_not]
  rw [ofPath?_file folder flat, dots]
  cases dotted : file.splitLast? '.' with
  | none =>
    simp [Text.splitLast?_eq_none.1 dotted, eq_comm]
  | some p =>
    have inside : '.' ∈ file := by
      rw [(Text.splitLast?_some dotted).1]
      simp
    simp [inside]

theorem splitting_lossless (input : Text) :
    ((∃ e, SplitName.ofPath? input = .error e) ↔
      ∀ lead rest, input = lead ++ '.' :: rest → pathSeparator ∈ rest) ∧
    (∀ split, SplitName.ofPath? input = .ok split ↔ SplitsInto input split) ∧
    ∀ name sectors, sectorsOf name = sectors ↔ Text.Woven isDelimiter name sectors := by
  refine ⟨?_, fun split => ofPath?_eq_ok, fun name sectors => Text.pieces_eq_iff⟩
  simp only [ofPath?_eq_error, exists_eq_left]

end MediaNaming
