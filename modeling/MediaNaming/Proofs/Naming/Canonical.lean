import MediaNaming.Naming.Renamer
import MediaNaming.Proofs.Template.Reading
import MediaNaming.Proofs.Text.Ascii
import MediaNaming.Proofs.Text.Splitting
import Mathlib.Control.Monad.Basic

/-
The canonical name of an episode. The template shows series name, season and episodes, and then
title and year where there are any; a title that is the letter of its own field counts as none.
-/
namespace MediaNaming

theorem scanGroup_of {template content : Text} {start : Nat} (opening : Text) (offset : Nat)
    (here : template.dropBytes? start = some opening) (closes : closing? 0 opening = some offset)
    (cut : template.slice? (start + 1) (start + offset) = some content) :
    scanGroup template start = .ok ⟨content, start + offset + 1⟩ := by
  simp [scanGroup, here, closes, cut]

def spacedHyphen : Text := [' ', '-', ' ']

def titleGroup : Text := " - T".toList

def yearGroup : Text := " (Y)".toList

def numberingLetters : Text := "N - Sxe".toList

def episodeDirectives : List Directive :=
  numberingLetters.map .letter ++
    [.group titleGroup (titleGroup.map .letter), .group yearGroup (yearGroup.map .letter)]

theorem reads_episodeFormat :
    Directive.Reads "N - Sxe?( - T)?( (Y))".toList 0 episodeDirectives := by
  have apart : "N - Sxe?( - T)?( (Y))".toList =
      ([] : Text) ++ numberingLetters ++ "?( - T)?( (Y))".toList := by decide
  have title : scanGroup "N - Sxe?( - T)?( (Y))".toList 8 = .ok ⟨titleGroup, 14⟩ :=
    scanGroup_of "( - T)?( (Y))".toList 5 (by decide)
      (by decide) (by decide)
  have year : scanGroup "N - Sxe?( - T)?( (Y))".toList 15 = .ok ⟨yearGroup, 21⟩ :=
    scanGroup_of "( (Y))".toList 5 (by decide)
      (by decide) (by decide)
  have size : Text.byteSize "N - Sxe?( - T)?( (Y))".toList = 21 := by decide
  have last : Directive.Reads "N - Sxe?( - T)?( (Y))".toList 14
      [.group yearGroup (yearGroup.map .letter)] := by
    apply Directive.reads_step 21 (by omega)
    · exact Directive.readsAt_group " (Y))".toList (by decide) year
        (Directive.reads_plain (by decide))
    · exact Directive.reads_end (by omega)
  have groups : Directive.Reads "N - Sxe?( - T)?( (Y))".toList 7
      [.group titleGroup (titleGroup.map .letter), .group yearGroup (yearGroup.map .letter)] := by
    apply Directive.reads_step 14 (by omega) _ last
    exact Directive.readsAt_group " - T)?( (Y))".toList (by decide) title
      (Directive.reads_plain (by decide))
  rw [apart] at groups ⊢
  exact Directive.reads_letters [] (by decide) groups

/-- A group shows text unless it is too short or names the field alone. -/
theorem gate_text {raw t : Text} {c : Char} (member : c ∈ t) (solid : isBlank c = false)
    (other : t ≠ raw) (long : raw.length ≤ t.length) : Rendered.gate raw t = .text t := by
  have full : t.trim ≠ [] := Text.trimEnds_ne_nil member solid
  rw [Rendered.gate, if_neg]
  simp only [full, other, false_or]
  omega

theorem showAll_letters (fields : Fields) (letters : Text) :
    Directive.showAll fields (letters.map .letter) =
      (letters.map fun c => (fields c).getD [c]).flatten := by
  induction letters with
  | nil => rfl
  | cons c letters ih => simp [Directive.showAll, Directive.render, Rendered.shown, ih]

namespace MediaFile

def yearPart (m : MediaFile) : Text :=
  if 0 < m.year then [' ', '('] ++ Text.ofNumber m.year.toNat ++ [')'] else []

theorem shown_yearPart (m : MediaFile) :
    (Rendered.gate yearGroup ([' ', '('] ++ m.yearText ++ [')'])).shown = m.yearPart := by
  rw [yearPart, yearText]
  split
  · have digits : Text.ofNumber m.year.toNat ≠ [] := Nat.toDigits_ne_nil
    rw [gate_text (c := '(') (by simp) (by decide)]
    · rfl
    · intro same
      have apart : yearGroup = [' ', '('] ++ ['Y'] ++ [')'] := by decide
      rw [apart, List.append_assoc, List.append_assoc] at same
      have only : Text.ofNumber m.year.toNat = ['Y'] :=
        List.append_cancel_right (List.append_cancel_left same)
      have letter : 'Y' ∈ Text.ofNumber m.year.toNat := by simp [only]
      have digit := Nat.isDigit_of_mem_toDigits (by decide) (by decide) letter
      revert digit
      decide
    · have := List.length_pos_iff.2 digits
      simp [yearGroup]
      omega
  · decide

end MediaFile

namespace TitledEpisode

theorem title_unresolved (e : Episode) : TitledEpisode.title ⟨e, none⟩ = e.episodeTitle := by
  simp [TitledEpisode.title, eq_comm]

/-- The title with the hyphen before it, if the group for titles shows it. -/
def titlePart (e : TitledEpisode) : Text :=
  if e.title = [] ∨ e.title = ['T'] then [] else spacedHyphen ++ e.title

def canonicalName (e : TitledEpisode) : Text :=
  e.episode.seriesName ++ spacedHyphen ++ e.episode.seasonText ++ 'x' :: e.episode.numbersText ++
    e.titlePart ++ e.episode.media.yearPart

theorem shown_titlePart (e : TitledEpisode) :
    (Rendered.gate titleGroup (spacedHyphen ++ e.title)).shown = e.titlePart := by
  rw [titlePart]
  by_cases empty : e.title = []
  · rw [if_pos (Or.inl empty), empty]
    decide
  · by_cases same : e.title = ['T']
    · rw [if_pos (Or.inr same), same]
      decide
    · rw [if_neg (by simp [empty, same]), gate_text (c := '-') (by simp [spacedHyphen]) (by decide)]
      · rfl
      · intro raw
        apply same
        simpa [titleGroup, spacedHyphen] using raw
      · have := List.length_pos_iff.2 empty
        simp [titleGroup, spacedHyphen]
        omega

theorem showAll_lead (e : TitledEpisode) :
    Directive.showAll e.fields (numberingLetters.map .letter) =
      e.episode.seriesName ++ spacedHyphen ++ e.episode.seasonText ++
        'x' :: e.episode.numbersText := by
  have letters : numberingLetters = ['N', ' ', '-', ' ', 'S', 'x', 'e'] := by decide
  have blank : e.fields ' ' = none := rfl
  have hyphen : e.fields '-' = none := rfl
  have name : e.fields 'N' = some e.episode.seriesName := rfl
  have season : e.fields 'S' = some e.episode.seasonText := rfl
  have cross : e.fields 'x' = none := rfl
  have numbers : e.fields 'e' = some e.episode.numbersText := rfl
  rw [showAll_letters, letters]
  simp [spacedHyphen, blank, hyphen, name, season, cross, numbers]

theorem showAll_title (e : TitledEpisode) : Directive.showAll e.fields (titleGroup.map .letter) =
    spacedHyphen ++ e.title := by
  have letters : titleGroup = [' ', '-', ' ', 'T'] := by decide
  have blank : e.fields ' ' = none := rfl
  have hyphen : e.fields '-' = none := rfl
  have title : e.fields 'T' = some e.title := rfl
  rw [showAll_letters, letters]
  simp [spacedHyphen, blank, hyphen, title]

theorem showAll_year (e : TitledEpisode) : Directive.showAll e.fields (yearGroup.map .letter) =
    [' ', '('] ++ e.episode.media.yearText ++ [')'] := by
  have letters : yearGroup = [' ', '(', 'Y', ')'] := by decide
  have blank : e.fields ' ' = none := rfl
  have year : e.fields 'Y' = some e.episode.media.yearText := rfl
  have bracket : e.fields '(' = none := rfl
  have closing : e.fields ')' = none := rfl
  rw [showAll_letters, letters]
  simp [blank, bracket, year, closing]

theorem renderEpisode_canonicalName (e : TitledEpisode) :
    ({} : Renamer).renderEpisode e = .ok e.canonicalName := by
  have groups : Directive.showAll e.fields [.group titleGroup (titleGroup.map .letter),
      .group yearGroup (yearGroup.map .letter)] = e.titlePart ++ e.episode.media.yearPart := by
    simp only [Directive.showAll, Directive.render, showAll_title, showAll_year, shown_titlePart,
      MediaFile.shown_yearPart, List.append_nil]
  have shown : Directive.showAll e.fields episodeDirectives = e.canonicalName := by
    rw [episodeDirectives, Directive.showAll_append, showAll_lead, groups]
    simp only [canonicalName, List.append_assoc]
  rw [← shown]
  exact renderOnce_of_reads reads_episodeFormat e.fields

end TitledEpisode

def Episode.fullName (e : Episode) : Text :=
  e.seriesName ++ spacedHyphen ++ e.seasonText ++ 'x' :: e.numbersText ++
    (if e.episodeTitle = [] then [] else spacedHyphen ++ e.episodeTitle) ++ e.media.yearPart

/-- Without a resolved title every episode is rendered, and its name is the full one, but for a
    title that is the letter of its own field: it is left out like a missing one. -/
theorem renderEpisode_fullName (movies episodes : Classifier) (e : Episode) :
    ({ movieClassifier := movies, episodeClassifier := episodes } : Renamer).renderEpisode
        ⟨e, none⟩ =
      .ok (if e.episodeTitle = ['T'] then { e with episodeTitle := [] } else e).fullName := by
  have title : TitledEpisode.title ⟨e, none⟩ = e.episodeTitle := by
    simp [TitledEpisode.title, eq_comm]
  -- Rendering reads the template only, which is the same for all classifiers.
  have canonical : ({ movieClassifier := movies, episodeClassifier := episodes } : Renamer).renderEpisode
      ⟨e, none⟩ = .ok (TitledEpisode.canonicalName ⟨e, none⟩) :=
    TitledEpisode.renderEpisode_canonicalName ⟨e, none⟩
  rw [canonical, TitledEpisode.canonicalName, TitledEpisode.titlePart, title]
  by_cases letter : e.episodeTitle = ['T']
  · rw [if_pos (Or.inr letter), if_pos letter, Episode.fullName]
    rfl
  · simp only [letter, or_false, if_false, Episode.fullName]

theorem renderEpisode_letter_title : ∃ e,
    ({} : Renamer).parseEpisode "Show.S01E01.T.mkv".toList = .ok e ∧
      e.fullName = "Show - 01x01 - T".toList ∧
        ({} : Renamer).renderEpisode ⟨e, none⟩ = .ok "Show - 01x01".toList := by
  refine ⟨⟨⟨"Show.S01E01.T".toList, "mkv".toList, [], -1, 0, none,
    ["Show".toList, "S01E01".toList, "T".toList]⟩, "Show".toList, "T".toList, some 1, [1],
    some (1, 1)⟩, by decide +kernel, by decide +kernel, ?_⟩
  rw [TitledEpisode.renderEpisode_canonicalName]
  decide +kernel

end MediaNaming
