import MediaNaming.Proofs.Sector.GluedGroup
import MediaNaming.Proofs.Sector.Survivors

/-
Sectors judged one after the other, in any order. A visit adds what one sector shows; so after any
visits the junk begins at the least index that was found to be junk, the year is the last one told
and the quality the first one.
-/
namespace MediaNaming

def qualityOf? (s : Text) : Option Quality :=
  if yearOf? s = none then Quality.ofTag? (judged s) else none

namespace Lexicon

/-- What speaks for junk at a sector. A year is neither a tag nor in brackets for that. -/
inductive Marks (lexicon : Lexicon) (index : Nat) (s : Text) : Prop
  | tag (undated : yearOf? s = none) (known : judged s ∈ lexicon.tags)
  | glued {tag group : Text} (word : judged s = tag ++ '-' :: group) (known : tag ∈ lexicon.tags)
      (simple : '-' ∉ tag)
  | bracketed (undated : yearOf? s = none) (opens : opensBracket s = true) (later : 0 < index)
  | year (cuts : lexicon.cutsAtYear = true) (dated : yearOf? s ≠ none) (later : 0 < index)

def GluesHyphenated (lexicon : Lexicon) (s : Text) : Prop :=
  ∃ tag group, judged s = tag ++ '-' :: group ∧ tag ∈ lexicon.tags ∧ '-' ∈ tag

def junkAt (lexicon : Lexicon) (sectors : List Text) (index : Nat) : Bool :=
  sectors[index]?.any (lexicon.isJunk index)

def visit (lexicon : Lexicon) (sectors : List Text) (order : List Nat) (f : Findings) : Findings :=
  order.foldl (fun f index => lexicon.classify sectors index f) f

variable {lexicon : Lexicon} {sectors : List Text} {index : Nat} {s : Text}

theorem isTag_iff {word : Text} : lexicon.isTag word = true ↔
    word ∈ lexicon.tags ∨
      ∃ tag group, word = tag ++ '-' :: group ∧ tag ∈ lexicon.tags ∧ '-' ∉ tag := by
  constructor
  · intro found
    simp only [isTag, Bool.or_eq_true, List.contains_iff_mem] at found
    refine found.imp_right fun head => ?_
    split at head
    · rename_i tag group cut
      obtain ⟨whole, simple⟩ := Text.splitFirst?_some cut
      exact ⟨tag, group, whole, List.contains_iff_mem.1 head, simple⟩
    · contradiction
  · rintro (known | ⟨tag, group, rfl, known, simple⟩)
    · simp [isTag, known]
    · simp [isTag, Text.splitFirst?_append ('-' :: group) simple, Text.splitFirst?, known]

theorem isJunk_iff_marks : lexicon.isJunk index s = true ↔ lexicon.Marks index s := by
  cases dated : yearOf? s with
  | some year =>
    -- a year has no hyphen, so no group is glued to it
    have unglued : ∀ tag group, judged s ≠ tag ++ '-' :: group := by
      intro tag group word
      have none : yearOf? s = none := year?_of_hyphen (by simp [word])
      simp [dated] at none
    constructor
    · intro junk
      simp only [isJunk, dated, Bool.and_eq_true, decide_eq_true_eq] at junk
      exact .year junk.1 (by simp [dated]) junk.2
    · intro marks
      cases marks with
      | tag undated _ => simp [dated] at undated
      | glued word _ _ => exact absurd word (unglued _ _)
      | bracketed undated _ _ => simp [dated] at undated
      | year cuts _ later => simp [isJunk, dated, cuts, later]
  | none =>
    simp only [isJunk, dated, Bool.or_eq_true, Bool.and_eq_true, decide_eq_true_eq, isTag_iff]
    constructor
    · rintro ((known | ⟨tag, group, word, known, simple⟩) | ⟨opens, later⟩)
      · exact .tag dated known
      · exact .glued word known simple
      · exact .bracketed dated opens later
    · intro marks
      cases marks with
      | tag _ known => exact Or.inl (Or.inl known)
      | glued word known simple => exact Or.inl (Or.inr ⟨_, _, word, known, simple⟩)
      | bracketed _ opens later => exact Or.inr ⟨opens, later⟩
      | year _ told _ => exact absurd dated told

theorem junkAt_iff : lexicon.junkAt sectors index = true ↔
    ∃ s, sectors[index]? = some s ∧ lexicon.Marks index s := by
  simp only [junkAt, Option.any_eq_true, isJunk_iff_marks]

theorem classify_adds (lexicon : Lexicon) (sectors : List Text) (index : Nat) (f : Findings) :
    lexicon.classify sectors index f =
      { junkStart := if lexicon.junkAt sectors index then (f.markJunk index).junkStart
          else f.junkStart
        year := (sectors[index]?.bind yearOf?).or f.year
        quality := f.quality.or (sectors[index]?.bind qualityOf?) } := by
  cases here : sectors[index]? with
  | none => simp [classify, junkAt, here]
  | some s =>
    have junk := classify_judgesBy lexicon sectors index s f here
    rw [← isJunk_eq_marks] at junk
    simp only [junkAt, here, Option.any_some, ← junk]
    cases told : year? (withoutBrackets s.lowercase) with
    | some year =>
      simp only [classify, here, told, qualityOf?, yearOf?, judged, Option.bind_some]
      split <;> simp [Findings.recordYear, Findings.markJunk]
    | none =>
      simp only [classify, here, told, qualityOf?, yearOf?, judged, Option.bind_some]
      cases Quality.ofTag? (withoutBrackets s.lowercase) <;> split <;>
        simp [Findings.recordQuality, Findings.markJunk]

theorem visit_cons (lexicon : Lexicon) (sectors : List Text) (index : Nat) (order : List Nat)
    (f : Findings) : lexicon.visit sectors (index :: order) f =
      lexicon.visit sectors order (lexicon.classify sectors index f) := rfl

theorem junkStart_visit (lexicon : Lexicon) (sectors : List Text) (order : List Nat)
    (f : Findings) : (lexicon.visit sectors order f).junkStart =
      (f.junkStart.toList ++ order.filter (lexicon.junkAt sectors)).min? := by
  induction order generalizing f with
  | nil => cases early : f.junkStart <;> simp [visit, early]
  | cons index order ih =>
    rw [visit_cons, ih, classify_adds, List.filter_cons]
    cases lexicon.junkAt sectors index with
    | false => rfl
    | true => cases early : f.junkStart <;> simp [Findings.markJunk, early, List.min?]

theorem year_visit (lexicon : Lexicon) (sectors : List Text) (order : List Nat) (f : Findings) :
    (lexicon.visit sectors order f).year =
      ((order.filterMap fun index => sectors[index]?.bind yearOf?).getLast?).or f.year := by
  induction order generalizing f with
  | nil => simp [visit]
  | cons index order ih =>
    rw [visit_cons, ih, classify_adds, List.filterMap_cons]
    cases sectors[index]?.bind yearOf? with
    | none => rfl
    | some year =>
      simp only [List.getLast?_cons]
      cases (order.filterMap fun index => sectors[index]?.bind yearOf?).getLast? <;> simp

theorem quality_visit (lexicon : Lexicon) (sectors : List Text) (order : List Nat) (f : Findings) :
    (lexicon.visit sectors order f).quality =
      f.quality.or (order.filterMap fun index => sectors[index]?.bind qualityOf?).head? := by
  induction order generalizing f with
  | nil => simp [visit]
  | cons index order ih =>
    rw [visit_cons, ih, classify_adds, List.filterMap_cons]
    cases sectors[index]?.bind qualityOf? with
    | none => simp
    | some quality => cases f.quality <;> rfl

theorem junkStart_visit_iff {order : List Nat} {start : Nat} :
    (lexicon.visit sectors order {}).junkStart = some start ↔
      (start ∈ order ∧ lexicon.junkAt sectors start = true) ∧
        ∀ index ∈ order, lexicon.junkAt sectors index = true → start ≤ index := by
  simp only [junkStart_visit, Option.toList_none, List.nil_append, List.min?_eq_some_iff,
    List.mem_filter, and_imp]

end Lexicon

/-- Sectors visited in any order, some of them repeatedly or not at all. The junk begins at the
    least visited index of a marked sector, whatever the order; nothing is said about a group glued
    to a tag with a hyphen. The year is that of the last visited year, and the quality that of the
    first resolution visited. -/
theorem visit_findings (lexicon : Lexicon) (sectors : List Text) (order : List Nat) :
    let found := lexicon.visit sectors order {}
    (∀ start ∈ found.junkStart, start ∈ order ∧ ∃ s, sectors[start]? = some s ∧
        (lexicon.Marks start s ∨ lexicon.GluesHyphenated s)) ∧
      (∀ index ∈ order, ∀ s, sectors[index]? = some s → lexicon.Marks index s →
        ∃ start ∈ found.junkStart, start ≤ index) ∧
      (∀ other : List Nat, (∀ index, index ∈ other ↔ index ∈ order) →
        (lexicon.visit sectors other {}).junkStart = found.junkStart) ∧
      found.year = (order.filterMap fun index => sectors[index]?.bind yearOf?).getLast? ∧
      found.quality = (order.filterMap fun index => sectors[index]?.bind qualityOf?).head? := by
  refine ⟨?_, ?_, ?_, ?_, ?_⟩
  · intro start here
    obtain ⟨⟨visited, junk⟩, _⟩ := Lexicon.junkStart_visit_iff.1 here
    obtain ⟨s, at_start, marks⟩ := Lexicon.junkAt_iff.1 junk
    exact ⟨visited, s, at_start, Or.inl marks⟩
  · intro index visited s at_index marks
    have junk := Lexicon.junkAt_iff.2 ⟨s, at_index, marks⟩
    cases found : (lexicon.visit sectors order {}).junkStart with
    | some start => exact ⟨start, rfl, (Lexicon.junkStart_visit_iff.1 found).2 index visited junk⟩
    | none =>
      simp only [Lexicon.junkStart_visit, Option.toList_none, List.nil_append,
        List.min?_eq_none_iff, List.filter_eq_nil_iff] at found
      exact absurd junk (found index visited)
  · intro other same
    apply Option.ext
    intro start
    simp only [Lexicon.junkStart_visit_iff, same]
  · rw [Lexicon.year_visit, Option.or_none]
  · rw [Lexicon.quality_visit, Option.none_or]

theorem visit_findings_backwards :
    let sectors := ["Heat".toList, "1995".toList, "720p".toList, "x264-GRP".toList]
    let found := Lexicon.movies.visit sectors [7, 3, 2, 3, 1] {}
    (∃ start ∈ found.junkStart, start ≤ 1) ∧ (∀ start ∈ found.junkStart, start ∈ [7, 3, 2, 3, 1]) ∧
      found.year = some 1995 ∧ found.quality = some .hd720 := by
  intro sectors found
  obtain ⟨visited, least, _, year, quality⟩ :=
    visit_findings Lexicon.movies sectors [7, 3, 2, 3, 1]
  refine ⟨least 1 (by decide) "1995".toList rfl ?_,
    fun start here => (visited start here).1, ?_, ?_⟩
  · exact .year rfl (by decide +kernel) (by decide)
  · exact year.trans (by decide +kernel)
  · exact quality.trans (by decide +kernel)

theorem visit_bracketed_year :
    opensBracket "[2005]".toList = true ∧
      Lexicon.episodes.visit ["Show".toList, "[2005]".toList] [0, 1] {} = ⟨none, some 2005, none⟩ ∧
      judged "2005".toList ∈ (Lexicon.episodes.withTags ["2005".toList]).tags ∧
      (Lexicon.episodes.withTags ["2005".toList]).visit ["Show".toList, "2005".toList] [0, 1] {} =
        ⟨none, some 2005, none⟩ := by
  decide +kernel

end MediaNaming
