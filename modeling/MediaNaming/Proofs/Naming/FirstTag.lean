import MediaNaming.Proofs.Naming.Fragments
import MediaNaming.Proofs.Sector.Continuation
import MediaNaming.Proofs.Sector.Solid

/-
Where the name ends. Once junk has begun, the settled sectors before it are final: later steps only
settle more sectors behind them or join capitals there. A built-in tag is settled as junk wherever
it stands, so what precedes the first tag is refined as if it were all of the name.
-/
namespace MediaNaming

namespace Refinement

variable {lexicon : Lexicon} {kept : List Text} {r r' : Refinement}

/-- Junk has begun right behind these sectors. -/
structure Closed (kept : List Text) (r : Refinement) : Prop where
  junk : r.findings.junkStart = some kept.length
  done : ∃ later, later ≠ [] ∧ r.done = kept ++ later

theorem Closed.result (closed : Closed kept r) : r.result.sectors = kept := by
  obtain ⟨later, _, done⟩ := closed.done
  rw [result_marked closed.junk, done, List.take_left]

theorem closed_settle {sector : Text} {after : List Text}
    (bounded : ∀ start ∈ r.findings.junkStart, start < r.done.length)
    (junk : lexicon.isJunk r.done.length sector = true) :
    Closed r.result.sectors (r.settle lexicon.classify sector after) := by
  have marked := lexicon.classify_junkStart r.done sector after r.findings
  rw [junk, if_pos rfl] at marked
  cases early : r.findings.junkStart with
  | none =>
    rw [result_unmarked early]
    refine ⟨?_, [sector], by simp, rfl⟩
    simp only [settle, marked, Findings.markJunk, early]
  | some start =>
    have within := bounded start early
    rw [result_marked early]
    refine ⟨?_, r.done.drop start ++ [sector], by simp, ?_⟩
    · simp only [settle, marked, Findings.markJunk, early, List.length_take]
    · rw [settle_done, ← List.append_assoc, List.take_append_drop]

theorem closed_stepped (closed : Closed kept r) (stepped : Stepped lexicon.classify r r') :
    Closed kept r' := by
  obtain ⟨later, some, done⟩ := closed.done
  cases stepped with
  | drop head => exact ⟨closed.junk, later, some, done⟩
  | consume head nonempty opens consumed => exact ⟨closed.junk, later, some, done⟩
  | @join s sector last rest after front head nonempty opens lone follows settled =>
    -- the sector that grows is the last one, which stands behind the kept ones
    obtain ⟨between, final, rfl⟩ : ∃ between final, later = between ++ [final] :=
      ⟨_, _, (List.dropLast_concat_getLast some).symm⟩
    rw [settled, ← List.append_assoc] at done
    obtain ⟨rfl, -⟩ := List.append_inj' done rfl
    exact ⟨closed.junk, between ++ [last ++ sector], by simp, by simp⟩
  | @settle s sector rest after head nonempty opens unconsumed apart =>
    refine ⟨?_, later ++ [sector], by simp, by rw [settle_done, done, List.append_assoc]⟩
    simp only [settle, Lexicon.classify_junkStart]
    split
    · simp only [Findings.markJunk, closed.junk, done, List.length_append]
      congr 1
      omega
    · exact closed.junk

theorem closed_run (closed : Closed kept r) : Closed kept (r.run lexicon.classify) :=
  run_keeps lexicon.classify (fun _ _ closed stepped => closed_stepped closed stepped) closed

end Refinement

/-- A sector that is settled by itself and is junk wherever it stands. -/
structure EndsName (lexicon : Lexicon) (t : Text) : Prop extends Whole t where
  unmarked : PartMarker.ofSector? t.capitalize = none
  unnumbered_word : NumberWord.ofSector? t = none
  several : isLoneCapital t.capitalize = false
  junk : ∀ index, lexicon.isJunk index t.capitalize = true

theorem Refinement.step_endsName {lexicon : Lexicon} {t : Text} (ends : EndsName lexicon t)
    {r : Refinement} {rest : List Text} (head : r.rest = t :: rest) :
    r.step lexicon.classify = r.settle lexicon.classify t.capitalize rest := by
  apply step_settle head ends.toWhole
  · simp only [PartMarker.consume?, ends.unmarked]
  · intro lone
    rw [ends.several] at lone
    contradiction

theorem refine_endsName {lexicon : Lexicon} {t : Text} (ends : EndsName lexicon t)
    (before after : List Text) :
    (refine lexicon.classify (before ++ t :: after)).sectors =
      (refine lexicon.classify before).sectors := by
  have apart : StartsApart (t :: after) := by
    intro next head
    obtain rfl : t = next := by simpa using head
    exact ⟨ends.nonempty, ends.unnumbered_word⟩
  have bounded := Refinement.junkStart_run_lt lexicon before
  have finished := Refinement.run_rest lexicon.classify ⟨[], before, false, 0, {}⟩
  rw [refine_append lexicon.classify_local apart, refine]
  generalize Refinement.run lexicon.classify ⟨[], before, false, 0, {}⟩ = r at bounded finished ⊢
  have head : (r.before (t :: after)).rest = t :: after := by
    rw [Refinement.before, finished]
    rfl
  rw [Refinement.run_step (by simp [head]), Refinement.step_endsName ends head]
  exact (Refinement.closed_run (Refinement.closed_settle bounded (ends.junk _))).result

theorem numberWord_lower {t : Text} (low : ∀ c ∈ t, c.toNat < 128) :
    NumberWord.ofSector? (t.map Char.toLower) = NumberWord.ofSector? t := by
  have small : ∀ c ∈ t, c.toLower.toNat < 128 ∧ c.toLower.toLower = c.toLower ∧
      c.toLower.isDigit = c.isDigit := by
    intro c member
    have same := ascii_forall (p := fun c => decide (c.toLower.toNat < 128) &&
      c.toLower.toLower == c.toLower && c.toLower.isDigit == c.isDigit) (by decide) (low c member)
    simpa [and_assoc] using same
  by_cases digits : ∀ c ∈ t, c.isDigit = true
  · rw [map_toLower_of_digits digits]
  · obtain ⟨c, member, undigit⟩ : ∃ c ∈ t, ¬ c.isDigit = true := by simpa using digits
    have mixed : t.all Char.isDigit = false := List.all_eq_false.2 ⟨c, member, undigit⟩
    have mixedToo : (t.map Char.toLower).all Char.isDigit = false :=
      List.all_eq_false.2 ⟨c.toLower, List.mem_map_of_mem member, by rwa [(small c member).2.2]⟩
    have lowered : Text.lowercase (t.map Char.toLower) = t.lowercase := by
      rw [lowercase_of_ascii low, lowercase_of_ascii, List.map_map]
      · exact List.map_congr_left fun c member => (small c member).2.1
      · simpa using fun c member => (small c member).1
    simp [NumberWord.ofSector?, mixed, mixedToo, lowered]

theorem builtIn_tags : ∀ tag ∈ Lexicon.resolutionTags ++ Lexicon.releaseTags,
    (∀ c ∈ tag, isNameLetter c = true) ∧ 2 ≤ tag.length ∧ NumberWord.ofSector? tag = none ∧
      (∀ word ∈ PartMarker.words, ¬ word <+: tag) ∧
      ('-' ∈ tag → ∀ c ∈ tag.head?, isDecimal c = false) := by
  decide

theorem splitNumbered?_of_unled {t : Text}
    (unled : '-' ∈ t → ∀ c ∈ t.head?, isDecimal c = false) : splitNumbered? t = none := by
  cases split : splitNumbered? t with
  | none => rfl
  | some found =>
    obtain ⟨digits, word⟩ := found
    obtain ⟨some, decimal⟩ := splitNumbered?_decimal split
    obtain ⟨d, rest, rfl⟩ := List.exists_cons_of_ne_nil some
    have text := splitNumbered?_text split
    have undigit := unled (by simp [text]) d (by simp [text])
    rw [decimal d (by simp)] at undigit
    contradiction

theorem endsName_of_tag {lexicon : Lexicon} {tag t : Text}
    (builtIn : tag ∈ Lexicon.resolutionTags ++ Lexicon.releaseTags)
    (known : lexicon.tags = Lexicon.resolutionTags ++ Lexicon.releaseTags)
    (spelled : Text.isWord tag t = true) : EndsName lexicon t := by
  obtain ⟨tagLetters, several, wordless, unmarked, unled⟩ := builtIn_tags tag builtIn
  obtain rfl : t.map Char.toLower = tag := by simpa [Text.isWord] using spelled
  have letters : ∀ c ∈ t, isNameLetter c = true := lower_nameLetters.1 tagLetters
  have low : ∀ c ∈ t, c.toNat < 128 := fun c member => toNat_lt_of_isNameLetter (letters c member)
  obtain ⟨capitals, same⟩ := capitalize_nameLetters letters
  have lowCapitals : ∀ c ∈ t.capitalize, c.toNat < 128 :=
    fun c member => toNat_lt_of_isNameLetter (capitals c member)
  rw [List.length_map] at several
  have none : PartMarker.ofSector? t.capitalize = none :=
    ofSector?_of_unmarked lowCapitals (by rwa [same])
  refine ⟨⟨?_, ?_, by simp [none]⟩, none, ?_, ?_, fun index => ?_⟩
  · rintro rfl
    simp at several
  · refine splitNumbered?_of_unled fun hyphen c head => ?_
    have undigit := unled (List.mem_map.2 ⟨'-', hyphen, rfl⟩) c.toLower (by
      rw [List.head?_map, Option.mem_def.1 head]
      rfl)
    by_contra digit
    rw [toLower_of_decimal (by simpa using digit)] at undigit
    exact digit undigit
  · rw [← numberWord_lower low, wordless]
  · exact isLoneCapital_of_several (by rwa [length_capitalize low])
  · apply isJunk_of_isTag (by rw [known]; exact default_tags_no_year)
    rw [(judged_nameLetters capitals).1, same]
    simp [Lexicon.isTag, known, builtIn]

theorem refine_behind_tag {lexicon : Lexicon}
    (default : lexicon = Lexicon.movies ∨ lexicon = Lexicon.episodes) {tag t : Text}
    (builtIn : tag ∈ lexicon.tags) (spelled : Text.isWord tag t = true)
    (before after other : List Text) :
    (refine lexicon.classify (before ++ t :: after)).sectors =
      (refine lexicon.classify (before ++ t :: other)).sectors := by
  have known : lexicon.tags = Lexicon.resolutionTags ++ Lexicon.releaseTags := by
    rcases default with rfl | rfl <;> rfl
  have ends : EndsName lexicon t := endsName_of_tag (known ▸ builtIn) known spelled
  rw [refine_endsName ends, refine_endsName ends]

theorem refine_behind_x264 :
    ("x264".toList ∈ Lexicon.movies.tags ∧ Text.isWord "x264".toList "X264".toList = true) ∧
    (refine Lexicon.movies.classify (["the".toList, "a".toList, "Part".toList] ++
        "X264".toList :: ["two".toList, "1999".toList, "5-foo".toList])).sectors =
      (refine Lexicon.movies.classify (["the".toList, "a".toList, "Part".toList] ++
        "X264".toList :: [])).sectors ∧
    (refine Lexicon.movies.classify (["the".toList, "a".toList, "Part".toList] ++
        "X264".toList :: [])).sectors = ["The".toList, "A".toList, "Part".toList] := by
  have builtIn : "x264".toList ∈ Lexicon.movies.tags := by decide
  have spelled : Text.isWord "x264".toList "X264".toList = true := by decide
  exact ⟨⟨builtIn, spelled⟩, refine_behind_tag (Or.inl rfl) builtIn spelled _ _ _,
    by decide +kernel⟩

end MediaNaming
