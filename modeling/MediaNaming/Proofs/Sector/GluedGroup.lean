import MediaNaming.Proofs.Sector.Inert

/-
A release group glued to a tag by a hyphen. What is found at such a sector is compared with what is
found at the tag alone. Only a whole sector tells a quality, and junk begins where the whole sector
or what stands before its first hyphen is a tag, which is less than the tag if that has a hyphen.
-/
namespace MediaNaming

inductive Lexicon.Extended : Lexicon → Prop where
  | movies : Extended Lexicon.movies
  | episodes : Extended Lexicon.episodes
  | withTags {lexicon : Lexicon} {tags : List Text} (base : Extended lexicon)
      (spelled : ∀ tag ∈ tags, ∀ c ∈ tag, isNameLetter c = true) :
      Extended (lexicon.withTags tags)

theorem Lexicon.Extended.letters {lexicon : Lexicon} (extended : lexicon.Extended) :
    ∀ tag ∈ lexicon.tags, ∀ c ∈ tag, isNameLetter c = true := by
  have default : ∀ tag ∈ Lexicon.resolutionTags ++ Lexicon.releaseTags,
      ∀ c ∈ tag, isNameLetter c = true := by decide
  induction extended with
  | movies => exact default
  | episodes => exact default
  | withTags base spelled ih =>
    intro tag member
    rcases List.mem_append.1 member with before | added
    · exact ih tag before
    · obtain ⟨given, here, rfl⟩ := List.mem_map.1 added
      have letters := spelled given here
      rw [lowercase_of_ascii fun c inside => toNat_lt_of_isNameLetter (letters c inside)]
      exact lower_nameLetters.2 letters

theorem classify_nameLetters {lexicon : Lexicon} {sectors : List Text} {index : Nat} {s : Text}
    (here : sectors[index]? = some s) (letters : ∀ c ∈ s, isNameLetter c = true)
    (undated : year? (s.map Char.toLower) = none) (f : Findings) :
    lexicon.classify sectors index f =
      { junkStart := if lexicon.isTag (s.map Char.toLower) then (f.markJunk index).junkStart
          else f.junkStart
        year := f.year
        quality := f.quality.or (Quality.ofTag? (s.map Char.toLower)) } := by
  obtain ⟨core, unopened⟩ := judged_nameLetters letters
  rw [judged] at core
  rw [opensBracket, decide_eq_false_iff_not] at unopened
  simp only [Lexicon.classify, here, core, undated, unopened, false_and, or_false]
  cases Quality.ofTag? (s.map Char.toLower) <;> split <;>
    simp [Findings.recordQuality, Findings.markJunk]

theorem ofTag?_of_hyphen {t : Text} (hyphen : '-' ∈ t) : Quality.ofTag? t = none := by
  have unhyphened : ∀ q ∈ Quality.all, ∀ tag ∈ q.tags, '-' ∉ tag := by decide
  rw [Quality.ofTag?, List.find?_eq_none]
  intro q member
  simp only [List.contains_iff_mem]
  intro tag
  exact unhyphened q member t tag hyphen

theorem year?_of_hyphen {t : Text} (hyphen : '-' ∈ t) : year? t = none := by
  cases found : year? t with
  | none => rfl
  | some year => exact absurd ((year?_digits found).2 '-' hyphen) (by decide)

theorem Text.splitFirst?_takeWhile (c : Char) (t rest : Text) :
    ∃ after, (t ++ c :: rest).splitFirst? c = some (t.takeWhile (· != c), after) := by
  induction t with
  | nil => exact ⟨rest, by simp [splitFirst?]⟩
  | cons d t ih =>
    obtain ⟨after, cut⟩ := ih
    by_cases first : d = c
    · exact ⟨t ++ c :: rest, by simp [splitFirst?, first]⟩
    · exact ⟨after, by simp [splitFirst?, first, cut]⟩

theorem isTag_glued (lexicon : Lexicon) (t rest : Text) :
    lexicon.isTag (t ++ '-' :: rest) = true ↔
      t ++ '-' :: rest ∈ lexicon.tags ∨ t.takeWhile (· != '-') ∈ lexicon.tags := by
  obtain ⟨after, cut⟩ := Text.splitFirst?_takeWhile '-' t rest
  simp [Lexicon.isTag, cut]

theorem eq_markJunk_iff (f : Findings) (index : Nat) :
    f.junkStart = (f.markJunk index).junkStart ↔ ∃ start ∈ f.junkStart, start ≤ index := by
  cases early : f.junkStart with
  | none => simp [Findings.markJunk, early]
  | some start =>
    simp only [Findings.markJunk, early, Option.some.injEq, Option.mem_def, exists_eq_left']
    omega

theorem or_eq_self_iff (told quality : Option Quality) :
    told.or quality = told ↔ quality = none ∨ told ≠ none := by
  cases told <;> simp

theorem glued_nameLetters {tag spelled group : Text} (tagLetters : ∀ c ∈ tag, isNameLetter c = true)
    (same : Text.isWord tag spelled = true) (letters : ∀ c ∈ group, c.isAlphanum = true) :
    (∀ c ∈ spelled ++ '-' :: group, isNameLetter c = true) ∧
      (spelled ++ '-' :: group).map Char.toLower = tag ++ '-' :: group.map Char.toLower := by
  obtain rfl : spelled.map Char.toLower = tag := beq_iff_eq.1 same
  constructor
  · intro c member
    rcases List.mem_append.1 member with inTag | inGroup
    · exact lower_nameLetters.1 tagLetters c inTag
    · rcases List.mem_cons.1 inGroup with rfl | inGroup
      · decide
      · simp [isNameLetter, letters c inGroup]
  · rw [List.map_append]
    rfl

theorem glued_group_iff {lexicon : Lexicon} {tag plain spelled group : Text}
    {sectors glued : List Text} {index : Nat} (extended : lexicon.Extended)
    (known : tag ∈ lexicon.tags) (undated : year? tag = none)
    (alone : sectors[index]? = some plain) (same : Text.isWord tag plain = true)
    (together : glued[index]? = some (spelled ++ '-' :: group))
    (sameToo : Text.isWord tag spelled = true) (letters : ∀ c ∈ group, c.isAlphanum = true)
    (f : Findings) :
    lexicon.classify glued index f = lexicon.classify sectors index f ↔
      (Quality.ofTag? tag = none ∨ f.quality ≠ none) ∧
        (tag ++ '-' :: group.map Char.toLower ∈ lexicon.tags ∨
          tag.takeWhile (· != '-') ∈ lexicon.tags ∨ ∃ start ∈ f.junkStart, start ≤ index) := by
  have tagLetters := extended.letters tag known
  obtain rfl : plain.map Char.toLower = tag := beq_iff_eq.1 same
  obtain ⟨gluedLetters, lowered⟩ := glued_nameLetters tagLetters sameToo letters
  have hyphen : '-' ∈ plain.map Char.toLower ++ '-' :: group.map Char.toLower := by simp
  have found : lexicon.isTag (plain.map Char.toLower) = true := by simp [Lexicon.isTag, known]
  rw [classify_nameLetters alone (lower_nameLetters.1 tagLetters) undated,
    classify_nameLetters together gluedLetters (lowered ▸ year?_of_hyphen hyphen), lowered, found,
    if_pos rfl, ofTag?_of_hyphen hyphen, Option.or_none]
  simp only [Findings.mk.injEq, true_and]
  rw [and_comm, eq_comm, or_eq_self_iff]
  apply and_congr_right
  intro _
  -- the verdict on junk is missed only if it adds nothing
  rw [ite_eq_left_iff, eq_markJunk_iff, ← or_iff_not_imp_left, isTag_glued, or_assoc]

theorem glued_group_web :
    (Lexicon.episodes.withTags ["Web".toList]).classify ["Show".toList, "WEB-DL-Grp".toList] 1 {} =
      (Lexicon.episodes.withTags ["Web".toList]).classify ["Show".toList, "Web-dl".toList] 1 {} :=
  (@glued_group_iff _ "web-dl".toList "Web-dl".toList "WEB-DL".toList "Grp".toList
    ["Show".toList, "Web-dl".toList] ["Show".toList, "WEB-DL-Grp".toList] 1
    (.withTags .episodes (by decide)) (by decide) (by decide) rfl (by decide) rfl (by decide)
    (by decide) {}).2 ⟨.inl (by decide), .inr (.inl (by decide))⟩

/-- A group glued to a resolution hides the quality, and glued to a tag with a hyphen the junk. -/
theorem glued_group_hides :
    Lexicon.movies.classify ["Movie".toList, "720p".toList] 1 {} = ⟨some 1, none, some .hd720⟩ ∧
    Lexicon.movies.classify ["Movie".toList, "720p-GRP".toList] 1 {} = ⟨some 1, none, none⟩ ∧
    Lexicon.movies.classify ["Movie".toList, "Blu-Ray".toList] 1 {} = ⟨some 1, none, none⟩ ∧
    Lexicon.movies.classify ["Movie".toList, "Blu-Ray-GRP".toList] 1 {} = ⟨none, none, none⟩ := by
  decide +kernel

end MediaNaming
