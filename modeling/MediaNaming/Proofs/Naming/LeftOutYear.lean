import MediaNaming.Proofs.Naming.Phrase

/-
Where the release year is left out. Before and behind an inner block it is: sectors that spell it
may as well be removed. Behind a block that comes first it is not: joining, trimming and splitting
lose no digit, so the digits of the year are found again in the series name or in the title.
-/
namespace MediaNaming

section Counting

variable {p : Char → Bool}

theorem countP_trimEnds {drops : Char → Bool} (kept : ∀ c, drops c = true → p c = false)
    (t : Text) : (t.trimEnds drops).countP p = t.countP p := by
  obtain ⟨lead, tail, whole, before, after⟩ := Text.trimEnds_within drops t
  have front : lead.countP p = 0 :=
    List.countP_eq_zero.2 fun c member => by simp [kept c (before c member)]
  have back : tail.countP p = 0 :=
    List.countP_eq_zero.2 fun c member => by simp [kept c (after c member)]
  calc (t.trimEnds drops).countP p
      = lead.countP p + (t.trimEnds drops).countP p + tail.countP p := by omega
    _ = (lead ++ t.trimEnds drops ++ tail).countP p := by simp only [List.countP_append]
    _ = t.countP p := by rw [← whole]

theorem countP_joinSectors (kept : ∀ c, isHyphenOrBlank c = true → p c = false)
    (words : List Text) : (joinSectors words).countP p = words.flatten.countP p := by
  rw [joinSectors, countP_trimEnds kept]
  induction words with
  | nil => rfl
  | cons w words ih =>
    have space : p ' ' = false := kept ' ' (by decide)
    by_cases last : words = []
    · simp [last, Text.join, List.intercalate]
    · simp [Text.join_cons _ _ last, ih, space]

theorem countP_splitAtHyphen (kept : ∀ c, isHyphenOrBlank c = true → p c = false)
    {t left right : Text} (found : splitAtHyphen? t = some (left, right)) :
    left.countP p + right.countP p = t.countP p := by
  have blank : ∀ c, isBlank c = true → p c = false := by
    intro c here
    exact kept c (by simp [isHyphenOrBlank, here])
  obtain ⟨front, back, ⟨rfl, -, -⟩, rfl, rfl⟩ := splitAtHyphen?_eq_some.1 found
  have hyphen : p '-' = false := kept '-' (by decide)
  have space : p ' ' = false := kept ' ' (by decide)
  simp [Text.trim, countP_trimEnds blank, hyphen, space]

theorem countP_filter_le (keeps : Text → Bool) (words : List Text) :
    (words.filter keeps).flatten.countP p ≤ words.flatten.countP p := by
  induction words with
  | nil => simp
  | cons w words ih =>
    cases kept : keeps w <;>
      simp only [List.filter_cons, kept, Bool.false_eq_true, if_true, if_false, List.flatten_cons,
        List.countP_append] <;> omega

theorem countP_filter_lt {keeps : Text → Bool} {words : List Text} {w : Text} (member : w ∈ words)
    (dropped : keeps w = false) (counted : 0 < w.countP p) :
    (words.filter keeps).flatten.countP p < words.flatten.countP p := by
  obtain ⟨before, after, rfl⟩ := List.append_of_mem member
  have front := countP_filter_le (p := p) keeps before
  have back := countP_filter_le (p := p) keeps after
  simp only [List.filter_append, List.filter_cons, dropped, Bool.false_eq_true, if_false,
    List.flatten_append, List.flatten_cons, List.countP_append]
  omega

end Counting

theorem isDigit_of_dropped {c : Char} (dropped : isHyphenOrBlank c = true) : c.isDigit = false := by
  by_contra digit
  rw [Bool.not_eq_false] at digit
  have kept := ascii_forall (p := fun c => !c.isDigit || !isHyphenOrBlank c) (by decide)
    (toNat_lt_of_isDigit digit)
  simp [digit, dropped] at kept

theorem digits_of_spellsYear {year : Int} {w : Text} (spelled : spellsYear year w = true) :
    0 < w.countP Char.isDigit := by
  obtain ⟨-, bare⟩ := Bool.and_eq_true_iff.1 spelled
  have full : Text.ofNumber year.toNat ≠ [] := Nat.toDigits_ne_nil
  obtain ⟨c, more, number⟩ := List.exists_cons_of_ne_nil full
  have digit : c.isDigit = true := ofNumber_digits year.toNat c (by simp [number])
  have inside : c ∈ withoutBrackets w := by
    rw [beq_iff_eq.1 bare, number]
    simp
  exact List.countP_pos_iff.2 ⟨c, Text.mem_trimEnds inside, digit⟩

def undatedBehind (year : Int) (stop : Nat) (sectors : List Text) : List Text :=
  sectors.take (stop + 1) ++ (sectors.drop (stop + 1)).filter fun w => !spellsYear year w

variable {sectors : List Text} {year : Int} {e : Evidence} {start stop : Nat}

theorem drop_undatedBehind (inside : stop < sectors.length) :
    (undatedBehind year stop sectors).drop (stop + 1) =
      (sectors.drop (stop + 1)).filter fun w => !spellsYear year w :=
  List.drop_left' (List.length_take_of_le inside)

theorem undatedBehind_of_undated
    (undated : ∀ w ∈ sectors.drop (stop + 1), spellsYear year w = false) :
    undatedBehind year stop sectors = sectors := by
  have all : (sectors.drop (stop + 1)).filter (fun w => !spellsYear year w) =
      sectors.drop (stop + 1) :=
    List.filter_eq_self.2 fun w member => by simp [undated w member]
  rw [undatedBehind, all, List.take_append_drop]

def digitsOf (parts : EpisodeParts) : Nat :=
  parts.seriesName.countP Char.isDigit + parts.episodeTitle.countP Char.isDigit

theorem digitsOf_leading (here : e.block = some (0, stop)) :
    digitsOf (EpisodeParts.ofEvidence sectors year e) =
      (sectors.drop (stop + 1)).flatten.countP Char.isDigit := by
  have named (name : Text) : (if name = [] then unknownSeries else name).countP Char.isDigit =
      name.countP Char.isDigit := by
    split
    · rename_i empty
      rw [empty]
      rfl
    · rfl
  rw [← countP_joinSectors (fun _ => isDigit_of_dropped)]
  simp only [digitsOf, EpisodeParts.ofEvidence, here, nameAndTitle, named]
  cases found : splitAtHyphen? (joinSectors (sectors.drop (stop + 1))) with
  | none => simp
  | some parts => exact countP_splitAtHyphen (fun _ => isDigit_of_dropped) found

theorem undatedBehind_leading_ne (here : e.block = some (0, stop)) (inside : stop < sectors.length)
    {w : Text} (member : w ∈ sectors.drop (stop + 1)) (spelled : spellsYear year w = true) :
    EpisodeParts.ofEvidence (undatedBehind year stop sectors) year e ≠
      EpisodeParts.ofEvidence sectors year e := by
  intro same
  have fewer : ((sectors.drop (stop + 1)).filter fun w => !spellsYear year w).flatten.countP
      Char.isDigit < (sectors.drop (stop + 1)).flatten.countP Char.isDigit :=
    countP_filter_lt member (by simp [spelled]) (digits_of_spellsYear spelled)
  have digits := congrArg digitsOf same
  rw [digitsOf_leading here, digitsOf_leading here, drop_undatedBehind inside] at digits
  omega

theorem undatedBehind_inner (here : e.block = some (start + 1, stop)) (ordered : start + 1 ≤ stop)
    (inside : stop < sectors.length) :
    EpisodeParts.ofEvidence (undatedBehind year stop sectors) year e =
      EpisodeParts.ofEvidence sectors year e := by
  have front : (undatedBehind year stop sectors).take (start + 1) = sectors.take (start + 1) := by
    have shorter : start + 1 ≤ (sectors.take (stop + 1)).length := by
      rw [List.length_take_of_le inside]
      omega
    rw [undatedBehind, List.take_append_of_le_length shorter, List.take_take,
      Nat.min_eq_left (by omega)]
  have back : joinTitle year ((undatedBehind year stop sectors).drop (stop + 1)) =
      joinTitle year (sectors.drop (stop + 1)) := by
    rw [drop_undatedBehind inside, joinTitle, joinTitle, withoutYear_eq_filter,
      withoutYear_eq_filter, List.filter_filter]
    simp
  simp only [EpisodeParts.ofEvidence, here, nameAndTitle, front, back]

/-- The sectors behind the block that spell the year leave series name and title as they are, unless
    the block comes first and there is such a sector. The sectors before the block that spell it
    are in the series name only if nothing else would be. -/
theorem year_left_out_iff (here : e.block = some (start, stop)) (ordered : start ≤ stop)
    (inside : stop < sectors.length) :
    (EpisodeParts.ofEvidence (undatedBehind year stop sectors) year e =
        EpisodeParts.ofEvidence sectors year e ↔
      (start = 0 → ∀ w ∈ sectors.drop (stop + 1), spellsYear year w = false)) ∧
    (joinSectors ((sectors.take start).filter fun w => !spellsYear year w) ≠ [] →
      (EpisodeParts.ofEvidence sectors year e).seriesName =
        joinSectors ((sectors.take start).filter fun w => !spellsYear year w)) := by
  constructor
  · cases start with
    | zero =>
      constructor
      · intro same _ w member
        by_contra spelled
        exact undatedBehind_leading_ne here inside member (by simpa using spelled) same
      · intro undated
        rw [undatedBehind_of_undated (undated rfl)]
    | succ start => simp [undatedBehind_inner here ordered inside]
  · intro named
    cases start with
    | zero => exact absurd rfl named
    | succ start =>
      rw [← withoutYear_eq_filter] at named ⊢
      simp only [EpisodeParts.ofEvidence, here, nameAndTitle, joinName_of_ne_nil named,
        if_neg named]

def datedTwice : List Text := ["1923", "Show", "S01E01", "Pilot", "[1923]"].map String.toList

theorem year_left_out_both_sides :
    EpisodeParts.ofEvidence (undatedBehind 1923 2 datedTwice) 1923 ⟨some 1, [1], some (2, 2)⟩ =
      EpisodeParts.ofEvidence datedTwice 1923 ⟨some 1, [1], some (2, 2)⟩ ∧
    (EpisodeParts.ofEvidence datedTwice 1923 ⟨some 1, [1], some (2, 2)⟩).seriesName =
      "Show".toList := by
  obtain ⟨behind, before⟩ := @year_left_out_iff datedTwice 1923 ⟨some 1, [1], some (2, 2)⟩ 2 2 rfl
    (by decide) (by decide)
  exact ⟨behind.2 (by decide), by rw [before (by decide)]; decide⟩

theorem year_behind_leading_block :
    (extract ["S01E01".toList, "Pilot".toList, "(2005)".toList] 2005
        "S01E01.Pilot.(2005)".toList).parts =
      .ok ⟨some 1, [1], some (0, 0), unknownSeries, "Pilot (2005)".toList⟩ ∧
    undatedBehind 2005 0 ["S01E01".toList, "Pilot".toList, "(2005)".toList] =
      ["S01E01".toList, "Pilot".toList] ∧
    (extract ["S01E01".toList, "Pilot".toList] 2005 "S01E01.Pilot.(2005)".toList).parts =
      .ok ⟨some 1, [1], some (0, 0), unknownSeries, "Pilot".toList⟩ := by
  decide +kernel

end MediaNaming
