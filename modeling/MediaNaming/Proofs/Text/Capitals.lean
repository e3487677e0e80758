import MediaNaming.Sector.Lexicon
import Mathlib.Data.List.Basic

/-
What the property tables say about capitals. The first letter of a capital is no lowercase
letter any more, so capitalizing twice is capitalizing once; a capital letter is no digit, and
nothing that its lowercase holds is a digit or a bracket.
-/
namespace MediaNaming

theorem toNat_ofNat_or_zero (n : Nat) : (Char.ofNat n).toNat = n ∨ (Char.ofNat n).toNat = 0 := by
  by_cases valid : n.isValidChar
  · have same : Char.ofNat n = Char.ofNatAux n valid := dif_pos valid
    rw [same]
    exact Or.inl rfl
  · have invalid : Char.ofNat n = '\x00' := dif_neg valid
    rw [invalid]
    exact Or.inr rfl

theorem inRanges_mem {table : List (Nat × Nat)} {n : Nat} (inside : inRanges table n = true) :
    ∃ r ∈ table, r.1 ≤ n ∧ n ≤ r.2 := by
  induction table with
  | nil => simp [inRanges] at inside
  | cons r table ih =>
    simp only [inRanges, Bool.and_eq_true, Bool.or_eq_true, decide_eq_true_eq] at inside
    rcases inside.2 with here | later
    · exact ⟨r, by simp, inside.1, here⟩
    · obtain ⟨q, member, bounds⟩ := ih later
      exact ⟨q, by simp [member], bounds⟩

def past (a : Nat) : List (Nat × Nat) → List (Nat × Nat)
  | [] => []
  | (first, last) :: rest => bif Nat.blt last a then past a rest else (first, last) :: rest

theorem inRanges_past {table : List (Nat × Nat)} {a n : Nat} (low : a ≤ n)
    (inside : inRanges table n = true) : inRanges (past a table) n = true := by
  induction table with
  | nil => simp [inRanges] at inside
  | cons r table ih =>
    obtain ⟨first, last⟩ := r
    by_cases ended : Nat.blt last a = true
    · simp only [inRanges, Bool.and_eq_true, Bool.or_eq_true, decide_eq_true_eq] at inside
      simp only [past, ended, cond_true]
      rw [Nat.blt_eq] at ended
      exact ih (inside.2.resolve_left (by omega))
    · simpa only [past, ended, cond_false] using inside

/-- Whether no range of the table meets one of the others. The search for a range goes on where
    the one before it ended, and begins anew when it lies lower. -/
def apartFrom (table : List (Nat × Nat)) (low : Nat) (near : List (Nat × Nat)) :
    List (Nat × Nat) → Bool
  | [] => true
  | r :: ranges =>
    match past r.1 (bif Nat.ble low r.1 then near else table) with
    | [] => apartFrom table r.1 [] ranges
    | next :: later => Nat.blt r.2 next.1 && apartFrom table r.1 (next :: later) ranges

def apart (table ranges : List (Nat × Nat)) : Bool := apartFrom table 0 table ranges

theorem apartFrom_spec {table near ranges : List (Nat × Nat)} {low : Nat}
    (finds : ∀ n, low ≤ n → inRanges table n = true → inRanges near n = true)
    (free : apartFrom table low near ranges = true) :
    ∀ r ∈ ranges, ∀ n, r.1 ≤ n → n ≤ r.2 → inRanges table n = false := by
  induction ranges generalizing low near with
  | nil => simp
  | cons r ranges ih =>
    have ahead : ∀ n, r.1 ≤ n → inRanges table n = true →
        inRanges (past r.1 (bif Nat.ble low r.1 then near else table)) n = true := by
      intro n above inside
      apply inRanges_past above
      by_cases follows : Nat.ble low r.1 = true
      · have := Nat.le_of_ble_eq_true follows
        simpa only [follows, cond_true] using finds n (by omega) inside
      · simpa only [follows, cond_false] using inside
    simp only [apartFrom] at free
    generalize past r.1 (bif Nat.ble low r.1 then near else table) = rest at ahead free
    intro q member n above below
    rcases List.mem_cons.1 member with rfl | later
    · by_contra inside
      have met := ahead n above (by simpa using inside)
      cases rest with
      | nil => simp [inRanges] at met
      | cons next rest =>
        simp only [Bool.and_eq_true, Nat.blt_eq] at free
        simp only [inRanges, Bool.and_eq_true, decide_eq_true_eq] at met
        omega
    · cases rest with
      | nil => exact ih ahead free q later n above below
      | cons next rest =>
        rw [Bool.and_eq_true] at free
        exact ih ahead free.2 q later n above below

theorem apart_spec {table ranges : List (Nat × Nat)} (free : apart table ranges = true)
    {r : Nat × Nat} (member : r ∈ ranges) {n : Nat} (inside : r.1 ≤ n ∧ n ≤ r.2) :
    inRanges table n = false :=
  apartFrom_spec (fun _ _ same => same) free r member n inside.1 inside.2

theorem disjoint_of_apart {table other : List (Nat × Nat)} {n : Nat}
    (free : apart table other = true) (inside : inRanges other n = true) :
    inRanges table n = false := by
  obtain ⟨r, member, bounds⟩ := inRanges_mem inside
  exact apart_spec free member bounds

theorem shifted_mem {shifts : List Property.Shift} {n m : Nat} (found : shifted shifts n = some m) :
    ∃ s ∈ shifts, (s.first ≤ n ∧ n ≤ s.last) ∧
      ∃ k, k ≤ (s.last - s.first) / s.step ∧ m = s.target + k * s.step := by
  induction shifts with
  | nil => simp [shifted] at found
  | cons s shifts ih =>
    simp only [shifted] at found
    split at found
    · simp at found
    · cases here : s.mapped? n with
      | none =>
        obtain ⟨q, member, source, k, bound, same⟩ := ih (by simpa [here] using found)
        exact ⟨q, by simp [member], source, k, bound, same⟩
      | some m' =>
        simp only [here, Option.some_or, Option.some.injEq] at found
        simp only [Property.Shift.mapped?] at here
        split at here
        · rename_i inside
          refine ⟨s, by simp, ⟨inside.1, inside.2.1⟩, (n - s.first) / s.step,
            Nat.div_le_div_right (by omega), ?_⟩
          have whole := Nat.div_mul_cancel (Nat.dvd_of_mod_eq_zero inside.2.2)
          simp only [Option.some.injEq] at here
          omega
        · simp at here

def Property.Shift.targets (s : Property.Shift) : List (Nat × Nat) :=
  if s.step = 1 then [(s.target, s.target + (s.last - s.first))]
  else (List.range ((s.last - s.first) / s.step + 1)).map fun k =>
    (s.target + k * s.step, s.target + k * s.step)

theorem mem_targets {s : Property.Shift} {k : Nat} (bound : k ≤ (s.last - s.first) / s.step) :
    ∃ r ∈ s.targets, r.1 ≤ s.target + k * s.step ∧ s.target + k * s.step ≤ r.2 := by
  rw [Property.Shift.targets]
  split
  · rename_i one
    rw [one, Nat.div_one] at bound
    exact ⟨_, List.mem_singleton_self _, by simp [one]; omega⟩
  · refine ⟨(s.target + k * s.step, s.target + k * s.step), ?_, Nat.le_refl _, Nat.le_refl _⟩
    exact List.mem_map.2 ⟨k, List.mem_range.2 (by omega), rfl⟩

def upperTargets : List (Nat × Nat) := Property.upperShifts.flatMap Property.Shift.targets

theorem shifted_apart {shifts : List Property.Shift} {table : List (Nat × Nat)} {n m : Nat}
    (free : apart table (shifts.flatMap Property.Shift.targets) = true)
    (found : shifted shifts n = some m) : inRanges table m = false := by
  obtain ⟨s, listed, -, k, bound, rfl⟩ := shifted_mem found
  obtain ⟨r, member, inside⟩ := mem_targets bound
  exact apart_spec free (List.mem_flatMap.2 ⟨s, listed, member⟩) inside

def upperHeads : List (Nat × Nat) :=
  Property.upperExpansions.map fun e => (e.2.headD 0, e.2.headD 0)

theorem upperExpansions_nonempty : ∀ e ∈ Property.upperExpansions, e.2 ≠ [] := by
  decide

theorem upperTargets_apart_lowercase : apart Property.lowercase upperTargets = true := by
  decide +kernel

theorem upperHeads_apart_lowercase : apart Property.lowercase upperHeads = true := by
  decide +kernel

theorem upperTargets_apart_decimal : apart Property.decimal upperTargets = true := by
  decide +kernel

theorem upperHeads_apart_decimal : apart Property.decimal upperHeads = true := by
  decide +kernel

theorem lowercase_apart_decimal : apart Property.decimal Property.lowercase = true := by
  decide +kernel

theorem uppercase_apart_decimal : apart Property.decimal Property.uppercase = true := by
  decide +kernel

theorem uppercase_apart_lowercase : apart Property.lowercase Property.uppercase = true := by
  decide +kernel

theorem upper_avoids {table : List (Nat × Nat)} (zero : inRanges table 0 = false)
    (targets : apart table upperTargets = true) (heads : apart table upperHeads = true) (c : Char) :
    upper c = [c] ∨ ∃ d t, upper c = d :: t ∧ inRanges table d.toNat = false := by
  have outside {n : Nat} (avoids : inRanges table n = false) :
      inRanges table (Char.ofNat n).toNat = false := by
    rcases toNat_ofNat_or_zero n with same | invalid
    · rw [same, avoids]
    · rw [invalid, zero]
  simp only [upper, mapCase]
  split
  · rename_i m found
    exact Or.inr ⟨_, [], rfl, outside (shifted_apart targets found)⟩
  · split
    · rename_i codes found
      obtain ⟨l₁, l₂, listed, _⟩ := List.lookup_eq_some_iff.1 found
      have member : (c.toNat, codes) ∈ Property.upperExpansions := by simp [listed]
      obtain ⟨code, more, rfl⟩ := List.exists_cons_of_ne_nil (upperExpansions_nonempty _ member)
      have head : (code, code) ∈ upperHeads := List.mem_map.2 ⟨_, member, rfl⟩
      exact Or.inr ⟨Char.ofNat code, more.map Char.ofNat, rfl,
        outside (apart_spec heads head ⟨Nat.le_refl _, Nat.le_refl _⟩)⟩
    · exact Or.inl rfl

theorem upper_cases (c : Char) :
    upper c = [c] ∨ ∃ d t, upper c = d :: t ∧ isLowercase d = false :=
  upper_avoids rfl upperTargets_apart_lowercase upperHeads_apart_lowercase c

theorem upper_ne_nil (c : Char) : upper c ≠ [] := by
  rcases upper_cases c with same | ⟨d, t, cut, _⟩
  · simp [same]
  · simp [cut]

namespace Text

theorem capitalize_cons_of_not_lowercase {c : Char} (t : Text) (capital : isLowercase c = false) :
    capitalize (c :: t) = c :: t := by
  simp [capitalize, capital]

@[simp] theorem capitalize_eq_nil {t : Text} : t.capitalize = [] ↔ t = [] := by
  cases t with
  | nil => simp [capitalize]
  | cons c t =>
    simp only [capitalize]
    split
    · simp [upper_ne_nil]
    · simp

theorem capitalize_capitalize (t : Text) : t.capitalize.capitalize = t.capitalize := by
  cases t with
  | nil => rfl
  | cons c t =>
    by_cases small : isLowercase c = true
    · have first : capitalize (c :: t) = upper c ++ t := by simp [capitalize, small]
      rcases upper_cases c with same | ⟨d, s, cut, capital⟩
      · rw [first, same, List.singleton_append, first, same, List.singleton_append]
      · rw [first, cut, List.cons_append, capitalize_cons_of_not_lowercase _ capital]
    · have first : capitalize (c :: t) = c :: t := by simp [capitalize, small]
      rw [first, first]

theorem capitalize_append {s t : Text} (nonempty : s ≠ []) (capital : s.capitalize = s) :
    (s ++ t).capitalize = s ++ t := by
  cases s with
  | nil => contradiction
  | cons c s =>
    by_cases small : isLowercase c = true
    · have first : upper c ++ s = c :: s := by simpa [capitalize, small] using capital
      simp only [List.cons_append, capitalize, small, if_true]
      rw [← List.append_assoc, first, List.cons_append]
    · simp [capitalize, small]

end Text

theorem isDecimal_of_lowercase {c : Char} (small : isLowercase c = true) : isDecimal c = false :=
  disjoint_of_apart lowercase_apart_decimal small

theorem isLowercase_of_decimal {c : Char} (digit : isDecimal c = true) : isLowercase c = false := by
  by_contra small
  rw [isDecimal_of_lowercase (by simpa using small)] at digit
  contradiction

theorem isDecimal_upper {c : Char} (small : isLowercase c = true) :
    ∃ d t, upper c = d :: t ∧ isDecimal d = false := by
  rcases upper_avoids rfl upperTargets_apart_decimal upperHeads_apart_decimal c with
    same | other
  · exact ⟨c, [], same, isDecimal_of_lowercase small⟩
  · exact other

theorem isDecimal_of_uppercase {c : Char} (capital : isUppercase c = true) : isDecimal c = false :=
  disjoint_of_apart uppercase_apart_decimal capital

theorem isLowercase_of_uppercase {c : Char} (capital : isUppercase c = true) :
    isLowercase c = false :=
  disjoint_of_apart uppercase_apart_lowercase capital

def isLetterCode (n : Nat) : Bool :=
  (0x41 ≤ n && n ≤ 0x5a) || (0x61 ≤ n && n ≤ 0x7a) || 0x80 ≤ n

theorem uppercase_letter_codes :
    (Property.uppercase.all fun r => (r.1 == 0x41 && r.2 == 0x5a) || Nat.ble 0x80 r.1) = true := by
  decide +kernel

theorem lowerShifts_letter_codes :
    (Property.lowerShifts.all fun s =>
      (s.target == 0x61 && Nat.ble ((s.last - s.first) / s.step * s.step) 0x19)
        || (isLetterCode s.target && s.last == s.first) || Nat.ble 0x80 s.target) = true := by
  decide

theorem isLetterCode_of_uppercase {c : Char} (capital : isUppercase c = true) :
    isLetterCode c.toNat = true := by
  obtain ⟨r, member, low, high⟩ := inRanges_mem capital
  have codes := List.all_eq_true.1 uppercase_letter_codes r member
  simp only [Bool.or_eq_true, Bool.and_eq_true, beq_iff_eq, Nat.ble_eq] at codes
  simp only [isLetterCode, Bool.or_eq_true, Bool.and_eq_true, decide_eq_true_eq]
  omega

theorem isLetterCode_shift {s : Property.Shift} {k : Nat} (member : s ∈ Property.lowerShifts)
    (bound : k ≤ (s.last - s.first) / s.step) : isLetterCode (s.target + k * s.step) = true := by
  have codes := List.all_eq_true.1 lowerShifts_letter_codes s member
  have grows := Nat.mul_le_mul_right s.step bound
  simp only [isLetterCode, Bool.or_eq_true, Bool.and_eq_true, beq_iff_eq, Nat.ble_eq,
    decide_eq_true_eq] at codes ⊢
  rcases codes with (⟨first, few⟩ | ⟨here, one⟩) | high
  · omega
  · have : k = 0 := by simpa [one] using bound
    simpa [this] using here
  · omega

theorem isLetterCode_lower {c d : Char} (capital : isUppercase c = true) (member : d ∈ lower c) :
    isLetterCode d.toNat = true ∨ d.toNat = 0 := by
  simp only [lower, mapCase] at member
  split at member
  · rename_i m found
    obtain ⟨s, listed, -, k, bound, rfl⟩ := shifted_mem found
    obtain rfl : d = Char.ofNat (s.target + k * s.step) := by simpa using member
    rcases toNat_ofNat_or_zero (s.target + k * s.step) with same | zero
    · rw [same]
      exact Or.inl (isLetterCode_shift listed bound)
    · exact Or.inr zero
  · split at member
    · rename_i codes found
      obtain ⟨l₁, l₂, listed, _⟩ := List.lookup_eq_some_iff.1 found
      have only : (c.toNat, codes) ∈ Property.lowerExpansions := by simp [listed]
      simp only [Property.lowerExpansions, List.mem_singleton, Prod.mk.injEq] at only
      rw [only.2] at member
      simp only [List.map_cons, List.map_nil, List.mem_cons, List.not_mem_nil, or_false] at member
      rcases member with rfl | rfl <;> exact Or.inl rfl
    · obtain rfl : d = c := by simpa using member
      exact Or.inl (isLetterCode_of_uppercase capital)

theorem mem_lowercaseAfter {before t : Text} {d : Char}
    (member : d ∈ Text.lowercaseAfter before t) :
    d = 'ς' ∨ d = 'σ' ∨ ∃ c ∈ t, d ∈ lower c := by
  induction t generalizing before with
  | nil => simp [Text.lowercaseAfter] at member
  | cons c t ih =>
    simp only [Text.lowercaseAfter, List.mem_append] at member
    rcases member with first | later
    · split at first
      · simp only [List.mem_singleton] at first
        split at first
        · exact Or.inl first
        · exact Or.inr (Or.inl first)
      · exact Or.inr (Or.inr ⟨c, by simp, first⟩)
    · rcases ih later with final | other | ⟨e, among, image⟩
      · exact Or.inl final
      · exact Or.inr (Or.inl other)
      · exact Or.inr (Or.inr ⟨e, by simp [among], image⟩)

theorem lowercase_of_capitals {t : Text} (capitals : t.all isUppercase = true) :
    ∀ d ∈ t.lowercase, d.isDigit = false ∧ isBracket d = false := by
  intro d member
  have code : isLetterCode d.toNat = true ∨ d.toNat = 0 := by
    rcases mem_lowercaseAfter member with rfl | rfl | ⟨c, among, image⟩
    · exact Or.inl rfl
    · exact Or.inl rfl
    · exact isLetterCode_lower (List.all_eq_true.1 capitals c among) image
  constructor
  · by_contra digit
    simp only [Bool.not_eq_false, Char.isDigit, Bool.and_eq_true, decide_eq_true_eq] at digit
    have low : 48 ≤ d.toNat := digit.1
    have high : d.toNat ≤ 57 := digit.2
    simp only [isLetterCode, Bool.or_eq_true, Bool.and_eq_true, decide_eq_true_eq] at code
    omega
  · by_contra bracket
    simp only [Bool.not_eq_false, isBracket, List.contains_eq_mem, decide_eq_true_eq, List.mem_cons,
      List.not_mem_nil, or_false] at bracket
    rcases bracket with rfl | rfl | rfl | rfl | rfl | rfl <;> revert code <;> decide

end MediaNaming
