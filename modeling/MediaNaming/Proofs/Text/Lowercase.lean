import MediaNaming.Proofs.Text.Ascii

/-
Which texts have an ASCII text as their lowercase. Outside ASCII only the Kelvin sign has an ASCII
letter there, and the dotted capital i one with a mark behind it. So a text whose lowercase begins
with a word that these two cannot spell begins with that word, and a text whose lowercase holds no
letter is its own lowercase.
-/
namespace MediaNaming

theorem lowerShifts_ascii :
    (Property.lowerShifts.all fun s => Nat.ble s.last 0x7f || Nat.ble 0x80 s.target
      || (s.first == s.last && s.target == 'k'.toNat)) = true := by
  decide

def Outside (c : Char) : Prop := c.toNat = 0 ∨ 128 ≤ c.toNat

instance : DecidablePred Outside := fun c =>
  inferInstanceAs (Decidable (c.toNat = 0 ∨ 128 ≤ c.toNat))

def Caseless (c : Char) : Prop := ¬ Outside c ∧ c.isAlpha = false

instance : DecidablePred Caseless := fun c =>
  inferInstanceAs (Decidable (¬ Outside c ∧ c.isAlpha = false))

theorem Caseless.low {c : Char} (caseless : Caseless c) : c.toNat < 128 := by
  have inside := caseless.1
  unfold Outside at inside
  omega

theorem Caseless.toLower {c : Char} (caseless : Caseless c) : c.toLower = c := by
  have kept := ascii_forall (p := fun c => c.isAlpha || c.toLower == c) (by decide) caseless.low
  simpa [caseless.2] using kept

theorem caseless_of_isDigit {c : Char} (digit : c.isDigit = true) : Caseless c := by
  have kept := ascii_forall (p := fun c => !c.isDigit || decide (Caseless c)) (by decide)
    (toNat_lt_of_isDigit digit)
  simpa [digit] using kept

inductive Foreign : Text → Prop
  | single {d : Char} (outside : Outside d) : Foreign [d]
  | kelvin : Foreign ['k']
  | dotted : Foreign ['i', '\u0307']

theorem foreign_lower {c : Char} (high : 128 ≤ c.toNat) : Foreign (lower c) := by
  simp only [lower, mapCase]
  split
  · rename_i m found
    obtain ⟨s, listed, source, k, bound, rfl⟩ := shifted_mem found
    have codes := List.all_eq_true.1 lowerShifts_ascii s listed
    simp only [Bool.or_eq_true, Bool.and_eq_true, beq_iff_eq, Nat.ble_eq] at codes
    rcases codes with (low | far) | ⟨one, kelvin⟩
    · omega
    · rcases toNat_ofNat_or_zero (s.target + k * s.step) with same | zero
      · exact .single (Or.inr (by omega))
      · exact .single (Or.inl zero)
    · have first : k = 0 := by simpa [one] using bound
      rw [first, kelvin, Nat.zero_mul, Nat.add_zero, Char.ofNat_toNat]
      exact .kelvin
  · split
    · rename_i codes found
      obtain ⟨l₁, l₂, listed, _⟩ := List.lookup_eq_some_iff.1 found
      have only : (c.toNat, codes) ∈ Property.lowerExpansions := by simp [listed]
      simp only [Property.lowerExpansions, List.mem_singleton, Prod.mk.injEq] at only
      rw [only.2]
      exact .dotted
    · exact .single (Or.inr high)

namespace Text

variable {before t : Text}

theorem lowercaseAfter_cons (before : Text) (c : Char) (t : Text) : ∃ image,
    lowercaseAfter before (c :: t) = image ++ lowercaseAfter (c :: before) t ∧
      (c.toNat < 128 ∧ image = [c.toLower] ∨ Foreign image) := by
  refine ⟨_, rfl, ?_⟩
  split
  · right
    split <;> exact .single (Or.inr (by decide))
  · by_cases low : c.toNat < 128
    · exact Or.inl ⟨low, lower_of_ascii low⟩
    · exact Or.inr (foreign_lower (by omega))

/-- Letters that nothing outside ASCII has in its lowercase, but for an i with something behind. -/
structure Latin (lead : Text) : Prop where
  inside : ∀ l ∈ lead, ¬ Outside l ∧ l ≠ 'k'
  ends : ∀ l ∈ lead.getLast?, l ≠ 'i'

theorem Latin.tail {l : Char} {lead : Text} (latin : Latin (l :: lead)) : Latin lead where
  inside := fun d member => latin.inside d (by simp [member])
  ends := fun d last => latin.ends d (by
    cases lead with
    | nil => simp at last
    | cons e lead => simpa using last)

theorem lowercaseAfter_lead {lead rest : Text} (latin : Latin lead)
    (same : lowercaseAfter before t = lead ++ rest) : ∃ word after,
      t = word ++ after ∧ Text.isWord lead word = true ∧
        ∃ earlier, rest = lowercaseAfter earlier after := by
  induction lead generalizing before t with
  | nil => exact ⟨[], t, rfl, rfl, before, same.symm⟩
  | cons l lead ih =>
    obtain ⟨outside, other⟩ := latin.inside l (by simp)
    cases t with
    | nil => simp [lowercaseAfter] at same
    | cons c t =>
      obtain ⟨image, text, ⟨low, rfl⟩ | foreign⟩ := lowercaseAfter_cons before c t
      · simp only [text, List.cons_append, List.nil_append, List.cons.injEq] at same
        obtain ⟨rfl, later⟩ := same
        obtain ⟨word, after, rfl, spelled, more⟩ := ih latin.tail later
        have letters : (c :: word).map Char.toLower = c.toLower :: lead := by
          rw [List.map_cons, beq_iff_eq.1 spelled]
        exact ⟨c :: word, after, rfl, beq_iff_eq.2 letters, more⟩
      · rw [text] at same
        cases foreign with
        | single far =>
          simp only [List.cons_append, List.nil_append, List.cons.injEq] at same
          exact absurd (same.1 ▸ far) outside
        | kelvin =>
          simp only [List.cons_append, List.nil_append, List.cons.injEq] at same
          exact absurd same.1.symm other
        | dotted =>
          simp only [List.cons_append, List.nil_append, List.cons.injEq] at same
          obtain ⟨rfl, later⟩ := same
          cases lead with
          | nil => exact absurd rfl (latin.ends 'i' rfl)
          | cons m lead =>
            obtain rfl : '\u0307' = m := (List.cons.inj later).1
            exact absurd (Or.inr (by decide)) (latin.inside '\u0307' (by simp)).1

theorem lowercaseAfter_eq_self
    (caseless : ∀ d ∈ lowercaseAfter before t, Caseless d) : lowercaseAfter before t = t := by
  induction t generalizing before with
  | nil => rfl
  | cons c t ih =>
    obtain ⟨image, text, ⟨low, rfl⟩ | foreign⟩ := lowercaseAfter_cons before c t
    · rw [text] at caseless ⊢
      have letterless : c.toLower.isAlpha = false := (caseless c.toLower (by simp)).2
      have kept := ascii_forall (p := fun c => c.toLower.isAlpha || c.toLower == c) (by decide) low
      simp only [letterless, Bool.false_or, beq_iff_eq] at kept
      rw [kept, ih fun d member => caseless d (by simp [member])]
      rfl
    · rw [text] at caseless
      cases foreign with
      | single far => exact absurd far (caseless _ (by simp)).1
      | kelvin => exact absurd (caseless 'k' (by simp)) (by decide)
      | dotted => exact absurd (caseless 'i' (by simp)) (by decide)

end Text
end MediaNaming
