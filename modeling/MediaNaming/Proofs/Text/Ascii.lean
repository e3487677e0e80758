import MediaNaming.Proofs.Text.Capitals

/-
On the first 128 characters the property tables say what the plain tests for letters and digits
say, so short closed checks settle the rest.
-/
namespace MediaNaming

-- What holds of all characters of a text is decided one by one, not over every character there is.
instance (priority := high) Text.decidableForall (t : Text) (p : Char → Prop) [DecidablePred p] :
    Decidable (∀ c ∈ t, p c) := List.decidableBAll p t

instance (priority := high) Text.decidableForallOption (o : Option Char) (p : Char → Prop)
    [DecidablePred p] : Decidable (∀ c ∈ o, p c) := Option.decidableForallMem o

theorem ascii_forall {p : Char → Bool} (all : (List.range 128).all fun n => p (Char.ofNat n))
    {c : Char} (low : c.toNat < 128) : p c = true := by
  have here := List.all_eq_true.1 all c.toNat (List.mem_range.2 low)
  rwa [Char.ofNat_toNat] at here

theorem toNat_lt_of_isDigit {c : Char} (digit : c.isDigit = true) : c.toNat < 128 := by
  simp only [Char.isDigit, Bool.and_eq_true, decide_eq_true_eq] at digit
  have high : c.toNat ≤ 57 := digit.2
  omega

theorem toNat_lt_of_isAlpha {c : Char} (letter : c.isAlpha = true) : c.toNat < 128 := by
  have cased : c.isUpper = true ∨ c.isLower = true := Bool.or_eq_true_iff.1 letter
  have high : c.toNat ≤ 90 ∨ c.toNat ≤ 122 :=
    cased.imp (fun upper => (of_decide_eq_true upper).2)
      fun lower => of_decide_eq_true (Bool.and_eq_true_iff.1 lower).2
  omega

theorem isAlpha_of_toLower {c : Char} (low : c.toLower.isLower = true) : c.isAlpha = true := by
  have cased : c.isUpper = true ∨ c.isLower = true := by
    unfold Char.toLower at low
    split at low
    · rename_i capital
      exact Or.inl (decide_eq_true capital)
    · exact Or.inr low
  exact Bool.or_eq_true_iff.2 cased

theorem isDecimal_of_ascii {c : Char} (low : c.toNat < 128) : isDecimal c = c.isDigit := by
  have := ascii_forall (p := fun c => isDecimal c == c.isDigit) (by decide) low
  simpa using this

theorem isAlphanumeric_of_ascii {c : Char} (low : c.toNat < 128) :
    isAlphanumeric c = c.isAlphanum := by
  have := ascii_forall (p := fun c => isAlphanumeric c == c.isAlphanum) (by decide) low
  simpa using this

theorem isLowercase_of_ascii {c : Char} (low : c.toNat < 128) : isLowercase c = c.isLower := by
  have := ascii_forall (p := fun c => isLowercase c == c.isLower) (by decide) low
  simpa using this

theorem lower_of_ascii {c : Char} (low : c.toNat < 128) : lower c = [c.toLower] := by
  have := ascii_forall (p := fun c => lower c == [c.toLower]) (by decide) low
  simpa using this

theorem upper_of_ascii {c : Char} (low : c.toNat < 128) : upper c = [c.toUpper] := by
  have := ascii_forall (p := fun c => upper c == [c.toUpper]) (by decide) low
  simpa using this

def PrintableAscii (c : Char) : Prop := 0x20 ≤ c.toNat ∧ c.toNat ≤ 0x7e

instance : DecidablePred PrintableAscii := fun c =>
  inferInstanceAs (Decidable (0x20 ≤ c.toNat ∧ c.toNat ≤ 0x7e))

theorem PrintableAscii.low {c : Char} (printable : PrintableAscii c) : c.toNat < 128 := by
  have := printable.2
  omega

theorem printableAscii_upper {c d : Char} (printable : PrintableAscii c) (member : d ∈ upper c) :
    PrintableAscii d := by
  rw [upper_of_ascii printable.low, List.mem_singleton] at member
  subst member
  have kept := ascii_forall
    (p := fun c => !decide (PrintableAscii c) || decide (PrintableAscii c.toUpper))
    (by decide) printable.low
  simpa [printable] using kept

theorem lowercaseAfter_of_ascii {before t : Text} (low : ∀ c ∈ t, c.toNat < 128) :
    Text.lowercaseAfter before t = t.map Char.toLower := by
  induction t generalizing before with
  | nil => rfl
  | cons c t ih =>
    have small : c ≠ 'Σ' := by
      rintro rfl
      have := low 'Σ' (by simp)
      revert this
      decide
    simp [Text.lowercaseAfter, small, lower_of_ascii (low c (by simp)),
      ih fun d member => low d (by simp [member])]

theorem lowercase_of_ascii {t : Text} (low : ∀ c ∈ t, c.toNat < 128) :
    t.lowercase = t.map Char.toLower := lowercaseAfter_of_ascii low

end MediaNaming
