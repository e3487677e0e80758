import MediaNaming.Proofs.Template.Failure

/-
The group that a bracket opens, told by counting. A bracket counts where it is not escaped, and the
group ends at the first bracket that leaves as many closed as are opened.
-/
namespace MediaNaming

namespace Text

/-- Each character and whether it is escaped. A backslash that is not escaped escapes exactly the
    character after it. -/
def escapes (escaped : Bool) : Text → List (Char × Bool)
  | [] => []
  | c :: t => (c, escaped) :: escapes (c == '\\' && !escaped) t

def unescaped (c : Char) (t : Text) : Nat := (t.escapes false).count (c, false)

def EndsInEscape (t : Text) : Prop := (t.escapes false).getLast? = some ('\\', false)

instance (t : Text) : Decidable t.EndsInEscape :=
  inferInstanceAs (Decidable ((t.escapes false).getLast? = some ('\\', false)))

theorem escapes_escape (c : Char) (t : Text) :
    escapes false ('\\' :: c :: t) = ('\\', false) :: (c, true) :: escapes false t := by
  simp [escapes]

theorem escapes_other {c : Char} (t : Text) (other : c ≠ '\\') :
    escapes false (c :: t) = (c, false) :: escapes false t := by
  rw [escapes, beq_eq_false_iff_ne.2 other]
  rfl

theorem escape_induct {P : Text → Prop} (nil : P []) (lone : P ['\\'])
    (escaped : ∀ c t, P t → P ('\\' :: c :: t)) (other : ∀ c t, c ≠ '\\' → P t → P (c :: t)) :
    ∀ t, P t := by
  intro t
  induction size : t.length using Nat.strongRecOn generalizing t with
  | ind n ih =>
    cases t with
    | nil => exact nil
    | cons c t =>
      simp only [List.length_cons] at size
      by_cases escape : c = '\\'
      · subst escape
        cases t with
        | nil => exact lone
        | cons d t =>
          simp only [List.length_cons] at size
          exact escaped d t (ih t.length (by omega) t rfl)
      · exact other c t escape (ih t.length (by omega) t rfl)

theorem unescaped_escape {c : Char} (d : Char) (t : Text) (other : c ≠ '\\') :
    unescaped c ('\\' :: d :: t) = unescaped c t := by
  simp [unescaped, escapes_escape, Ne.symm other]

theorem unescaped_other (c : Char) {d : Char} (t : Text) (other : d ≠ '\\') :
    unescaped c (d :: t) = unescaped c t + if d = c then 1 else 0 := by
  simp [unescaped, escapes_other t other, List.count_cons]

theorem endsInEscape_escape (c : Char) (t : Text) :
    EndsInEscape ('\\' :: c :: t) ↔ EndsInEscape t := by
  unfold EndsInEscape
  rw [escapes_escape]
  cases t with
  | nil => simp [escapes]
  | cons d t => simp [escapes, List.getLast?_cons_cons]

theorem endsInEscape_other {c : Char} (t : Text) (other : c ≠ '\\') :
    EndsInEscape (c :: t) ↔ EndsInEscape t := by
  unfold EndsInEscape
  rw [escapes_other t other]
  cases t with
  | nil => simp [escapes, other]
  | cons d t => simp [escapes, List.getLast?_cons_cons]

theorem escapes_append {s : Text} (t : Text) (apart : ¬ EndsInEscape s) :
    escapes false (s ++ t) = escapes false s ++ escapes false t := by
  induction s using escape_induct with
  | nil => rfl
  | lone => exact absurd rfl apart
  | escaped c s ih =>
    rw [endsInEscape_escape] at apart
    simp only [List.cons_append, escapes_escape, ih apart]
  | other c s different ih =>
    rw [endsInEscape_other s different] at apart
    simp only [List.cons_append, escapes_other _ different, ih apart]

theorem unescaped_append (c : Char) {s : Text} (t : Text) (apart : ¬ EndsInEscape s) :
    unescaped c (s ++ t) = unescaped c s + unescaped c t := by
  unfold unescaped
  rw [escapes_append t apart, List.count_append]

theorem endsInEscape_append {s : Text} (t : Text) (apart : ¬ EndsInEscape s) :
    EndsInEscape (s ++ t) ↔ EndsInEscape t := by
  unfold EndsInEscape at apart ⊢
  rw [escapes_append t apart, List.getLast?_append]
  cases (escapes false t).getLast? with
  | none => simpa using apart
  | some mark => simp

end Text

/-- A bracket after this text closes the group whose content begins with the text: the bracket is
    not escaped, and in the text as many brackets are closed as are opened. -/
structure Closes (inside : Text) : Prop where
  counts : ¬ inside.EndsInEscape
  even : inside.unescaped '(' = inside.unescaped ')'

/-- As many brackets are closed as are opened, and nowhere more of them. -/
structure Level (t : Text) : Prop where
  even : t.unescaped '(' = t.unescaped ')'
  ordered : ∀ front : Text, front <+: t → front.unescaped ')' ≤ front.unescaped '('

theorem Balanced.not_endsInEscape {s : Text} (balanced : Balanced s) : ¬ s.EndsInEscape := by
  induction balanced with
  | nil => simp [Text.EndsInEscape, Text.escapes]
  | escaped c _ ih => rwa [Text.endsInEscape_escape]
  | plain other _ ih => rwa [Text.endsInEscape_other _ other.1]
  | nested _ _ innerIH moreIH =>
    rw [Text.endsInEscape_other _ (by decide), Text.endsInEscape_append _ innerIH,
      Text.endsInEscape_other _ (by decide)]
    exact moreIH

namespace Level

theorem nil : Level [] := by
  refine ⟨rfl, fun front lead => ?_⟩
  rw [List.prefix_nil.1 lead]
  exact Nat.le_refl _

theorem escaped {t : Text} (c : Char) (level : Level t) : Level ('\\' :: c :: t) := by
  have skipped (b : Char) (u : Text) (bracket : b ≠ '\\') := Text.unescaped_escape c u bracket
  refine ⟨?_, fun front lead => ?_⟩
  · rw [skipped _ _ (by decide), skipped _ _ (by decide), level.even]
  · rcases List.prefix_cons_iff.1 lead with rfl | ⟨inside, rfl, behind⟩
    · exact Nat.le_refl _
    · rcases List.prefix_cons_iff.1 behind with rfl | ⟨later, rfl, final⟩
      · exact Nat.le_refl _
      · rw [skipped _ _ (by decide), skipped _ _ (by decide)]
        exact level.ordered later final

theorem plain {c : Char} {t : Text} (other : c ≠ '\\' ∧ c ≠ '(' ∧ c ≠ ')') (level : Level t) :
    Level (c :: t) := by
  have passed (b : Char) (u : Text) (bracket : c ≠ b) : Text.unescaped b (c :: u) = u.unescaped b := by
    rw [Text.unescaped_other b u other.1, if_neg bracket, Nat.add_zero]
  refine ⟨?_, fun front lead => ?_⟩
  · rw [passed _ _ other.2.1, passed _ _ other.2.2, level.even]
  · rcases List.prefix_cons_iff.1 lead with rfl | ⟨later, rfl, behind⟩
    · exact Nat.le_refl _
    · rw [passed _ _ other.2.1, passed _ _ other.2.2]
      exact level.ordered later behind

theorem nested {s t : Text} (apart : ¬ s.EndsInEscape) (inner : Level s) (more : Level t) :
    Level ('(' :: (s ++ ')' :: t)) := by
  have opens (u : Text) : Text.unescaped '(' ('(' :: u) = u.unescaped '(' + 1 :=
    Text.unescaped_other _ u (by decide)
  have kept (u : Text) : Text.unescaped ')' ('(' :: u) = u.unescaped ')' :=
    Text.unescaped_other _ u (by decide)
  have left (u : Text) : Text.unescaped '(' (')' :: u) = u.unescaped '(' :=
    Text.unescaped_other _ u (by decide)
  have closes (u : Text) : Text.unescaped ')' (')' :: u) = u.unescaped ')' + 1 :=
    Text.unescaped_other _ u (by decide)
  have inside := inner.even
  refine ⟨?_, fun front lead => ?_⟩
  · have behind := more.even
    rw [opens, kept, Text.unescaped_append _ _ apart, Text.unescaped_append _ _ apart, left, closes]
    omega
  · rcases List.prefix_cons_iff.1 lead with rfl | ⟨front, rfl, tail, whole⟩
    · exact Nat.le_refl _
    · rw [opens, kept]
      -- the front ends in the inner text, at the bracket that closes it, or behind that bracket
      rcases List.append_eq_append_iff.1 whole with ⟨gap, rfl, _⟩ | ⟨gap, rfl, rest⟩
      · have early := inner.ordered front (List.prefix_append _ _)
        omega
      · rcases List.cons_eq_append_iff.1 rest with ⟨rfl, _⟩ | ⟨back, rfl, late⟩
        · simp
          omega
        · have behind := more.ordered back ⟨tail, late.symm⟩
          rw [Text.unescaped_append _ _ apart, Text.unescaped_append _ _ apart, left, closes]
          omega

end Level

theorem Balanced.level {s : Text} (balanced : Balanced s) : Level s := by
  induction balanced with
  | nil => exact .nil
  | escaped c _ ih => exact ih.escaped c
  | plain other _ ih => exact ih.plain other
  | nested inner _ innerIH moreIH => exact .nested inner.not_endsInEscape innerIH moreIH

theorem found_behind {o : Option Nat} {size : Nat} (width : Nat)
    (found : ∃ n, o = some n ∧ n ≤ size) : ∃ n, o.map (width + ·) = some n ∧ n ≤ width + size := by
  obtain ⟨n, rfl, early⟩ := found
  exact ⟨width + n, rfl, Nat.add_le_add_left early width⟩

theorem closing?_found {s : Text} (depth : Nat) (after : Text) (counts : ¬ s.EndsInEscape)
    (deep : s.unescaped '(' + depth = s.unescaped ')') :
    ∃ n, closing? (depth + 1) (s ++ ')' :: after) = some n ∧ n ≤ s.byteSize := by
  induction s using Text.escape_induct generalizing depth with
  | nil =>
    have none : depth = 0 := by simpa [Text.unescaped, Text.escapes] using deep
    exact ⟨0, by rw [none]; rfl, Nat.le_refl 0⟩
  | lone => exact absurd rfl counts
  | escaped c s ih =>
    rw [Text.endsInEscape_escape] at counts
    rw [Text.unescaped_escape c s (by decide), Text.unescaped_escape c s (by decide)] at deep
    rw [List.cons_append, List.cons_append, closing?_escape, Text.byteSize_cons, Text.byteSize_cons,
      ← Nat.add_assoc]
    exact found_behind _ (ih depth counts deep)
  | other c s different ih =>
    rw [Text.endsInEscape_other s different] at counts
    rw [Text.unescaped_other _ s different, Text.unescaped_other _ s different] at deep
    rw [List.cons_append, Text.byteSize_cons]
    by_cases opens : c = '('
    · subst opens
      simp only [if_true, if_neg (show ¬ '(' = ')' by decide)] at deep
      rw [closing?_open]
      exact found_behind 1 (ih (depth + 1) counts (by omega))
    · by_cases closes : c = ')'
      · subst closes
        simp only [if_true, if_neg opens] at deep
        -- at the outermost depth this bracket ends the scan, in front of the one that was promised
        cases depth with
        | zero => exact ⟨0, rfl, Nat.zero_le _⟩
        | succ depth =>
          rw [closing?_close]
          exact found_behind 1 (ih depth counts (by omega))
      · rw [if_neg opens, if_neg closes] at deep
        rw [closing?_plain _ _ ⟨different, opens, closes⟩]
        exact found_behind _ (ih depth counts deep)

theorem Balanced.closes {s : Text} (balanced : Balanced s) : Closes s :=
  ⟨balanced.not_endsInEscape, balanced.level.even⟩

theorem scanGroup_closes {template rest : Text} {start : Nat}
    (opens : template.dropBytes? start = some ('(' :: rest)) :
    (∃ s after, rest = s ++ ')' :: after ∧ Closes s ∧ Level s ∧
        scanGroup template start = .ok ⟨s, start + s.byteSize + 2⟩ ∧
        ∀ t more, rest = t ++ ')' :: more → Closes t → s.byteSize ≤ t.byteSize) ∨
      scanGroup template start = .error (.unterminatedGroup template start) ∧
        ∀ t more, rest = t ++ ')' :: more → ¬ Closes t := by
  rcases scanGroup_cases opens with ⟨s, after, rfl, balanced, scanned⟩ | ⟨failed, _⟩
  · refine Or.inl ⟨s, after, rfl, balanced.closes, balanced.level, scanned, ?_⟩
    intro t more same closes
    obtain ⟨n, found, early⟩ := closing?_found 0 more closes.counts closes.even
    rw [← same, closing?_balanced balanced, closing?_last] at found
    cases found
    exact early
  · -- a closing bracket would end the scan, and where a scan ends there is a group
    refine Or.inr ⟨failed, ?_⟩
    rintro t more rfl closes
    obtain ⟨n, found, _⟩ := closing?_found 0 more closes.counts closes.even
    obtain ⟨s, after, same, balanced⟩ := balanced_of_closing? found
    rw [same] at opens
    rw [scanGroup_balanced opens balanced] at failed
    contradiction

theorem slice?_enclosed {template s after : Text} {start : Nat} {c : Char} (single : c.utf8Size = 1)
    (opens : template.dropBytes? start = some (c :: s ++ ')' :: after)) :
    template.slice? start (start + s.byteSize + 2) = some (c :: s ++ [')']) := by
  have here : template.dropBytes? start = some ((c :: s ++ [')']) ++ after) := by simpa using opens
  have size : Text.byteSize (c :: s ++ [')']) = s.byteSize + 2 := by
    simp [single, show ')'.utf8Size = 1 from rfl]
    omega
  have cut := Text.slice?_of_dropBytes? here
  rwa [size, ← Nat.add_assoc] at cut

theorem slice?_brackets {template s after : Text} {start : Nat}
    (opens : template.dropBytes? start = some ('(' :: (s ++ ')' :: after))) :
    template.slice? start (start + s.byteSize + 2) = some ('(' :: s ++ [')']) :=
  slice?_enclosed rfl opens

theorem extract_closing (cache : GroupCache) {template rest : Text} {start : Nat}
    (opens : template.dropBytes? start = some ('(' :: rest)) :
    ((∃ g, (cache.extract template start).1 = .ok g) ↔
        ∃ s after, rest = s ++ ')' :: after ∧ Closes s) ∧
      (∀ g, (cache.extract template start).1 = .ok g →
        template.slice? start g.stop = some ('(' :: g.content ++ [')']) ∧
        (∃ after, rest = g.content ++ ')' :: after ∧ Closes g.content) ∧ Level g.content ∧
        ∀ s after, rest = s ++ ')' :: after → Closes s → g.stop ≤ start + s.byteSize + 2) ∧
      ∀ e, (cache.extract template start).1 = .error e → e = .unterminatedGroup template start := by
  have answer := cache.extract_answer template start
  rcases scanGroup_closes opens with
    ⟨s, after, rfl, closes, level, scanned, first⟩ | ⟨unclosed, open_left⟩
  · obtain ⟨g, ran, group⟩ := map_eq_ok.1 (answer.trans scanned)
    rw [ran]
    refine ⟨⟨fun _ => ⟨s, after, rfl, closes⟩, fun _ => ⟨g, rfl⟩⟩, fun h same => ?_,
      fun e other => nomatch other⟩
    obtain rfl : g = h := Except.ok.inj same
    rw [group]
    refine ⟨slice?_brackets opens, ⟨after, rfl, closes⟩, level, fun t more other closed => ?_⟩
    have early := first t more other closed
    simp only
    omega
  · have failed := map_eq_error.1 (answer.trans unclosed)
    rw [failed]
    refine ⟨⟨fun found => ?_, ?_⟩, fun g found => ?_, fun e same => ?_⟩
    · obtain ⟨g, found⟩ := found
      contradiction
    · rintro ⟨s, after, same, closes⟩
      exact absurd closes (open_left s after same)
    · contradiction
    · exact (Except.error.inj same).symm

theorem extract_closing_escaped :
    Text.dropBytes? "é?(a\\)(b\\\\)c)d)".toList 3 = some ('(' :: "a\\)(b\\\\)c)d)".toList) ∧
      ∃ g, (({} : GroupCache).extract "é?(a\\)(b\\\\)c)d)".toList 3).1 = .ok g ∧ g.stop ≤ 14 := by
  have opens : Text.dropBytes? "é?(a\\)(b\\\\)c)d)".toList 3 =
      some ('(' :: "a\\)(b\\\\)c)d)".toList) := by decide
  have closes : Closes "a\\)(b\\\\)c".toList := ⟨by decide, by decide⟩
  obtain ⟨found, group, _⟩ := extract_closing {} opens
  obtain ⟨g, ran⟩ := found.2 ⟨"a\\)(b\\\\)c".toList, "d)".toList, by decide, closes⟩
  exact ⟨opens, g, ran, (group g ran).2.2.2 _ "d)".toList (by decide) closes⟩

end MediaNaming
