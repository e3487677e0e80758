import MediaNaming.Template.Group
import MediaNaming.Proofs.Text.Splitting

/-
Brackets of a template. The scan for a group finds exactly the balanced texts: what stands between
the two brackets of a group is balanced, and a balanced text with brackets around it is a group.
-/
namespace MediaNaming

/-- Each bracket that is opened is closed and each that is closed was opened. A backslash takes the
    character after it out of the count. -/
inductive Balanced : Text → Prop
  | nil : Balanced []
  | escaped (c : Char) {t : Text} (more : Balanced t) : Balanced ('\\' :: c :: t)
  | plain {c : Char} {t : Text} (other : c ≠ '\\' ∧ c ≠ '(' ∧ c ≠ ')') (more : Balanced t) :
      Balanced (c :: t)
  | nested {s t : Text} (inner : Balanced s) (more : Balanced t) :
      Balanced ('(' :: (s ++ ')' :: t))

/-- Each bracket that is opened is closed; others may be closed, too. -/
inductive Closed : Text → Prop
  | nil : Closed []
  | escaped (c : Char) {t : Text} (more : Closed t) : Closed ('\\' :: c :: t)
  | plain {c : Char} {t : Text} (other : c ≠ '\\' ∧ c ≠ '(') (more : Closed t) : Closed (c :: t)
  | nested {s t : Text} (inner : Balanced s) (more : Closed t) : Closed ('(' :: (s ++ ')' :: t))

theorem closing?_escape (depth : Nat) (c : Char) (t : Text) :
    closing? depth ('\\' :: c :: t) = (closing? depth t).map (1 + c.utf8Size + ·) := rfl

theorem closing?_open (depth : Nat) (t : Text) :
    closing? depth ('(' :: t) = (closing? (depth + 1) t).map (1 + ·) := rfl

theorem closing?_close (depth : Nat) (t : Text) :
    closing? (depth + 2) (')' :: t) = (closing? (depth + 1) t).map (1 + ·) := rfl

theorem closing?_last (t : Text) : closing? 1 (')' :: t) = some 0 := rfl

theorem closing?_plain {c : Char} (depth : Nat) (t : Text) (other : c ≠ '\\' ∧ c ≠ '(' ∧ c ≠ ')') :
    closing? depth (c :: t) = (closing? depth t).map (c.utf8Size + ·) := by
  rw [closing?.eq_def]
  split <;> simp_all

theorem map_add_add (m n : Nat) (o : Option Nat) :
    (o.map (n + ·)).map (m + ·) = o.map (m + n + ·) := by
  simp [Function.comp_def, Nat.add_assoc]

theorem closing?_balanced {s : Text} (balanced : Balanced s) (depth : Nat) (t : Text) :
    closing? (depth + 1) (s ++ t) = (closing? (depth + 1) t).map (s.byteSize + ·) := by
  have single : '\\'.utf8Size = 1 ∧ '('.utf8Size = 1 ∧ ')'.utf8Size = 1 := ⟨rfl, rfl, rfl⟩
  induction balanced generalizing depth t with
  | nil => simp
  | escaped c more ih =>
    simp only [List.cons_append, closing?_escape, ih, map_add_add, Text.byteSize_cons, single]
    simp only [Nat.add_assoc]
  | plain other more ih =>
    simp only [List.cons_append, closing?_plain _ _ other, ih, map_add_add, Text.byteSize_cons]
  | nested inner more innerIH moreIH =>
    simp only [List.cons_append, List.append_assoc, closing?_open, innerIH, closing?_close, moreIH,
      map_add_add, Text.byteSize_cons, Text.byteSize_append, single]

theorem balanced_of_closing? {depth n : Nat} {t : Text} (found : closing? (depth + 1) t = some n) :
    ∃ s rest, t = s ++ ')' :: rest ∧ Balanced s := by
  induction size : t.length using Nat.strongRecOn generalizing depth n t with
  | ind k ih =>
    have shorter {depth n : Nat} {u : Text} (less : u.length < t.length)
        (inner : closing? (depth + 1) u = some n) : ∃ s rest, u = s ++ ')' :: rest ∧ Balanced s :=
      ih u.length (size ▸ less) inner rfl
    cases t with
    | nil => simp [closing?] at found
    | cons c t =>
      by_cases escape : c = '\\'
      · cases t with
        | nil => simp [escape, closing?] at found
        | cons d t =>
          rw [escape, closing?_escape] at found
          obtain ⟨m, inner, _⟩ := Option.map_eq_some_iff.1 found
          obtain ⟨s, rest, rfl, balanced⟩ := shorter (by simp only [List.length_cons]; omega) inner
          exact ⟨'\\' :: d :: s, rest, by simp [escape], .escaped d balanced⟩
      · by_cases opens : c = '('
        · rw [opens, closing?_open] at found
          obtain ⟨m, inner, _⟩ := Option.map_eq_some_iff.1 found
          obtain ⟨s, rest, rfl, balanced⟩ := shorter (by simp) inner
          rw [closing?_balanced balanced, closing?_close, map_add_add] at inner
          obtain ⟨m, after, _⟩ := Option.map_eq_some_iff.1 inner
          obtain ⟨u, last, rfl, more⟩ := shorter (by simp; omega) after
          exact ⟨'(' :: (s ++ ')' :: u), last, by simp [opens], .nested balanced more⟩
        · by_cases closes : c = ')'
          · exact ⟨[], t, by simp [closes], .nil⟩
          · rw [closing?_plain _ _ ⟨escape, opens, closes⟩] at found
            obtain ⟨m, inner, _⟩ := Option.map_eq_some_iff.1 found
            obtain ⟨s, rest, rfl, balanced⟩ := shorter (by simp) inner
            exact ⟨c :: s, rest, rfl, .plain ⟨escape, opens, closes⟩ balanced⟩

theorem Balanced.closed_append {s t : Text} (balanced : Balanced s) (more : Closed t) :
    Closed (s ++ t) := by
  induction balanced with
  | nil => exact more
  | escaped c _ ih => exact .escaped c ih
  | plain other _ ih => exact .plain ⟨other.1, other.2.1⟩ ih
  | nested inner _ innerIH moreIH =>
    rw [List.cons_append, List.append_assoc, List.cons_append]
    exact .nested inner moreIH

theorem Balanced.closed {s : Text} (balanced : Balanced s) : Closed s := by
  simpa using balanced.closed_append .nil

namespace Closed

theorem of_escape {c : Char} {t : Text} (closed : Closed ('\\' :: c :: t)) : Closed t := by
  cases closed with
  | escaped c more => exact more
  | plain other more => exact absurd rfl other.1

theorem of_cons {c : Char} {t : Text} (closed : Closed (c :: t)) (other : c ≠ '\\') : Closed t := by
  cases closed with
  | escaped d more => exact absurd rfl other
  | plain _ more => exact more
  | nested inner more => exact inner.closed_append (.plain ⟨by decide, by decide⟩ more)

theorem of_open {t : Text} (closed : Closed ('(' :: t)) :
    ∃ s rest, t = s ++ ')' :: rest ∧ Balanced s := by
  cases closed with
  | plain other more => exact absurd rfl other.2
  | nested inner more => exact ⟨_, _, rfl, inner⟩

theorem of_append {s t : Text} (closed : Closed (s ++ t)) (balanced : Balanced s) : Closed t := by
  induction balanced generalizing t with
  | nil => exact closed
  | escaped c _ ih => exact ih closed.of_escape
  | plain other _ ih => exact ih (closed.of_cons other.1)
  | nested _ _ innerIH moreIH =>
    rw [List.cons_append, List.append_assoc] at closed
    exact moreIH ((innerIH (closed.of_cons (by decide))).of_cons (by decide))

end Closed

theorem scanGroup_balanced {template s rest : Text} {start : Nat}
    (here : template.dropBytes? start = some ('(' :: (s ++ ')' :: rest))) (balanced : Balanced s) :
    scanGroup template start = .ok ⟨s, start + s.byteSize + 2⟩ := by
  have closes : closing? 0 ('(' :: (s ++ ')' :: rest)) = some (1 + s.byteSize) := by
    rw [closing?_open, closing?_balanced balanced, closing?_last]
    rfl
  have inside : template.dropBytes? (start + 1) = some (s ++ ')' :: rest) :=
    Text.dropBytes?_later ['('] here
  have cut := Text.slice?_of_dropBytes? inside
  rw [Nat.add_assoc] at cut
  simp only [scanGroup, here, Option.bind_some, closes, cut]
  rw [Nat.add_comm 1]
  rfl

theorem scanGroup_cases {template rest : Text} {start : Nat}
    (here : template.dropBytes? start = some ('(' :: rest)) :
    (∃ s after, rest = s ++ ')' :: after ∧ Balanced s ∧
        scanGroup template start = .ok ⟨s, start + s.byteSize + 2⟩) ∨
      scanGroup template start = .error (.unterminatedGroup template start) ∧
        ¬ Closed ('(' :: rest) := by
  cases found : closing? 1 rest with
  | some n =>
    obtain ⟨s, after, rfl, balanced⟩ := balanced_of_closing? found
    exact Or.inl ⟨s, after, rfl, balanced, scanGroup_balanced here balanced⟩
  | none =>
    have failed : scanGroup template start = .error (.unterminatedGroup template start) := by
      simp [scanGroup, here, closing?_open, found]
    refine Or.inr ⟨failed, fun closed => ?_⟩
    obtain ⟨s, after, rfl, balanced⟩ := closed.of_open
    rw [scanGroup_balanced here balanced] at failed
    contradiction

theorem scanGroup_ok {template rest : Text} {start : Nat} {g : Group}
    (here : template.dropBytes? start = some ('(' :: rest))
    (found : scanGroup template start = .ok g) :
    ∃ after, rest = g.content ++ ')' :: after ∧ Balanced g.content ∧
      template.dropBytes? g.stop = some after := by
  rcases scanGroup_cases here with ⟨s, after, rfl, balanced, scanned⟩ | ⟨failed, _⟩
  · obtain rfl : _ = g := Except.ok.inj (scanned.symm.trans found)
    refine ⟨after, rfl, balanced, ?_⟩
    have brackets : template.dropBytes? start = some (('(' :: s ++ [')']) ++ after) := by
      simpa using here
    have size : start + Text.byteSize ('(' :: s ++ [')']) = start + s.byteSize + 2 := by
      simp [show '('.utf8Size = 1 from rfl, show ')'.utf8Size = 1 from rfl]
      omega
    exact size ▸ Text.dropBytes?_later _ brackets
  · rw [failed] at found
    contradiction

end MediaNaming
