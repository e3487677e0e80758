import MediaNaming.Text.Classes
import MediaNaming.Text.Numeral

/-
Season and episode marks inside one sector. A run of digits counts up to two bytes; a longer
run makes no mark. A cross mark gives season and episode with a cross between them and is
respelled with the letters that say the same; the respelled sector has one cross less.
-/
namespace MediaNaming

def leadingDigits (t : Text) : Text := t.takeWhile isDecimal

def afterDigits (t : Text) : Text := t.dropWhile isDecimal

def shortNumber? (t : Text) : Option Nat :=
  if t.all isDecimal ∧ t.byteSize ≤ 2 then t.readNumber? wordLimit else none

/-- What `read` finds in each tail that begins the text or follows a character that is no
    letter. `opens` tells whether the text itself may be such a tail. -/
def readWords (read : Text → List Nat) (opens : Bool) : Text → List Nat
  | [] => []
  | c :: rest => (if opens then read (c :: rest) else []) ++ readWords read (!isAlphabetic c) rest

def seasonAt : Text → List Nat
  | [] => []
  | c :: rest => if isLetter 's' c then (shortNumber? (leadingDigits rest)).toList else []

def seasonMarks (sector : Text) : List Nat := readWords seasonAt true sector

def rangeEnd? : Text → Option Text
  | '-' :: rest => if leadingDigits rest = [] then none else some (leadingDigits rest)
  | _ => none

def episodeAt : Text → List Nat
  | [] => []
  | c :: rest =>
    let first := leadingDigits rest
    if isLetter 'e' c ∧ first ≠ [] ∧ first.byteSize ≤ 2 then
      (shortNumber? first).toList ++ ((rangeEnd? (afterDigits rest)).bind shortNumber?).toList
    else []

def episodeMarks (sector : Text) : List Nat := readWords episodeAt true sector

def isCross (c : Char) : Bool := c == 'x' || c == 'X'

structure CrossMark where
  lead : Text
  season : Text
  cross : Char
  first : Text
  last : Option Text
  rest : Text
deriving DecidableEq, Repr

namespace CrossMark

def range (m : CrossMark) : Text :=
  match m.last with
  | some digits => '-' :: digits
  | none => []

def written (m : CrossMark) : Text := m.season ++ m.cross :: m.first ++ m.range

/-- The sector with letters in place of the cross. -/
def respelled (m : CrossMark) : Text :=
  m.lead ++ ('S' :: m.season ++ 'E' :: m.first ++ m.range) ++ m.rest

def ofHead? (lead t : Text) : Option CrossMark :=
  match afterDigits t with
  | [] => none
  | x :: rest =>
    if leadingDigits t ≠ [] ∧ isCross x ∧ leadingDigits rest ≠ [] then
      match rangeEnd? (afterDigits rest) with
      | some last =>
        some ⟨lead, leadingDigits t, x, leadingDigits rest, some last,
          afterDigits (afterDigits rest).tail⟩
      | none => some ⟨lead, leadingDigits t, x, leadingDigits rest, none, afterDigits rest⟩
    else none

theorem digits_append (t : Text) : leadingDigits t ++ afterDigits t = t :=
  List.takeWhile_append_dropWhile

theorem ofHead?_text {lead t : Text} {m : CrossMark} (found : ofHead? lead t = some m) :
    m.lead = lead ∧ m.written ++ m.rest = t ∧ isCross m.cross := by
  simp only [ofHead?] at found
  split at found
  · simp at found
  · rename_i x rest eq
    split at found
    · rename_i h
      split at found
      · rename_i last ends
        cases found
        refine ⟨rfl, ?_, h.2.1⟩
        cases more : afterDigits rest with
        | nil => simp [more, rangeEnd?] at ends
        | cons c tail =>
          simp only [more, rangeEnd?] at ends
          split at ends
          · rename_i same
            cases same
            split at ends
            · simp at ends
            · cases ends
              simp only [written, range, List.tail_cons, List.append_assoc, List.cons_append,
                digits_append]
              rw [← more, digits_append, ← eq, digits_append]
          · simp at ends
      · cases found
        refine ⟨rfl, ?_, h.2.1⟩
        simp only [written, range, List.append_nil, List.append_assoc, List.cons_append,
          digits_append]
        rw [← eq, digits_append]
    · simp at found

theorem ofHead?_rest_lt {lead t : Text} {m : CrossMark} (found : ofHead? lead t = some m) :
    m.rest.length < t.length := by
  have := (ofHead?_text found).2.1
  rw [← this]
  simp [written]
  omega

/-- All marks of a text that follows `lead`, each one beginning after the end of the last. -/
def all (lead t : Text) : List CrossMark :=
  match t with
  | [] => []
  | c :: rest =>
    match _found : ofHead? lead (c :: rest) with
    | some m => m :: all (lead ++ m.written) m.rest
    | none => all (lead ++ [c]) rest
termination_by t.length
decreasing_by
  · exact ofHead?_rest_lt ‹_›
  · simp

theorem mem_all {lead t : Text} {m : CrossMark} (found : m ∈ all lead t) :
    m.lead ++ m.written ++ m.rest = lead ++ t ∧ isCross m.cross := by
  fun_induction all lead t with
  | case1 => simp at found
  | case2 lead c rest m' eq ih =>
    obtain ⟨before, text, cross⟩ := ofHead?_text eq
    rcases List.mem_cons.1 found with rfl | found
    · exact ⟨by rw [before, List.append_assoc, text], cross⟩
    · obtain ⟨same, cross⟩ := ih found
      exact ⟨by rw [same, List.append_assoc, text], cross⟩
  | case3 lead c rest eq ih =>
    obtain ⟨same, cross⟩ := ih found
    exact ⟨by rw [same, List.append_assoc]; rfl, cross⟩

/-- No letter or digit stands right before the mark, and no run of digits is long. -/
def counts (m : CrossMark) : Bool :=
  !m.lead.getLast?.any isAlphanumeric && decide (m.season.byteSize ≤ 2)
    && decide (m.first.byteSize ≤ 2) && m.last.all fun digits => decide (digits.byteSize ≤ 2)

end CrossMark

def crossMarks (sector : Text) : List CrossMark := (CrossMark.all [] sector).filter CrossMark.counts

theorem crossMarks_crosses {sector : Text} {m : CrossMark} (found : m ∈ crossMarks sector) :
    m.respelled.countP isCross < sector.countP isCross := by
  obtain ⟨text, cross⟩ := CrossMark.mem_all (List.mem_filter.1 found).1
  rw [List.nil_append] at text
  rw [← text]
  simp [CrossMark.respelled, CrossMark.written, List.countP_append, cross,
    show isCross 'S' = false from rfl, show isCross 'E' = false from rfl]

end MediaNaming
