/-
Text is a list of characters: all that the library says about names is said by recursion on
it. Where a rule counts bytes, the count is that of the UTF-8 form, and a cut that would fall
inside a character has no result.
-/
namespace MediaNaming

abbrev Text := List Char

namespace Text

def byteSize : Text → Nat
  | [] => 0
  | c :: rest => c.utf8Size + byteSize rest

/-- What follows the first `n` bytes, if they end where a character ends. -/
def dropBytes? : Text → Nat → Option Text
  | t, 0 => some t
  | [], _ + 1 => none
  | c :: rest, n + 1 => if c.utf8Size ≤ n + 1 then dropBytes? rest (n + 1 - c.utf8Size) else none

def takeBytes? : Text → Nat → Option Text
  | _, 0 => some []
  | [], _ + 1 => none
  | c :: rest, n + 1 =>
    if c.utf8Size ≤ n + 1 then (takeBytes? rest (n + 1 - c.utf8Size)).map (c :: ·) else none

def slice? (t : Text) (start stop : Nat) : Option Text :=
  if start ≤ stop then (dropBytes? t start).bind (takeBytes? · (stop - start)) else none

/-- The pieces between the characters that `stops` marks, empty ones included. -/
def pieces (stops : Char → Bool) : Text → List Text
  | [] => [[]]
  | c :: rest =>
    match pieces stops rest with
    | [] => [[c]]
    | piece :: more => if stops c then [] :: piece :: more else (c :: piece) :: more

def splitFirst? (c : Char) : Text → Option (Text × Text)
  | [] => none
  | x :: rest => if x = c then some ([], rest) else (splitFirst? c rest).map fun p => (x :: p.1, p.2)

def splitLast? (c : Char) : Text → Option (Text × Text)
  | [] => none
  | x :: rest =>
    match splitLast? c rest with
    | some (before, after) => some (x :: before, after)
    | none => if x = c then some ([], rest) else none

def trimEnds (drops : Char → Bool) (t : Text) : Text :=
  ((t.dropWhile drops).reverse.dropWhile drops).reverse

def afterLead? : Text → Text → Option Text
  | [], t => some t
  | _ :: _, [] => none
  | c :: lead, x :: t => if x = c then afterLead? lead t else none

def endsWith (t : Text) (c : Char) : Bool := t.getLast? == some c

def join (between : Text) (parts : List Text) : Text := between.intercalate parts

@[simp] theorem byteSize_nil : byteSize [] = 0 := rfl

@[simp] theorem byteSize_cons (c : Char) (t : Text) :
    byteSize (c :: t) = c.utf8Size + byteSize t := rfl

@[simp] theorem byteSize_append (s t : Text) : byteSize (s ++ t) = byteSize s + byteSize t := by
  induction s with
  | nil => simp
  | cons c s ih => simp [ih, Nat.add_assoc]

theorem length_le_byteSize (t : Text) : t.length ≤ byteSize t := by
  induction t with
  | nil => simp
  | cons c t ih => have := c.utf8Size_pos; simp; omega

theorem dropBytes?_some {t rest : Text} {n : Nat} (found : dropBytes? t n = some rest) :
    ∃ lead, t = lead ++ rest ∧ byteSize lead = n := by
  induction t generalizing n with
  | nil => cases n <;> simp_all [dropBytes?]
  | cons c t ih =>
    cases n with
    | zero => exact ⟨[], by simp_all [dropBytes?]⟩
    | succ n =>
      simp only [dropBytes?] at found
      split at found
      · obtain ⟨lead, rfl, size⟩ := ih found
        exact ⟨c :: lead, by simp, by simp [size]; omega⟩
      · simp at found

theorem takeBytes?_some {t lead : Text} {n : Nat} (found : takeBytes? t n = some lead) :
    (∃ rest, t = lead ++ rest) ∧ byteSize lead = n := by
  induction t generalizing n lead with
  | nil => cases n <;> simp_all [takeBytes?]
  | cons c t ih =>
    cases n with
    | zero => simp_all [takeBytes?]
    | succ n =>
      simp only [takeBytes?] at found
      split at found
      · obtain ⟨tail, taken, rfl⟩ := Option.map_eq_some_iff.1 found
        obtain ⟨⟨rest, rfl⟩, size⟩ := ih taken
        exact ⟨⟨rest, by simp⟩, by simp [size]; omega⟩
      · simp at found

theorem dropBytes?_append (lead rest : Text) :
    dropBytes? (lead ++ rest) (byteSize lead) = some rest := by
  induction lead with
  | nil => simp [dropBytes?]
  | cons c lead ih =>
    obtain ⟨k, size⟩ : ∃ k, c.utf8Size + byteSize lead = k + 1 :=
      ⟨c.utf8Size + byteSize lead - 1, by have := c.utf8Size_pos; omega⟩
    have left : k + 1 - c.utf8Size = byteSize lead := by omega
    simp only [List.cons_append, byteSize_cons, size, dropBytes?]
    rw [if_pos (by omega), left, ih]

theorem takeBytes?_append (lead rest : Text) :
    takeBytes? (lead ++ rest) (byteSize lead) = some lead := by
  induction lead with
  | nil => simp [takeBytes?]
  | cons c lead ih =>
    obtain ⟨k, size⟩ : ∃ k, c.utf8Size + byteSize lead = k + 1 :=
      ⟨c.utf8Size + byteSize lead - 1, by have := c.utf8Size_pos; omega⟩
    have left : k + 1 - c.utf8Size = byteSize lead := by omega
    simp only [List.cons_append, byteSize_cons, size, takeBytes?]
    rw [if_pos (by omega), left, ih]
    rfl

end Text
end MediaNaming
