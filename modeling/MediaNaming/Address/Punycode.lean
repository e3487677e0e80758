import MediaNaming.Text.Basic

/-
Names in ASCII for names in any script. The ASCII characters of a name stand before the last
hyphen; each other one is inserted at a place and with a code point that a number in digits of
base 36 tells, counted from the insertion before it.
-/
namespace MediaNaming
namespace Punycode

def digit? (c : Char) : Option Nat :=
  if 'a' ≤ c ∧ c ≤ 'z' then some (c.toNat - 'a'.toNat)
  else if c.isDigit then some (c.toNat - '0'.toNat + 26)
  else none

/-- A digit below the threshold of its place ends a number. -/
def threshold (place bias : Nat) : Nat := max 1 (min 26 (place - bias))

def number? (bias : Nat) : Nat → Nat → Text → Option (Nat × Text)
  | _, _, [] => none
  | place, weight, c :: rest =>
    match digit? c with
    | none => none
    | some d =>
      let t := threshold place bias
      if d < t then some (d * weight, rest)
      else (number? bias (place + 36) (weight * (36 - t)) rest).map fun p => (d * weight + p.1, p.2)

theorem number?_rest_lt {bias place weight n : Nat} {t rest : Text}
    (found : number? bias place weight t = some (n, rest)) : rest.length < t.length := by
  induction t generalizing place weight n with
  | nil => simp [number?] at found
  | cons c t ih =>
    simp only [number?] at found
    split at found
    · simp at found
    · split at found
      · cases found
        simp
      · obtain ⟨⟨m, later⟩, read, same⟩ := Option.map_eq_some_iff.1 found
        obtain ⟨_, rfl⟩ := Prod.mk.inj same
        exact Nat.lt_succ_of_lt (ih read)

def scaled (step bias : Nat) : Nat :=
  if 455 < step then scaled (step / 35) (bias + 36) else bias + 36 * step / (step + 38)
termination_by step
decreasing_by exact Nat.div_lt_self (by omega) (by omega)

def nextBias (step size : Nat) (first : Bool) : Nat :=
  let step := if first then step / 700 else step / 2
  scaled (step + step / size) 0

def scalar? (code : Nat) : Option Char :=
  if code.isValidChar then some (Char.ofNat code) else none

/-- Inserts what the text tells. The next code point is `code` or above, and at `code` the next
    place is `place` or after it. -/
def insertAll (bias code place : Nat) (first : Bool) (done text : Text) : Option Text :=
  match text with
  | [] => some done
  | c :: more =>
    match _read : number? bias 36 1 (c :: more) with
    | none => none
    | some (step, rest) =>
      let size := done.length + 1
      let code := code + (place + step) / size
      let place := (place + step) % size
      match scalar? code with
      | none => none
      | some inserted =>
        insertAll (nextBias step size first) code (place + 1) false
          (done.take place ++ inserted :: done.drop place) rest
termination_by text.length
decreasing_by exact number?_rest_lt ‹_›

def isAscii (t : Text) : Bool := t.all fun c => c.toNat < 128

def decode? (t : Text) : Option Text :=
  if isAscii t then
    match t.splitLast? '-' with
    | some (c :: lead, rest) => insertAll 72 128 0 true (c :: lead) rest
    | _ => insertAll 72 128 0 true [] t
  else none

end Punycode
end MediaNaming
