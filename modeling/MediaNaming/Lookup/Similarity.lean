import MediaNaming.Text.Basic

/-
Similarity of two texts: the share of characters that match within a window, less half of those
that match out of order, and a bonus for a common beginning. All of it is computed on doubles.
-/
namespace MediaNaming
namespace Similarity

def firstFree? (c : Char) (stop : Nat) : Nat → List (Char × Bool) → Option Nat
  | _, [] => none
  | index, (x, taken) :: rest =>
    if stop ≤ index then none
    else if x = c ∧ ¬taken then some index
    else firstFree? c stop (index + 1) rest

/-- Takes for each character of the first text, from left to right, the first equal one that is
    free within the window. Gives the matched characters of the first text in order, and the
    second text with its taken characters. -/
def matchWithin (window : Nat) : Nat → Text → List (Char × Bool) → Text × List (Char × Bool)
  | _, [], b => ([], b)
  | index, c :: rest, b =>
    match firstFree? c (index + window + 1) (index - window) (b.drop (index - window)) with
    | some found =>
      let (matched, b) := matchWithin window (index + 1) rest (b.set found (c, true))
      (c :: matched, b)
    | none => matchWithin window (index + 1) rest b

def matching (a b : Text) : Float :=
  if a = [] ∧ b = [] then 1
  else if a = [] ∨ b = [] then 0
  else
    let window := max a.length b.length / 2 - 1
    let (matched, taken) := matchWithin window 0 a (b.map fun c => (c, false))
    let others := (taken.filter Prod.snd).map Prod.fst
    let count := matched.length
    let swapped := ((matched.zip others).filter fun (x, y) => x != y).length / 2
    if count = 0 then 0
    else
      let m := Float.ofNat count
      (m / Float.ofNat a.length + m / Float.ofNat b.length + Float.ofNat (count - swapped) / m) / 3

def commonLead (a b : Text) : Nat := (((a.take 4).zip b).takeWhile fun (x, y) => x == y).length

def score (a b : Text) : Float :=
  let share := matching a b
  if share > 0.7 then share + 0.1 * Float.ofNat (commonLead a b) * (1 - share) else share

/-- The score as a number in the same order. A double that is not negative grows with its bits. -/
def rank (a b : Text) : Nat := (score a b).toBits.toNat

end Similarity
end MediaNaming
