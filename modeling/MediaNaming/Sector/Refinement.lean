import MediaNaming.Sector.Lexicon
import MediaNaming.Sector.NumberWord

/-
Refinement of the sectors of a name. The first sector that is still to be read is dropped,
consumed as a part marker, joined to the letters before it, or settled and classified; what
remains weighs less at each step, where a sector weighs one and each hyphen in it one more.
The sectors before the junk are the refined ones.
-/
namespace MediaNaming

/-- Digits and a word, with a hyphen between them and no other after it. -/
def splitNumbered? (sector : Text) : Option (Text × Text) :=
  match sector.takeWhile isDecimal, sector.dropWhile isDecimal with
  | d :: digits, '-' :: c :: tail =>
    if isWordLetter c ∧ '-' ∉ tail ∧ '\n' ∉ tail then some (d :: digits, c :: tail) else none
  | _, _ => none

inductive PartMarker where
  | bare
  | numbered (digits : Text)
deriving DecidableEq, Repr

namespace PartMarker

def words : List Text := ["part".toList, "cd".toList, "disk".toList, "disc".toList]

def ofSector? (sector : Text) : Option PartMarker :=
  match words.findSome? fun word => Text.afterWord? word sector with
  | none => none
  | some [] => some bare
  | some (c :: digits) => if (c :: digits).all isDecimal then some (numbered (c :: digits)) else none

/-- The part that a marker names and the sectors after it. A bare marker takes the number from
    the next sector that is not empty; a number out of range leaves the part as it was. -/
def consume? (part : Nat) (sector : Text) (rest : List Text) : Option (Nat × List Text) :=
  match ofSector? sector with
  | none => none
  | some (numbered digits) => some ((digits.readNumber? wordLimit).getD part, rest)
  | some bare =>
    match rest.dropWhile (· == []) with
    | [] => none
    | next :: later => (NumberWord.ofSector? next).map fun n => (n.value?.getD part, later)

end PartMarker

def isLoneCapital : Text → Bool
  | [c] => isUppercase c
  | _ => false

structure Refinement where
  done : List Text
  rest : List Text
  afterCapital : Bool := false
  part : Nat := 0
  findings : Findings := {}
deriving DecidableEq, Repr

namespace Refinement

def opened (sector : Text) (rest : List Text) : Text × List Text :=
  match splitNumbered? sector with
  | some (digits, word) => (digits.capitalize, word :: rest)
  | none => (sector.capitalize, rest)

def settle (classifier : Classifier) (sector : Text) (rest : List Text) (r : Refinement) :
    Refinement :=
  { r with
    done := r.done ++ [sector]
    rest := rest
    afterCapital := isLoneCapital sector
    findings := classifier (r.done ++ sector :: rest) r.done.length r.findings }

/-- A lone capital joins the capitals settled just before it. -/
def joinCapital? (sector : Text) (rest : List Text) (r : Refinement) : Option Refinement :=
  if isLoneCapital sector ∧ r.afterCapital then
    r.done.getLast?.map fun last => { r with done := r.done.dropLast ++ [last ++ sector], rest := rest }
  else none

def step (classifier : Classifier) (r : Refinement) : Refinement :=
  match r.rest with
  | [] => r
  | [] :: rest => { r with rest := rest }
  | (c :: tail) :: rest =>
    let (sector, rest) := opened (c :: tail) rest
    match PartMarker.consume? r.part sector rest with
    | some (part, rest) => { r with part := part, rest := rest }
    | none => (r.joinCapital? sector rest).getD (r.settle classifier sector rest)

def weight : List Text → Nat
  | [] => 0
  | s :: sectors => 1 + s.count '-' + weight sectors

@[simp] theorem weight_cons (s : Text) (sectors : List Text) :
    weight (s :: sectors) = 1 + s.count '-' + weight sectors := rfl

theorem weight_dropWhile (p : Text → Bool) (sectors : List Text) :
    weight (sectors.dropWhile p) ≤ weight sectors := by
  induction sectors with
  | nil => simp
  | cons s sectors ih => simp only [List.dropWhile_cons]; split <;> simp; omega

theorem splitNumbered?_hyphens {sector digits word : Text}
    (found : splitNumbered? sector = some (digits, word)) :
    word.count '-' < sector.count '-' := by
  have parts := List.takeWhile_append_dropWhile (p := isDecimal) (l := sector)
  simp only [splitNumbered?] at found
  split at found
  · rename_i d ds c tail lead after
    split at found
    · rename_i h
      simp only [Option.some.injEq, Prod.mk.injEq] at found
      obtain ⟨_, rfl⟩ := found
      rw [← parts, after, List.count_append, List.count_cons_self]
      omega
    · simp at found
  · simp at found

theorem opened_weight (sector : Text) (rest : List Text) :
    weight (opened sector rest).2 < 1 + sector.count '-' + weight rest := by
  simp only [opened]
  split
  · rename_i found
    have := splitNumbered?_hyphens found
    simp only [weight_cons]
    omega
  · simp only
    omega

theorem consume?_weight {part n : Nat} {sector : Text} {rest later : List Text}
    (found : PartMarker.consume? part sector rest = some (n, later)) :
    weight later ≤ weight rest := by
  simp only [PartMarker.consume?] at found
  split at found
  · simp at found
  · simp at found; simp [found.2]
  · split at found
    · simp at found
    · rename_i next more eq
      simp only [Option.map_eq_some_iff] at found
      obtain ⟨_, _, same⟩ := found
      cases same
      have := weight_dropWhile (· == []) rest
      rw [eq] at this
      simp at this
      omega

theorem settle_rest (classifier : Classifier) (sector : Text) (rest : List Text) (r : Refinement) :
    (r.settle classifier sector rest).rest = rest := rfl

theorem joinCapital?_rest {sector : Text} {rest : List Text} {r joined : Refinement}
    (found : r.joinCapital? sector rest = some joined) : joined.rest = rest := by
  simp only [joinCapital?] at found
  split at found
  · obtain ⟨_, _, rfl⟩ := Option.map_eq_some_iff.1 found; rfl
  · simp at found

theorem step_weight_lt (classifier : Classifier) (r : Refinement) (more : r.rest ≠ []) :
    weight (r.step classifier).rest < weight r.rest := by
  simp only [step]
  split
  · contradiction
  · rename_i rest eq
    simp [eq]
  · rename_i c tail rest eq
    have opens := opened_weight (c :: tail) rest
    rw [eq, weight_cons]
    split
    · rename_i found
      have := consume?_weight found
      simp only
      omega
    · cases joined : r.joinCapital? (opened (c :: tail) rest).1 (opened (c :: tail) rest).2 with
      | none => simpa [settle_rest] using opens
      | some s => simpa [joinCapital?_rest joined] using opens

def run (classifier : Classifier) (r : Refinement) : Refinement :=
  if r.rest = [] then r else run classifier (r.step classifier)
termination_by weight r.rest
decreasing_by exact step_weight_lt classifier r ‹_›

end Refinement

structure Refined where
  sectors : List Text
  year : Int
  part : Nat
  quality : Option Quality
deriving DecidableEq, Repr

def Refinement.result (r : Refinement) : Refined where
  sectors := match r.findings.junkStart with
    | some start => r.done.take start
    | none => r.done
  year := r.findings.year.getD (-1)
  part := r.part
  quality := r.findings.quality

def refine (classifier : Classifier) (sectors : List Text) : Refined :=
  (Refinement.run classifier ⟨[], sectors, false, 0, {}⟩).result

end MediaNaming
