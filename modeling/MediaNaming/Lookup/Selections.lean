import MediaNaming.Text.Case

/-
The series chosen for each name. Names that differ only in letter case and outer blanks are
one name, and the first choice stays; 0 records that none was chosen.
-/
namespace MediaNaming

def normalName (series : Text) : Text := series.trim.lowercase

structure Selections where
  entries : List (Text × Nat) := []
deriving DecidableEq, Repr

namespace Selections

def size (s : Selections) : Nat := s.entries.length

def get? (s : Selections) (series : Text) : Option Nat := s.entries.lookup (normalName series)

/-- Records the choice unless one is recorded already. Gives the recorded one. -/
def insertIfAbsent (s : Selections) (series : Text) (id : Nat) : Nat × Selections :=
  match s.get? series with
  | some kept => (kept, s)
  | none => (id, ⟨(normalName series, id) :: s.entries⟩)

theorem get?_insertIfAbsent (s : Selections) (series : Text) (id : Nat) :
    (s.insertIfAbsent series id).2.get? series = some (s.insertIfAbsent series id).1 := by
  simp only [insertIfAbsent]
  cases found : s.get? series with
  | some kept => exact found
  | none => simp [get?]

end Selections
end MediaNaming
