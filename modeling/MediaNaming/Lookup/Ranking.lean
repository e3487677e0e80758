import MediaNaming.Lookup.Service
import MediaNaming.Text.Case

/-
Ranking of search hits by the similarity of their names to the query. Equal similarity keeps
the order of the hits; a hit without an id is left out.
-/
namespace MediaNaming

structure Hit where
  id : Nat
  name : Text
  premiered : Option Text
deriving DecidableEq, Repr

namespace Hit

def displayName (h : Hit) : Text :=
  match h.premiered.bind (Text.takeBytes? · 4) with
  | some year => h.name ++ " (".toList ++ year ++ [')']
  | none => h.name

def candidate (h : Hit) : Candidate := ⟨h.id, h.displayName⟩

end Hit

/-- Hits by descending similarity of their lowercase name to the lowercase query. -/
def rankHits {κ : Type} [LE κ] [DecidableLE κ] (similarity : Text → Text → κ) (query : Text)
    (hits : List Hit) : List Hit :=
  let scored := (hits.filter fun h => h.id != 0).map fun h =>
    (similarity query.lowercase h.name.lowercase, h)
  (scored.mergeSort fun a b => decide (b.1 ≤ a.1)).map Prod.snd

def rankCandidates {κ : Type} [LE κ] [DecidableLE κ] (similarity : Text → Text → κ)
    (query : Text) (hits : List Hit) : List Candidate :=
  (rankHits similarity query hits).map Hit.candidate

end MediaNaming
