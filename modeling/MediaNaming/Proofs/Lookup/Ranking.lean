import MediaNaming.Lookup.Ranking
import MediaNaming.Lookup.Resolution
import Mathlib.Order.Lattice.Nat
import Mathlib.Data.List.Forall2

/-
Ranking of search hits. The hits with an id come in descending closeness to the query, those of one
closeness in the order in which they were found. So the first of them is the first one that none is
closer than, and the chooser that trusts the order of the service takes it.
-/
namespace MediaNaming

theorem Text.takeBytes?_eq_some {t lead : Text} {n : Nat} :
    t.takeBytes? n = some lead ↔ ∃ rest, t = lead ++ rest ∧ lead.byteSize = n := by
  constructor
  · intro taken
    obtain ⟨⟨rest, text⟩, size⟩ := takeBytes?_some taken
    exact ⟨rest, text, size⟩
  · rintro ⟨rest, rfl, rfl⟩
    exact takeBytes?_append lead rest

namespace Hit

def Dated (h : Hit) (year : Text) : Prop :=
  ∃ rest, h.premiered = some (year ++ rest) ∧ year.byteSize = 4

structure Shown (h : Hit) (c : Candidate) : Prop where
  id : c.id = h.id
  dated : ∀ year, h.Dated year → c.displayName = h.name ++ " (".toList ++ year ++ [')']
  undated : (∀ year, ¬ h.Dated year) → c.displayName = h.name

theorem shown_candidate (h : Hit) : h.Shown h.candidate where
  id := rfl
  dated := by
    rintro year ⟨rest, premiered, size⟩
    have taken := Text.takeBytes?_eq_some.2 ⟨rest, rfl, size⟩
    simp only [candidate, displayName, premiered, Option.bind_some, taken]
  undated := by
    intro undated
    have untaken : h.premiered.bind (Text.takeBytes? · 4) = none := by
      rw [Option.eq_none_iff_forall_ne_some]
      intro year taken
      obtain ⟨date, premiered, taken⟩ := Option.bind_eq_some_iff.1 taken
      obtain ⟨rest, rfl, size⟩ := Text.takeBytes?_eq_some.1 taken
      exact undated year ⟨rest, premiered, size⟩
    simp only [candidate, displayName, untaken]

end Hit

section
variable {κ : Type} [LinearOrder κ] (closeness : Hit → κ)

/-- The same hits in descending closeness, those of one closeness in the same order. -/
structure Ranks (hits ranked : List Hit) : Prop where
  perm : ranked.Perm hits
  descending : ranked.Pairwise fun earlier later => closeness later ≤ closeness earlier
  stable : ∀ k, (ranked.filter fun h => closeness h = k) = hits.filter fun h => closeness h = k

/-- The first hit that none is closer than. -/
def FirstClosest (hits : List Hit) (best : Hit) : Prop :=
  ∃ front back, hits = front ++ best :: back ∧
    (∀ h ∈ front, closeness h < closeness best) ∧ ∀ h ∈ back, closeness h ≤ closeness best

def notFarther (a b : Hit) : Bool := decide (closeness b ≤ closeness a)

theorem notFarther_trans (a b c : Hit) (first : notFarther closeness a b = true)
    (second : notFarther closeness b c = true) : notFarther closeness a c = true :=
  decide_eq_true (le_trans (of_decide_eq_true second) (of_decide_eq_true first))

theorem notFarther_total (a b : Hit) :
    (notFarther closeness a b || notFarther closeness b a) = true := by
  simpa [notFarther] using le_total (closeness b) (closeness a)

theorem ranks_mergeSort (hits : List Hit) :
    Ranks closeness hits (hits.mergeSort (notFarther closeness)) where
  perm := List.mergeSort_perm hits _
  descending :=
    (List.pairwise_mergeSort (notFarther_trans closeness) (notFarther_total closeness) hits).imp
      fun sorted => of_decide_eq_true sorted
  stable := by
    intro k
    -- hits of one closeness are sorted as they are, so that the sort keeps them as a sublist
    have sorted : (hits.filter fun h => closeness h = k).Pairwise
        fun a b => notFarther closeness a b = true := by
      refine List.pairwise_of_forall_mem_list fun a first b second => ?_
      have equal : closeness b = closeness a := by
        rw [of_decide_eq_true (List.mem_filter.1 second).2,
          of_decide_eq_true (List.mem_filter.1 first).2]
      exact decide_eq_true (le_of_eq equal)
    have kept := List.sublist_mergeSort (notFarther_trans closeness) (notFarther_total closeness)
      sorted List.filter_sublist
    have within := kept.filter fun h => decide (closeness h = k)
    rw [List.filter_filter] at within
    simp only [Bool.and_self] at within
    exact (within.eq_of_length
      ((List.mergeSort_perm hits _).filter _).length_eq.symm).symm

variable {closeness} {hits ranked : List Hit} {best : Hit} {others : List Hit}

theorem Ranks.firstClosest (ranks : Ranks closeness hits (best :: others)) :
    FirstClosest closeness hits best := by
  have closest : ∀ h ∈ hits, closeness h ≤ closeness best := by
    intro h member
    rcases List.mem_cons.1 (ranks.perm.mem_iff.2 member) with rfl | later
    · exact le_rfl
    · exact (List.pairwise_cons.1 ranks.descending).1 h later
  have equals := ranks.stable (closeness best)
  rw [List.filter_cons_of_pos (by simp)] at equals
  obtain ⟨front, back, rfl, farther, -, -⟩ := List.filter_eq_cons_iff.1 equals.symm
  refine ⟨front, back, rfl, fun h member => ?_, fun h member => closest h (by simp [member])⟩
  have different : closeness h ≠ closeness best := by simpa using farther h member
  exact lt_of_le_of_ne (closest h (by simp [member])) different

end

def identified (hits : List Hit) : List Hit := hits.filter fun h => h.id != 0

section
variable {κ : Type} [LinearOrder κ] (similarity : Text → Text → κ) (query : Text)

def closeness (h : Hit) : κ := similarity query.lowercase h.name.lowercase

theorem rankHits_eq (hits : List Hit) : rankHits similarity query hits =
    (identified hits).mergeSort (notFarther (closeness similarity query)) := by
  have scores := List.map_mergeSort (r := notFarther (closeness similarity query))
    (s := fun a b : κ × Hit => decide (b.1 ≤ a.1))
    (f := fun h => (closeness similarity query h, h)) (l := identified hits)
    fun a _ b _ => rfl
  calc rankHits similarity query hits
      = (((identified hits).map fun h => (closeness similarity query h, h)).mergeSort
          fun a b => decide (b.1 ≤ a.1)).map Prod.snd := rfl
    _ = (identified hits).mergeSort (notFarther (closeness similarity query)) := by
      rw [← scores, List.map_map]
      exact List.map_id _

theorem rankHits_ranks (hits : List Hit) :
    Ranks (closeness similarity query) (identified hits) (rankHits similarity query hits) := by
  rw [rankHits_eq]
  exact ranks_mergeSort _ _

structure RanksCandidates (hits : List Hit) (candidates : List Candidate) : Prop where
  ranked : ∃ ranked, Ranks (closeness similarity query) (identified hits) ranked ∧
    List.Forall₂ Hit.Shown ranked candidates
  selected : ∀ {σ : Type} (lookup : Lookup σ) (s : LookupState σ) (next : σ),
    lookup.chooser = Chooser.first → s.selections.get? query = none →
      lookup.service.search query s.outside = (.ok candidates, next) → identified hits ≠ [] →
        ∃ best, FirstClosest (closeness similarity query) (identified hits) best ∧
          lookup.selectSeries query s =
            (some best.id, ⟨(s.selections.insertIfAbsent query best.id).2, next⟩)

theorem pick_first {σ : Type} {lookup : Lookup σ} (trusts : lookup.chooser = Chooser.first)
    (series : Text) (c : Candidate) (more : List Candidate) (outside : σ) :
    lookup.pick series (c :: more) outside = (c.id, outside) := by
  cases more with
  | nil =>
    simp only [Lookup.pick, trusts]
    split <;> rfl
  | cons second more =>
    simp only [Lookup.pick, trusts]
    rfl

theorem candidates_ranked (hits : List Hit) :
    RanksCandidates similarity query hits (rankCandidates similarity query hits) where
  ranked := by
    refine ⟨rankHits similarity query hits, rankHits_ranks similarity query hits, ?_⟩
    rw [rankCandidates, List.forall₂_map_right_iff]
    exact List.forall₂_same.2 fun h _ => h.shown_candidate
  selected := by
    intro σ lookup s next trusts unknown searched some_hit
    have ranks := rankHits_ranks similarity query hits
    have some_ranked : rankHits similarity query hits ≠ [] := fun none =>
      some_hit (List.nil_perm.1 (none ▸ ranks.perm))
    obtain ⟨best, others, first⟩ := List.exists_cons_of_ne_nil some_ranked
    rw [first] at ranks
    have real : best.id ≠ 0 := by
      have member := ranks.perm.mem_iff.1 (List.mem_cons_self (a := best))
      simpa using (List.mem_filter.1 member).2
    refine ⟨best, ranks.firstClosest, ?_⟩
    have proposed : lookup.propose query s.outside = (some best.id, next) := by
      simp only [Lookup.propose, searched, rankCandidates, first, List.map_cons,
        pick_first trusts]
      rfl
    simp only [Lookup.selectSeries, unknown, proposed, Selections.insertIfAbsent, Lookup.nonzero?,
      if_neg real]

end

def remakes : List Hit :=
  [⟨766, "Doctor Who Confidential".toList, some "2005-03-26".toList⟩,
    ⟨0, "Doctor Who".toList, none⟩, ⟨210, "Doctor Who".toList, some "2005-03-26".toList⟩,
    ⟨11, "Doctor Who".toList, none⟩]

def sameText (a b : Text) : Nat := if a = b then 1 else 0

def finding (hits : List Hit) : Lookup Unit where
  service := {
    search := fun series _ => (.ok (rankCandidates sameText series hits), ())
    episodeTitle := fun _ _ _ _ => (.ok none, ()) }

theorem candidates_ranked_remakes :
    identified remakes ≠ [] ∧
      ∃ best, FirstClosest (closeness sameText "doctor who".toList) (identified remakes) best ∧
        (finding remakes).selectSeries "doctor who".toList ⟨{}, ()⟩ =
          (some best.id, ⟨(Selections.insertIfAbsent {} "doctor who".toList best.id).2, ()⟩) := by
  have some_hit : identified remakes ≠ [] := by decide
  exact ⟨some_hit, (candidates_ranked sameText "doctor who".toList remakes).selected
    (finding remakes) ⟨{}, ()⟩ () rfl rfl rfl some_hit⟩

end MediaNaming
