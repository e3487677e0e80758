import MediaNaming.Proofs.Episode.Block
import MediaNaming.Proofs.Episode.Cuts
import MediaNaming.Proofs.Episode.WrittenMarks

/-
Seasons asserted in ASCII sectors. A letter mark and a pair stay as they are written; a cross that
counts is respelled with letters before the scan passes it. So the scan compares every assertion
with the season, except those of crosses that are overlooked.
-/
namespace MediaNaming

/-- What respelling makes of a sector, one cross after the other. -/
inductive Becomes : Text → Text → Prop
  | same (t : Text) : Becomes t t
  | respelled {t u : Text} {mark : CrossMark} (seasons : seasonMarks t = [])
      (unnamed : episodeMarks t = []) (only : crossMarks t = [mark])
      (later : Becomes mark.respelled u) : Becomes t u

def Spelled (t : Text) : Prop :=
  seasonMarks t ≠ [] ∨ episodeMarks t ≠ [] ∨ crossMarks t = []

theorem Becomes.respell {t u : Text} {mark : CrossMark} (becomes : Becomes t u)
    (seasons : seasonMarks u = []) (unnamed : episodeMarks u = []) (only : crossMarks u = [mark]) :
    Becomes t mark.respelled := by
  induction becomes with
  | same t => exact .respelled seasons unnamed only (.same _)
  | respelled before unnamedBefore onlyBefore later ih =>
    exact .respelled before unnamedBefore onlyBefore (ih seasons unnamed only)

namespace Scan

structure Respells (sectors : List Text) (s : Scan) : Prop where
  becomes : ∀ (i : Nat) (t : Text), sectors[i]? = some t →
    ∃ u, s.sectors[i]? = some u ∧ Becomes t u
  spelled : ∀ t ∈ s.done, Spelled t

variable {input : Text} {sectors : List Text} {s after : Scan}

theorem spelled_stepped (spelled : ∀ t ∈ s.done, Spelled t) (stepped : Stepped input s after) :
    ∀ t ∈ after.done, Spelled t := by
  have passed {sector : Text} (now : Spelled sector) : ∀ t ∈ s.done ++ [sector], Spelled t := by
    simpa [or_imp, forall_and] using ⟨spelled, now⟩
  cases stepped with
  | season head seasons asserted => exact passed (Or.inl (by simp [seasons]))
  | episodes head seasons named => exact passed (Or.inr (Or.inl named))
  | respell head seasons unnamed only => exact spelled
  | @pair sector next later word number after head pairs short passes =>
    obtain ⟨evidence, rfl, -⟩ := passPair_ok passes
    have wordDone : Spelled sector := Or.inr (Or.inr (quiet_of_word pairs).crosses)
    have numberDone : Spelled next :=
      Or.inr (Or.inr (quiet_of_digits (shortNumber?_some short).2.1).crosses)
    simpa [or_imp, forall_and] using ⟨spelled, wordDone, numberDone⟩
  | quiet head seasons unnamed uncrossed alone => exact passed (Or.inr (Or.inr uncrossed))

theorem respells_stepped (respells : Respells sectors s) (stepped : Stepped input s after) :
    Respells sectors after where
  spelled := spelled_stepped respells.spelled stepped
  becomes i t here := by
    obtain ⟨u, now, becomes⟩ := respells.becomes i t here
    rcases stepped_sectors stepped with
      same | ⟨sector, later, mark, head, seasons, unnamed, only, rfl⟩
    · exact ⟨u, same ▸ now, becomes⟩
    · rw [Scan.sectors, head] at now
      by_cases under : i = s.done.length
      · subst under
        rw [getElem?_head, Option.some.injEq] at now
        subst now
        exact ⟨mark.respelled, getElem?_head, becomes.respell seasons unnamed only⟩
      · exact ⟨u, by rw [← now]; exact getElem?_other under, becomes⟩

theorem respells_run (input : Text) (sectors : List Text) :
    Respells sectors ((start sectors).run input).1 := by
  apply run_keeps fun _ _ respells stepped => respells_stepped respells stepped
  exact ⟨fun i t here => ⟨t, by simpa [Scan.sectors, start] using here, .same t⟩, by simp [start]⟩

theorem Respells.ended (respells : Respells sectors s) (done : s.rest = []) {i : Nat} {t : Text}
    (here : sectors[i]? = some t) : ∃ u, s.sectors[i]? = some u ∧ Becomes t u ∧ Spelled u := by
  obtain ⟨u, now, becomes⟩ := respells.becomes i t here
  have member : u ∈ s.done := by
    simpa [Scan.sectors, done] using List.mem_of_getElem? now
  exact ⟨u, now, becomes, respells.spelled u member⟩

end Scan

theorem low_respelled {sector : Text} {mark : CrossMark} (member : mark ∈ crossMarks sector)
    (low : ∀ c ∈ sector, c.toNat < 128) : ∀ c ∈ mark.respelled, c.toNat < 128 :=
  Scan.forall_respelled (by decide) member low

variable {sectors : List Text} {scan : Scan} {n : Nat}

theorem endsInsideCharacter_of_ascii {t : Text} (low : ∀ c ∈ t, c.toNat < 128) :
    endsInsideCharacter t = false := by
  have single {c : Char} (member : c ∈ t.reverse) : c.utf8Size = 1 := by
    have := ascii_forall (p := fun c => c.utf8Size == 1) (by decide) (low c (by simpa using member))
    simpa using this
  simp only [endsInsideCharacter]
  split
  · rfl
  · rename_i last text
    simp [single (c := last) (by simp [text])]
  · rename_i last before more text
    simp [single (c := last) (by simp [text]), single (c := before) (by simp [text])]

theorem addBareNumber_error {input : Text} {e : Evidence} {failure : NamingError}
    (ascii : ∀ sector ∈ sectors, ∀ c ∈ sector, c.toNat < 128)
    (failed : e.addBareNumber input sectors = .error failure) : failure.FromScan input := by
  rcases Evidence.addBareNumber_failure failed with scanned | ⟨number, index, only, broken⟩
  · exact scanned
  · have member : number ∈ sectors := by
      have kept : (number, index) ∈ bareNumbers sectors e.block := by simp [only]
      exact List.fst_mem_of_mem_zipIdx (List.mem_filter.1 kept).1
    have inside := (readBareNumber_error_iff.1 broken).1
    rw [endsInsideCharacter_of_ascii (ascii number member)] at inside
    contradiction

theorem complete_error {input : Text} {e : Evidence} {failure : NamingError}
    (ascii : ∀ sector ∈ sectors, ∀ c ∈ sector, c.toNat < 128)
    (failed : e.complete input sectors = .error failure) : failure.FromScan input := by
  simp only [Evidence.complete] at failed
  split at failed
  · simp at failed
  · split at failed
    · simp at failed
    · exact addBareNumber_error ascii failed

theorem extract_error {year : Int} {input : Text} {failure : NamingError}
    (ascii : ∀ sector ∈ sectors, ∀ c ∈ sector, c.toNat < 128)
    (failed : (extract sectors year input).parts = .error failure) : failure.FromScan input := by
  rcases ran : (Scan.start sectors).run input with ⟨scan, _ | e⟩
  · have low := Scan.run_sectors (P := fun t => ∀ c ∈ t, c.toNat < 128) input
      (fun _ _ member => low_respelled member) ascii
    rw [ran] at low
    cases completes : scan.evidence.complete input scan.sectors with
    | error e =>
      simp only [extract, ran, completes, Except.map, Except.error.injEq] at failed
      exact failed ▸ complete_error low completes
    | ok found => simp [extract, ran, completes, Except.map] at failed
  · simp only [extract, ran, Except.error.injEq] at failed
    exact failed ▸ Scan.run_error ran

end MediaNaming
