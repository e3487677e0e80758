import MediaNaming.Proofs.Episode.Scanning
import MediaNaming.Proofs.Episode.Steps

/-
How often a scan looks at a sector. A visit passes the sector under the cursor, or respells it and
leaves the cursor where it is; then the sector holds one cross less. So there are no more visits
than sectors and crosses together, whatever the digits of the crosses are.
-/
namespace MediaNaming
namespace Scan

/-- A scan together with the states in which it looks at a sector and with what it ends in. -/
inductive Visits (input : Text) : Scan → List Scan → Scan × Option NamingError → Prop
  | done {s : Scan} (ended : s.rest = []) : Visits input s [] (s, none)
  | failed {s : Scan} {e : NamingError} (more : s.rest ≠ []) (fails : s.step input = .error e) :
      Visits input s [s] (s, some e)
  | next {s after : Scan} {visits : List Scan} {result : Scan × Option NamingError}
      (more : s.rest ≠ []) (steps : s.step input = .ok after)
      (later : Visits input after visits result) : Visits input s (s :: visits) result

def cursor (s : Scan) : Nat := s.done.length

def crossesHere (s : Scan) : Nat := (s.rest.headD []).countP isCross

/-- The cursor stands at a later sector, or at the same one with fewer crosses in it. -/
def Behind (s after : Scan) : Prop :=
  s.cursor < after.cursor ∨ s.cursor = after.cursor ∧ after.crossesHere < s.crossesHere

theorem Behind.trans {s t u : Scan} (first : Behind s t) (second : Behind t u) : Behind s u := by
  unfold Behind at *
  omega

theorem weight_eq (sectors : List Text) :
    weight sectors = sectors.length + sectors.flatten.countP isCross := by
  induction sectors with
  | nil => rfl
  | cons sector sectors ih =>
    rw [weight_cons, ih, List.flatten_cons, List.countP_append, List.length_cons]
    omega

variable {input : Text} {s after : Scan} {visits : List Scan} {result : Scan × Option NamingError}

theorem stepped_behind (stepped : Stepped input s after) : Behind s after := by
  have passed {sector : Text} {rest : List Text} {evidence : Evidence} :
      Behind s (s.pass sector rest evidence) := by
    left
    simp [cursor, pass]
  cases stepped with
  | season head seasons asserted => exact passed
  | episodes head seasons named => exact passed
  | @respell sector rest mark head seasons unnamed only =>
    have fewer : mark.respelled.countP isCross < sector.countP isCross :=
      crossMarks_crosses (by simp [only])
    right
    simpa [cursor, crossesHere, head] using fewer
  | pair head pairs short passes =>
    obtain ⟨evidence, rfl, -⟩ := passPair_ok passes
    left
    simp [cursor]
  | quiet head seasons unnamed uncrossed alone => exact passed

theorem visits_run (input : Text) (s : Scan) : ∃ visits, Visits input s visits (s.run input) := by
  fun_induction run input s with
  | case1 s ended => exact ⟨[], .done ended⟩
  | case2 s more after steps ih =>
    obtain ⟨visits, later⟩ := ih
    exact ⟨s :: visits, .next more steps later⟩
  | case3 s more e fails => exact ⟨[s], .failed more fails⟩

theorem Visits.result_eq (scans : Visits input s visits result) : result = s.run input := by
  induction scans with
  | done ended => rw [run, if_pos ended]
  | failed more fails => rw [run_failed more fails]
  | next more steps later ih => rw [ih, run_step more steps]

theorem Visits.length_le (scans : Visits input s visits result) :
    visits.length ≤ weight s.rest := by
  induction scans with
  | done ended => simp
  | @failed s e more fails =>
    obtain ⟨sector, rest, head⟩ := List.exists_cons_of_ne_nil more
    rw [head, weight_cons, List.length_singleton]
    omega
  | next more steps later ih =>
    have lighter := step_weight_lt more steps
    rw [List.length_cons]
    omega

theorem Visits.behind (scans : Visits input s visits result) :
    visits.Pairwise Behind ∧ ∀ first ∈ visits.head?, first = s := by
  induction scans with
  | done ended => simp
  | failed more fails => simp
  | @next s after visits result more steps later ih =>
    obtain ⟨ordered, first⟩ := ih
    have here : Behind s after := stepped_behind (stepped more steps)
    refine ⟨List.pairwise_cons.2 ⟨fun t member => ?_, ordered⟩, by simp⟩
    cases visits with
    | nil => simp at member
    | cons u visits =>
      obtain rfl := first u rfl
      rcases List.mem_cons.1 member with rfl | further
      · exact here
      · exact here.trans ((List.pairwise_cons.1 ordered).1 t further)

/-- The scan of a name ends. It looks at a sector at most as often as there are sectors and crosses
    in them, and at the same sector again only if that holds fewer crosses than before. -/
theorem scan_ends (input : Text) (sectors : List Text) :
    (∃ visits, Visits input (start sectors) visits ((start sectors).run input)) ∧
      ∀ visits result, Visits input (start sectors) visits result →
        result = (start sectors).run input ∧
          visits.length ≤ sectors.length + sectors.flatten.countP isCross ∧
          visits.Pairwise fun s later =>
            s.cursor = later.cursor → later.crossesHere < s.crossesHere := by
  refine ⟨visits_run input _, fun visits result scans => ⟨scans.result_eq, ?_, ?_⟩⟩
  · rw [← weight_eq]
    exact scans.length_le
  · refine scans.behind.1.imp ?_
    intro s later behind same
    rcases behind with moved | ⟨_, fewer⟩
    · omega
    · exact fewer

-- Digits of another script give no letter mark, and the respelled sector shows a second cross mark.
example : ((start ["٣x٣-٣x٣".toList]).run []).1.sectors = ["S٣E٣-S٣E٣".toList] := by decide +kernel

end Scan
end MediaNaming
