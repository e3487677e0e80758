import MediaNaming.Proofs.Sector.Steps
import MediaNaming.Proofs.Text.Splitting

/-
Characters at which neither a name nor a path is split. Sectors are made of them, and so are
refined sectors, since no letter has a capital with other characters in it.
-/
namespace MediaNaming

def isSolid (c : Char) : Bool := !isDelimiter c && c != pathSeparator

def Solid (t : Text) : Prop := ∀ c ∈ t, isSolid c = true

def separatorCodes : List (Nat × Nat) := [(0x20, 0x20), (0x2c, 0x2c), (0x2e, 0x2f), (0x5f, 0x5f)]

theorem isSolid_iff {c : Char} : isSolid c = true ↔ isDelimiter c = false ∧ c ≠ pathSeparator := by
  simp [isSolid]

theorem isSolid_of_code {c : Char} (outside : inRanges separatorCodes c.toNat = false) :
    isSolid c = true := by
  rw [isSolid_iff]
  constructor
  · by_contra delimiter
    simp only [Bool.not_eq_false, isDelimiter, Bool.or_eq_true, beq_iff_eq] at delimiter
    rcases delimiter with ((rfl | rfl) | rfl) | rfl <;> revert outside <;> decide
  · rintro rfl
    revert outside
    decide

theorem upperTargets_apart_separators : apart separatorCodes upperTargets = true := by
  decide +kernel

theorem upperExpansions_avoid_separators :
    (Property.upperExpansions.all fun e => e.2.all fun code => !inRanges separatorCodes code) =
      true := by
  decide

theorem isSolid_upper {c d : Char} (solid : isSolid c = true) (member : d ∈ upper c) :
    isSolid d = true := by
  have outside {n : Nat} (avoids : inRanges separatorCodes n = false) :
      isSolid (Char.ofNat n) = true := by
    apply isSolid_of_code
    rcases toNat_ofNat_or_zero n with same | invalid
    · rw [same, avoids]
    · rw [invalid]
      rfl
  simp only [upper, mapCase] at member
  split at member
  · rename_i m found
    obtain rfl : d = Char.ofNat m := by simpa using member
    exact outside (shifted_apart upperTargets_apart_separators found)
  · split at member
    · rename_i codes found
      obtain ⟨l₁, l₂, listed, _⟩ := List.lookup_eq_some_iff.1 found
      have avoids := List.all_eq_true.1 upperExpansions_avoid_separators (c.toNat, codes)
        (by simp [listed])
      obtain ⟨code, among, rfl⟩ := List.mem_map.1 member
      exact outside (by simpa using List.all_eq_true.1 avoids code among)
    · obtain rfl : d = c := by simpa using member
      exact solid

theorem forall_capitalize {P : Char → Prop} (capital : ∀ c, P c → ∀ d ∈ upper c, P d) {t : Text}
    (all : ∀ c ∈ t, P c) : ∀ c ∈ t.capitalize, P c := by
  cases t with
  | nil => exact all
  | cons c t =>
    simp only [Text.capitalize]
    split
    · intro d member
      rcases List.mem_append.1 member with first | later
      · exact capital c (all c (by simp)) d first
      · exact all d (by simp [later])
    · exact all

theorem solid_sectorsOf {name : Text} (flat : pathSeparator ∉ name) :
    ∀ s ∈ sectorsOf name, Solid s := by
  intro s member c inside
  refine isSolid_iff.2 ⟨Text.mem_pieces member c inside, ?_⟩
  rintro rfl
  exact flat (Text.mem_of_mem_pieces member inside)

theorem splitNumbered?_text {s digits word : Text}
    (found : splitNumbered? s = some (digits, word)) :
    s = digits ++ '-' :: word := by
  have parts := List.takeWhile_append_dropWhile (p := isDecimal) (l := s)
  simp only [splitNumbered?] at found
  split at found
  · rename_i d rest c tail lead after
    split at found
    · simp only [Option.some.injEq, Prod.mk.injEq] at found
      rw [← parts, lead, after, found.1, found.2]
    · simp at found
  · simp at found

namespace Refinement

variable {P : Char → Prop} (capital : ∀ c, P c → ∀ d ∈ upper c, P d)

include capital

theorem forall_opened {s sector : Text} {rest after : List Text}
    (all : ∀ t ∈ s :: rest, ∀ c ∈ t, P c) (opens : opened s rest = (sector, after)) :
    ∀ t ∈ sector :: after, ∀ c ∈ t, P c := by
  have first := all s (by simp)
  simp only [opened] at opens
  split at opens
  · rename_i digits word found
    cases opens
    rw [splitNumbered?_text found] at first
    intro t member
    simp only [List.mem_cons] at member
    rcases member with rfl | rfl | member
    · exact forall_capitalize capital fun c inside => first c (by simp [inside])
    · exact fun c inside => first c (by simp [inside])
    · exact all t (by simp [member])
  · cases opens
    intro t member
    rcases List.mem_cons.1 member with rfl | member
    · exact forall_capitalize capital first
    · exact all t (by simp [member])

theorem forall_stepped {classifier : Classifier} {r r' : Refinement}
    (all : ∀ t ∈ r.done ++ r.rest, ∀ c ∈ t, P c) (stepped : Stepped classifier r r') :
    ∀ t ∈ r'.done ++ r'.rest, ∀ c ∈ t, P c := by
  have settled : ∀ t ∈ r.done, ∀ c ∈ t, P c := fun t member => all t (by simp [member])
  have waiting {s : Text} {rest : List Text} (head : r.rest = s :: rest) :
      ∀ t ∈ s :: rest, ∀ c ∈ t, P c :=
    fun t member => all t (by simp [head, List.mem_cons.1 member])
  cases stepped with
  | drop head =>
    intro t member
    apply all t
    rw [head]
    simp only [List.mem_append] at member ⊢
    exact member.imp_right (List.mem_cons_of_mem _)
  | @consume s sector rest after later part head nonempty opens consumed =>
    have opened := forall_opened capital (waiting head) opens
    intro t member
    rcases List.mem_append.1 member with earlier | later
    · exact settled t earlier
    · exact opened t (List.mem_cons_of_mem _ ((consume?_rest consumed).2 t later))
  | @join s sector last rest after done head nonempty opens lone follows here =>
    have opened := forall_opened capital (waiting head) opens
    intro t member
    simp only [List.mem_append, List.mem_singleton] at member
    rcases member with (earlier | rfl) | later
    · exact settled t (by simp [here, earlier])
    · intro c inside
      exact (List.mem_append.1 inside).elim (settled last (by simp [here]) c)
        (opened sector (by simp) c)
    · exact opened t (by simp [later])
  | @settle s sector rest after head nonempty opens kept apart =>
    have opened := forall_opened capital (waiting head) opens
    intro t member
    simp only [settle, List.mem_append, List.mem_singleton] at member
    rcases member with (earlier | rfl) | later
    · exact settled t earlier
    · exact opened t (by simp)
    · exact opened t (by simp [later])

end Refinement

theorem refine_forall (classifier : Classifier) {P : Char → Prop}
    (capital : ∀ c, P c → ∀ d ∈ upper c, P d) {sectors : List Text}
    (all : ∀ t ∈ sectors, ∀ c ∈ t, P c) :
    ∀ t ∈ (refine classifier sectors).sectors, ∀ c ∈ t, P c := by
  have run := Refinement.run_keeps classifier
    (P := fun r => ∀ t ∈ r.done ++ r.rest, ∀ c ∈ t, P c)
    (fun _ _ all stepped => Refinement.forall_stepped capital all stepped)
    (r := ⟨[], sectors, false, 0, {}⟩) (by simpa using all)
  intro t member
  apply run t
  simp only [refine, Refinement.result] at member
  split at member
  · exact List.mem_append_left _ (List.mem_of_mem_take member)
  · exact List.mem_append_left _ member

theorem refine_solid (classifier : Classifier) {sectors : List Text}
    (solid : ∀ t ∈ sectors, Solid t) : ∀ t ∈ (refine classifier sectors).sectors, Solid t :=
  refine_forall classifier (fun _ solid _ member => isSolid_upper solid member) solid

end MediaNaming
