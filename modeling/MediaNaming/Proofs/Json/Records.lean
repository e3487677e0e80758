import MediaNaming.Json.Record
import MediaNaming.Proofs.Json.Written
import Mathlib.Data.List.Nodup

/-
Records and the values in them. What is written under a name is what is read under it, and a value
is read back from what was written for it.
-/
namespace MediaNaming
namespace Json

variable {α : Type} {write : α → Json} {read : Json → Option α}

theorem natUpTo?_ofNat {limit n : Nat} (small : n ≤ limit) :
    natUpTo? limit (ofNat n) = some n := if_pos small

theorem signedWord?_integer {n : Int} (small : -0x80000000 ≤ n ∧ n < 0x80000000) :
    signedWord? (integer n) = some n := if_pos small

theorem list?_ofList {items : List α} (reads : ∀ a ∈ items, read (write a) = some a) :
    list? read (ofList write items) = some items := by
  rw [ofList, list?, List.mapM_map]
  induction items with
  | nil => rfl
  | cons a items ih =>
    rw [List.mapM_cons, Function.comp, reads a List.mem_cons_self,
      ih fun b member => reads b (List.mem_cons_of_mem a member)]
    rfl

/-- Null is kept apart from every value that is there. -/
theorem orNull?_ofOption {o : Option α} (absent : read null = none)
    (reads : ∀ a ∈ o, read (write a) = some a) : orNull? read (ofOption write o) = some o := by
  cases o with
  | none => rfl
  | some a =>
    have back := reads a rfl
    have some_value : write a ≠ null := by
      intro same
      rw [same, absent] at back
      contradiction
    rw [ofOption, orNull?, back, Option.map_some]
    exact some_value

theorem textual_ofOption {o : Option α} (each : ∀ a ∈ o, Textual (write a)) :
    Textual (ofOption write o) := by
  cases o with
  | none => exact .null
  | some a => exact each a rfl

theorem textual_ofList {items : List α} (each : ∀ a ∈ items, Textual (write a)) :
    Textual (ofList write items) := by
  refine .array fun item member => ?_
  obtain ⟨a, inside, rfl⟩ := List.mem_map.1 member
  exact each a inside

theorem textual_ofMembers {members : List (String × Json)}
    (each : ∀ member ∈ members, Textual member.2) : Textual (ofMembers members) := by
  refine .object (fun member inside => ?_) fun member inside => ?_
  all_goals obtain ⟨given, here, rfl⟩ := List.mem_map.1 inside
  · simp
  · exact each given here

def member (field : Text × Json) : Option Text × Json := (some field.1, field.2)

variable {names : List Text} {members : List (Option Text × Json)} {fields : List (Text × Json)}
  {name : Text} {value : Json}

theorem mem_map_member : (some name, value) ∈ fields.map member ↔ (name, value) ∈ fields := by
  simp [member, Prod.ext_iff]

theorem mapM_names :
    (members.mapM fun (name, value) => name.map fun name => (name, value)) = some fields ↔
      members = fields.map member := by
  induction members generalizing fields with
  | nil => cases fields <;> simp
  | cons first members ih =>
    obtain ⟨name, value⟩ := first
    simp only [List.mapM_cons, Option.pure_def, Option.bind_eq_bind, Option.bind_eq_some_iff,
      Option.map_eq_some_iff, Option.some.injEq, ih]
    constructor
    · rintro ⟨_, ⟨name, rfl, rfl⟩, fields, rfl, rfl⟩
      rfl
    · intro same
      cases fields with
      | nil => contradiction
      | cons field fields =>
        simp only [List.map_cons, member, List.cons.injEq, Prod.mk.injEq] at same
        obtain ⟨⟨rfl, rfl⟩, rfl⟩ := same
        exact ⟨field, ⟨field.1, rfl, rfl⟩, fields, rfl, rfl⟩

theorem knownFields?_eq_some {known : List (Text × Json)} :
    knownFields? names members = some known ↔ ∃ fields : List (Text × Json),
      members = fields.map member ∧ fields.filter (fun field => names.contains field.1) = known ∧
        (known.map Prod.fst).Nodup := by
  simp only [knownFields?, Option.bind_eq_bind, Option.bind_eq_some_iff, mapM_names]
  refine exists_congr fun fields => and_congr_right fun _ => ?_
  simp only [Option.ite_none_right_eq_some, Option.some.injEq]
  constructor
  · rintro ⟨distinct, rfl⟩
    exact ⟨rfl, distinct⟩
  · rintro ⟨rfl, distinct⟩
    exact ⟨distinct, rfl⟩

theorem lookup_eq_some (distinct : (fields.map Prod.fst).Nodup) :
    fields.lookup name = some value ↔ (name, value) ∈ fields := by
  rw [List.lookup_eq_some_iff]
  constructor
  · rintro ⟨before, after, rfl, _⟩
    simp
  · intro member
    obtain ⟨before, after, rfl⟩ := List.append_of_mem member
    refine ⟨before, after, rfl, fun field earlier => ?_⟩
    rw [List.map_append, List.nodup_append] at distinct
    have other := distinct.2.2 field.1 (List.mem_map_of_mem earlier) name (by simp)
    simpa using Ne.symm other

/-- Every name is a text, and no known name is given twice. -/
structure IsRecord (names : List Text) (members : List (Option Text × Json)) : Prop where
  named : ∀ member ∈ members, member.1 ≠ none
  once : ∀ name ∈ names, members.countP (fun member => member.1 == some name) ≤ 1

theorem named_iff : (∀ member ∈ members, member.1 ≠ none) ↔
    ∃ fields : List (Text × Json), members = fields.map member := by
  constructor
  · intro named
    induction members with
    | nil => exact ⟨[], rfl⟩
    | cons first members ih =>
      obtain ⟨fields, rfl⟩ := ih fun member inside => named member (by simp [inside])
      obtain ⟨name, same⟩ := Option.ne_none_iff_exists'.1 (named first (by simp))
      exact ⟨(name, first.2) :: fields, by simp [member, Prod.ext_iff, same]⟩
  · rintro ⟨fields, rfl⟩ given inside
    obtain ⟨field, _, rfl⟩ := List.mem_map.1 inside
    exact Option.some_ne_none field.1

theorem nodup_known : ((fields.filter fun field => names.contains field.1).map Prod.fst).Nodup ↔
    ∀ name ∈ names, (fields.map member).countP (fun member => member.1 == some name) ≤ 1 := by
  have counted (name : Text) (known : name ∈ names) :
      ((fields.filter fun field => names.contains field.1).map Prod.fst).count name =
        (fields.map member).countP fun member => member.1 == some name := by
    simp only [List.count, List.countP_map, List.countP_filter]
    apply List.countP_congr
    intro field _
    simp only [Function.comp, member, Bool.and_eq_true, beq_iff_eq, Option.some.injEq,
      List.contains_iff_mem, and_iff_left_iff_imp]
    rintro rfl
    exact known
  rw [List.nodup_iff_count_le_one]
  constructor
  · intro distinct name known
    exact counted name known ▸ distinct name
  · intro once name
    by_cases known : name ∈ names
    · exact counted name known ▸ once name known
    · rw [List.count_eq_zero_of_not_mem]
      · exact Nat.zero_le 1
      · intro inside
        obtain ⟨field, kept, rfl⟩ := List.mem_map.1 inside
        exact known (List.contains_iff_mem.1 (List.mem_filter.1 kept).2)

theorem knownFields?_isSome :
    (∃ known, knownFields? names members = some known) ↔ IsRecord names members := by
  simp only [knownFields?_eq_some]
  constructor
  · rintro ⟨_, fields, rfl, rfl, distinct⟩
    exact ⟨named_iff.2 ⟨fields, rfl⟩, nodup_known.1 distinct⟩
  · intro record
    obtain ⟨fields, rfl⟩ := named_iff.1 record.named
    exact ⟨_, fields, rfl, rfl, nodup_known.2 record.once⟩

theorem lookup_knownFields? {known : List (Text × Json)}
    (read : knownFields? names members = some known) (listed : name ∈ names) :
    known.lookup name = some value ↔ (some name, value) ∈ members := by
  obtain ⟨fields, rfl, rfl, distinct⟩ := knownFields?_eq_some.1 read
  rw [lookup_eq_some distinct, List.mem_filter, mem_map_member, List.contains_iff_mem]
  exact and_iff_left listed

theorem record?_ofMembers {members : List (String × Json)}
    (same : members.map (fun member => member.1.toList) = names) (distinct : names.Nodup) :
    ∃ fields, (ofMembers members).record? names = some fields ∧
      ∀ member ∈ members, fields.lookup member.1.toList = some member.2 := by
  let given : List (Option Text × Json) :=
    members.map fun field => (some field.1.toList, field.2)
  have record : IsRecord names given := by
    refine ⟨fun member inside => ?_, fun name listed => ?_⟩
    · obtain ⟨field, _, rfl⟩ := List.mem_map.1 inside
      exact Option.some_ne_none _
    have counted : given.countP (fun member => member.1 == some name) = names.count name := by
      rw [← same, List.count, List.countP_map, List.countP_map]
      rfl
    rw [counted]
    exact List.nodup_iff_count_le_one.1 distinct name
  obtain ⟨fields, read⟩ := knownFields?_isSome.2 record
  refine ⟨fields, read, fun member inside => ?_⟩
  have listed : member.1.toList ∈ names := same ▸ List.mem_map_of_mem inside
  exact (lookup_knownFields? read listed).2 (List.mem_map_of_mem inside)

end Json
end MediaNaming
