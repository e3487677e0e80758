import MediaNaming.Naming.Configuration
import MediaNaming.Proofs.Json.Records

/-
Configurations in documents. A document is an object with some of the keys, in any order and among
members that mean nothing here. Each key that it gives replaces the default, and it is refused if a
key is given twice or has a value of another type.
-/
namespace MediaNaming

namespace Json

variable {α : Type} {write : α → Json} {read : Json → Option α} {fields : List (Text × Json)}
  {name : Text}

theorem fieldOr?_eq_some {default a : α} (exact : ∀ v a, read v = some a ↔ v = write a) :
    fieldOr? fields name default read = some a ↔
      (fields.lookup name).getD (write default) = write a := by
  rw [fieldOr?, ← exact]
  cases fields.lookup name with
  | some v => rfl
  | none => rw [Option.getD_none, (exact _ default).2 rfl]

theorem text?_eq_some (v : Json) (t : Text) : v.text? = some t ↔ v = ofText t := by
  cases v <;> simp [text?, ofText]

theorem bool?_eq_some (v : Json) (b : Bool) : v.bool? = some b ↔ v = bool b := by
  cases v <;> simp [bool?]

end Json

namespace Configuration

inductive Key
  | episodeFormat
  | movieFormat
  | episodeFolder
  | movieFolder
  | lookupEnabled
  | alwaysConfirm
deriving DecidableEq

namespace Key

def all : List Key :=
  [episodeFormat, movieFormat, episodeFolder, movieFolder, lookupEnabled, alwaysConfirm]

def name : Key → Text
  | episodeFormat => "tv_format".toList
  | movieFormat => "movie_format".toList
  | episodeFolder => "tv_subdirectory".toList
  | movieFolder => "movie_subdirectory".toList
  | lookupEnabled => "lookup_enabled".toList
  | alwaysConfirm => "always_confirm".toList

def value (c : Configuration) : Key → Json
  | episodeFormat => .ofText c.episodeFormat
  | movieFormat => .ofText c.movieFormat
  | episodeFolder => .ofText c.episodeFolder
  | movieFolder => .ofText c.movieFolder
  | lookupEnabled => .bool c.lookupEnabled
  | alwaysConfirm => .bool c.alwaysConfirm

def accepts (v : Json) : Key → Bool
  | lookupEnabled | alwaysConfirm => v.bool?.isSome
  | _ => v.text?.isSome

def entry (c : Configuration) (k : Key) : Option Text × Json := (some k.name, k.value c)

variable {k l : Key}

theorem mem_all (k : Key) : k ∈ all := by
  cases k <;> decide

theorem name_injective (same : k.name = l.name) : k = l := by
  revert same
  cases k <;> cases l <;> decide

theorem accepts_value (c : Configuration) (k : Key) : k.accepts (k.value c) = true := by
  cases k <;> rfl

end Key

theorem fieldNames_eq : fieldNames = Key.all.map Key.name := rfl

theorem toJson_eq (c : Configuration) : c.toJson = .object (Key.all.map (Key.entry c)) := rfl

theorem textual_toJson (c : Configuration) : c.toJson.Textual := by
  apply Json.textual_ofMembers
  simp only [List.forall_mem_cons]
  exact ⟨.string _, .string _, .string _, .string _, .bool _, .bool _, nofun⟩

theorem mem_fieldNames {name : Text} : name ∈ fieldNames ↔ ∃ k : Key, k.name = name := by
  simp only [fieldNames_eq, List.mem_map, Key.mem_all, true_and]

theorem name_mem_fieldNames (k : Key) : k.name ∈ fieldNames := mem_fieldNames.2 ⟨k, rfl⟩

theorem ofJson?_eq_some {json : Json} {c : Configuration} :
    ofJson? json = some c ↔ ∃ fields, json.shortRecord? fieldNames = some fields ∧
      ∀ k : Key, (fields.lookup k.name).getD (k.value {}) = k.value c := by
  simp only [ofJson?, Option.bind_eq_bind, Option.bind_eq_some_iff, Option.pure_def,
    Option.some.injEq, Json.fieldOr?_eq_some Json.text?_eq_some,
    Json.fieldOr?_eq_some Json.bool?_eq_some]
  refine exists_congr fun fields => and_congr_right fun _ => ?_
  constructor
  · rintro ⟨_, h₁, _, h₂, _, h₃, _, h₄, _, h₅, _, h₆, rfl⟩ k
    cases k with
    | episodeFormat => exact h₁
    | movieFormat => exact h₂
    | episodeFolder => exact h₃
    | movieFolder => exact h₄
    | lookupEnabled => exact h₅
    | alwaysConfirm => exact h₆
  · intro given
    exact ⟨_, given .episodeFormat, _, given .movieFormat, _, given .episodeFolder, _,
      given .movieFolder, _, given .lookupEnabled, _, given .alwaysConfirm, rfl⟩

/-- The members describe the configuration: no key is given twice, and each has the value that it is
    given or else the default. -/
structure Described (members : List (Option Text × Json)) (c : Configuration) : Prop
    extends Json.IsRecord fieldNames members where
  given : ∀ (k : Key) v, (some k.name, v) ∈ members → k.value c = v
  absent : ∀ k : Key, (∀ v, (some k.name, v) ∉ members) → k.value c = k.value {}

theorem ofJson?_object {members : List (Option Text × Json)} {c : Configuration} :
    ofJson? (.object members) = some c ↔ Described members c := by
  rw [ofJson?_eq_some]
  constructor
  · rintro ⟨fields, read, values⟩
    refine ⟨Json.knownFields?_isSome.1 ⟨fields, read⟩, fun k v inside => ?_, fun k absent => ?_⟩
    · rw [← values k, (Json.lookup_knownFields? read (name_mem_fieldNames k)).2 inside]
      rfl
    · rw [← values k]
      cases here : fields.lookup k.name with
      | none => rfl
      | some v =>
        have inside := (Json.lookup_knownFields? read (name_mem_fieldNames k)).1 here
        exact absurd inside (absent v)
  · intro described
    obtain ⟨fields, read⟩ := Json.knownFields?_isSome.2 described.toIsRecord
    refine ⟨fields, read, fun k => ?_⟩
    cases here : fields.lookup k.name with
    | some v =>
      have inside := (Json.lookup_knownFields? read (name_mem_fieldNames k)).1 here
      exact (described.given k v inside).symm
    | none =>
      refine (described.absent k fun v inside => ?_).symm
      rw [(Json.lookup_knownFields? read (name_mem_fieldNames k)).2 inside] at here
      contradiction

def restrictedTo (c : Configuration) (keys : List Key) : Configuration where
  episodeFormat := (if .episodeFormat ∈ keys then c else {}).episodeFormat
  movieFormat := (if .movieFormat ∈ keys then c else {}).movieFormat
  episodeFolder := (if .episodeFolder ∈ keys then c else {}).episodeFolder
  movieFolder := (if .movieFolder ∈ keys then c else {}).movieFolder
  lookupEnabled := (if .lookupEnabled ∈ keys then c else {}).lookupEnabled
  alwaysConfirm := (if .alwaysConfirm ∈ keys then c else {}).alwaysConfirm

theorem value_restrictedTo (c : Configuration) (keys : List Key) (k : Key) :
    k.value (c.restrictedTo keys) = k.value (if k ∈ keys then c else {}) := by
  cases k <;> rfl

theorem restrictedTo_all (c : Configuration) : c.restrictedTo Key.all = c := by
  rw [restrictedTo]
  iterate 6 rw [if_pos (Key.mem_all _)]

section Entries

variable {c : Configuration} {keys : List Key} {k : Key} {v : Json}

theorem mem_entries : (some k.name, v) ∈ keys.map (Key.entry c) ↔ k ∈ keys ∧ k.value c = v := by
  rw [List.mem_map]
  constructor
  · rintro ⟨l, listed, same⟩
    obtain ⟨name, value⟩ := Prod.mk.inj same
    obtain rfl := Key.name_injective (Option.some.inj name)
    exact ⟨listed, value⟩
  · rintro ⟨listed, rfl⟩
    exact ⟨k, listed, rfl⟩

theorem countP_entries :
    (keys.map (Key.entry c)).countP (fun member => member.1 == some k.name) = keys.count k := by
  rw [List.countP_map, List.count]
  refine List.countP_congr fun l _ => ?_
  simp only [Function.comp, Key.entry, beq_iff_eq, Option.some.injEq]
  exact ⟨Key.name_injective, congrArg Key.name⟩

end Entries

variable {members others : List (Option Text × Json)} {document : Text}

theorem not_key_of_unknown (unknown : ∀ member ∈ others, ∃ name ∉ fieldNames, member.1 = some name)
    {member : Option Text × Json} (inside : member ∈ others) (k : Key) :
    member.1 ≠ some k.name := by
  intro named
  obtain ⟨name, other, same⟩ := unknown member inside
  obtain rfl := Option.some.inj (same.symm.trans named)
  exact other (name_mem_fieldNames k)

theorem described_restrictedTo (c : Configuration) {keys : List Key} (distinct : keys.Nodup)
    (unknown : ∀ member ∈ others, ∃ name ∉ fieldNames, member.1 = some name)
    (shuffled : members.Perm (keys.map (Key.entry c) ++ others)) :
    Described members (c.restrictedTo keys) := by
  have given (k : Key) (v : Json) : (some k.name, v) ∈ members ↔ k ∈ keys ∧ k.value c = v := by
    rw [shuffled.mem_iff, List.mem_append, mem_entries]
    exact or_iff_left fun foreign => not_key_of_unknown unknown foreign k rfl
  refine { named := fun member inside => ?named, once := fun name known => ?once,
           given := fun k v inside => ?given, absent := fun k none => ?absent }
  case named =>
    rcases List.mem_append.1 (shuffled.mem_iff.1 inside) with described | foreign
    · obtain ⟨k, _, rfl⟩ := List.mem_map.1 described
      exact Option.some_ne_none k.name
    · obtain ⟨name, _, same⟩ := unknown member foreign
      rw [same]
      exact Option.some_ne_none name
  case once =>
    obtain ⟨k, rfl⟩ := mem_fieldNames.1 known
    have elsewhere : others.countP (fun member => member.1 == some k.name) = 0 := by
      refine List.countP_eq_zero.2 fun member foreign same => ?_
      exact not_key_of_unknown unknown foreign k (beq_iff_eq.1 same)
    rw [shuffled.countP_eq, List.countP_append, countP_entries, elsewhere]
    exact List.nodup_iff_count_le_one.1 distinct k
  case given =>
    obtain ⟨listed, same⟩ := (given k v).1 inside
    rw [value_restrictedTo, if_pos listed, same]
  case absent =>
    rw [value_restrictedTo, if_neg]
    intro listed
    exact none _ ((given k _).2 ⟨listed, rfl⟩)

theorem read_of_described {c : Configuration}
    (parsed : Json.read? document = some (.object members)) (described : Described members c) :
    read document = .ok c := by
  rw [read, parsed, Option.bind_some, ofJson?_object.2 described]

theorem read_overrides :
    (∀ (c : Configuration) (keys : List Key) (members others : List (Option Text × Json))
        (document : Text), keys.Nodup →
        (∀ member ∈ others, ∃ name ∉ fieldNames, member.1 = some name) →
        members.Perm (keys.map (Key.entry c) ++ others) →
        Json.read? document = some (.object members) →
        read document = .ok (c.restrictedTo keys)) ∧
      (∀ c : Configuration, read (Json.write c.toJson) = .ok c) ∧
      ∀ (members : List (Option Text × Json)) (document : Text),
        Json.read? document = some (.object members) →
        (∃ k : Key, 1 < members.countP fun member => member.1 == some k.name) ∨
          (∃ (k : Key) (v : Json), (some k.name, v) ∈ members ∧ k.accepts v = false) →
        read document = .error .invalidConfig := by
  refine ⟨fun c keys members others document distinct unknown shuffled parsed => ?_, fun c => ?_,
    fun members document parsed wrong => ?_⟩
  · exact read_of_described parsed (described_restrictedTo c distinct unknown shuffled)
  · have parsed := Json.read?_write (textual_toJson c)
    rw [toJson_eq] at parsed
    have whole : (Key.all.map (Key.entry c)).Perm (Key.all.map (Key.entry c) ++ []) := by
      rw [List.append_nil]
    have described := described_restrictedTo c (by decide) (List.forall_mem_nil _) whole
    rw [restrictedTo_all] at described
    exact read_of_described parsed described
  · rw [read, parsed, Option.bind_some]
    cases read : ofJson? (.object members) with
    | none => rfl
    | some c =>
      have described := ofJson?_object.1 read
      rcases wrong with ⟨k, twice⟩ | ⟨k, v, inside, refused⟩
      · have once := described.once _ (name_mem_fieldNames k)
        omega
      · rw [← described.given k v inside, Key.accepts_value] at refused
        contradiction

theorem read_overrides_partial :
    let c : Configuration := { episodeFormat := ['N'], movieFormat := ['C'], lookupEnabled := true }
    read "\x7b\"x\": [1, null], \"lookup_enabled\": true, \"tv_format\": \"N\"\x7d".toList =
        .ok { episodeFormat := ['N'], lookupEnabled := true } ∧
      read (Json.write c.toJson) = .ok c ∧
      read "\x7b\"tv_format\": null\x7d".toList = .error .invalidConfig := by
  intro c
  obtain ⟨overriding, back, refusing⟩ := read_overrides
  refine ⟨?_, back c, ?_⟩
  · let others : List (Option Text × Json) := [(some ['x'], .array [.integer 1, .null])]
    exact overriding c [.lookupEnabled, .episodeFormat]
      (others ++ [Key.lookupEnabled.entry c, Key.episodeFormat.entry c]) others _ (by decide)
      (List.forall_mem_singleton.2 ⟨['x'], by decide, rfl⟩) List.perm_append_comm rfl
  · exact refusing [(some Key.episodeFormat.name, .null)] _ rfl
      (.inr ⟨.episodeFormat, .null, by simp, rfl⟩)

end Configuration
end MediaNaming
