import Mathlib.Data.Set.Card
import MediaNaming.Proofs.Template.Directives

/-
Transparency of the group cache. A reading answers the same whatever the cache holds, keeps what is
in it and adds the groups that it extracts, each once. So a run of calls on one cache answers what
each call answers on an empty one, and the cache counts the groups that were extracted.
-/
namespace MediaNaming

abbrev GroupKey := Text × Nat

def CachedGroup.key (e : CachedGroup) : GroupKey := (e.template, e.start)

def GroupCache.keys (cache : GroupCache) : List GroupKey := cache.entries.map CachedGroup.key

def GroupKey.Found (key : GroupKey) : Prop := ∃ g, scanGroup key.1 key.2 = .ok g

theorem GroupKey.not_found {template : Text} {start : Nat} {e : NamingError}
    (failed : scanGroup template start = .error e) : ¬ GroupKey.Found (template, start) := by
  rintro ⟨g, found⟩
  rw [failed] at found
  contradiction

theorem GroupCache.found_of_mem_keys {cache : GroupCache} {key : GroupKey}
    (member : key ∈ cache.keys) : key.Found := by
  obtain ⟨e, _, rfl⟩ := List.mem_map.1 member
  exact ⟨e.found.toGroup, e.found.scanned⟩

theorem GroupCache.lookup_cases (template : Text) (start : Nat) (entries : List CachedGroup) :
    (∃ g, lookup template start entries = some g ∧
        (template, start) ∈ entries.map CachedGroup.key) ∨
      lookup template start entries = none ∧
        (template, start) ∉ entries.map CachedGroup.key := by
  induction entries with
  | nil => exact Or.inr ⟨rfl, List.not_mem_nil⟩
  | cons e more ih =>
    by_cases same : e.template = template ∧ e.start = start
    · refine Or.inl ⟨_, by rw [lookup, dif_pos same], ?_⟩
      simp [CachedGroup.key, same.1, same.2]
    · rw [lookup, dif_neg same]
      have other : (template, start) ≠ e.key := fun equal =>
        same ⟨(congrArg Prod.fst equal).symm, (congrArg Prod.snd equal).symm⟩
      simpa [other] using ih

theorem ScannedGroup.unique {template : Text} {start : Nat} (g h : ScannedGroup template start) :
    g = h := by
  obtain ⟨g, found⟩ := g
  obtain ⟨h, other⟩ := h
  obtain rfl : g = h := Except.ok.inj (found.symm.trans other)
  rfl

theorem GroupCache.extract_answer (cache : GroupCache) (template : Text) (start : Nat) :
    (cache.extract template start).1.map ScannedGroup.toGroup = scanGroup template start := by
  simp only [extract]
  split
  · rename_i g _
    exact g.scanned.symm
  · split
    · rename_i g found
      exact found.symm
    · rename_i e failed
      exact failed.symm

theorem GroupCache.extract_cases (cache : GroupCache) (template : Text) (start : Nat) :
    (cache.extract template start).2 = cache ∧
        (GroupKey.Found (template, start) → (template, start) ∈ cache.keys) ∨
      (∃ e : CachedGroup, e.key = (template, start) ∧
          (cache.extract template start).2 = ⟨e :: cache.entries⟩) ∧
        (template, start) ∉ cache.keys := by
  rcases lookup_cases template start cache.entries with ⟨g, hit, member⟩ | ⟨missed, absent⟩
  · exact Or.inl ⟨by simp only [extract, hit], fun _ => member⟩
  · simp only [extract, missed]
    split
    case h_1 g found => exact Or.inr ⟨⟨_, rfl, rfl⟩, absent⟩
    case h_2 e failed =>
      exact Or.inl ⟨rfl, fun found => absurd found (GroupKey.not_found failed)⟩

theorem GroupCache.extract_failed {template : Text} {start : Nat} {e : NamingError}
    (failed : scanGroup template start = .error e) (cache : GroupCache) :
    (cache.extract template start).2 = cache := by
  rcases cache.extract_cases template start with ⟨same, _⟩ | ⟨⟨entry, here, _⟩, _⟩
  · exact same
  · exact absurd (here ▸ ⟨_, entry.found.scanned⟩) (GroupKey.not_found failed)

namespace TemplateReader

variable {α β : Type}

/-- A reading answers the same whatever the cache holds; it keeps the entries and adds exactly the
    keys that it opens, each once. -/
structure Opens (x : TemplateReader α) (opened : GroupKey → Prop) : Prop where
  answer : ∀ cache, (x cache).1 = (x {}).1
  kept : ∀ cache, cache.entries <:+ (x cache).2.entries
  distinct : ∀ cache, cache.keys.Nodup → (x cache).2.keys.Nodup
  keys : ∀ cache key, key ∈ (x cache).2.keys ↔ key ∈ cache.keys ∨ opened key

variable {x : TemplateReader α} {opened : GroupKey → Prop}

theorem opens_pure (a : α) : Opens (pure a) fun _ => False where
  answer _ := rfl
  kept _ := List.suffix_refl _
  distinct _ clean := clean
  keys _ _ := (or_iff_left not_false).symm

theorem opens_throw (e : NamingError) : Opens (throw e : TemplateReader α) fun _ => False where
  answer _ := rfl
  kept _ := List.suffix_refl _
  distinct _ clean := clean
  keys _ _ := (or_iff_left not_false).symm

theorem Opens.same {other : GroupKey → Prop} (opens : Opens x opened)
    (equal : ∀ key, opened key ↔ other key) : Opens x other :=
  { opens with keys := fun cache key => (opens.keys cache key).trans (or_congr_right (equal key)) }

theorem bind_cases (x : TemplateReader α) (f : α → TemplateReader β) (cache : GroupCache) :
    (∃ a, (x cache).1 = .ok a ∧ (x >>= f) cache = f a (x cache).2) ∨
      ∃ e, (x cache).1 = .error e ∧ (x >>= f) cache = (.error e, (x cache).2) := by
  simp only [Bind.bind, ExceptT.bind, ExceptT.mk, StateT.bind]
  rcases x cache with ⟨result, next⟩
  cases result with
  | error e => exact Or.inr ⟨e, rfl, rfl⟩
  | ok a => exact Or.inl ⟨a, rfl, rfl⟩

theorem Opens.bind {f : α → TemplateReader β} {later : α → GroupKey → Prop} (first : Opens x opened)
    (more : ∀ a, Opens (f a) (later a)) :
    Opens (x >>= f) fun key => opened key ∨ ∃ a, (x {}).1 = .ok a ∧ later a key where
  answer cache := by
    -- the first reading answers the same on both caches, so both go on alike
    rcases bind_cases x f cache with ⟨a, here, ran⟩ | ⟨e, here, ran⟩ <;>
      rcases bind_cases x f {} with ⟨b, fresh, alone⟩ | ⟨d, fresh, alone⟩ <;>
      rw [first.answer, fresh] at here <;> cases here
    · rw [ran, alone, (more a).answer, (more a).answer (x {}).2]
    · rw [ran, alone]
  kept cache := by
    rcases bind_cases x f cache with ⟨a, _, ran⟩ | ⟨e, _, ran⟩ <;> rw [ran]
    · exact (first.kept cache).trans ((more a).kept _)
    · exact first.kept cache
  distinct cache clean := by
    rcases bind_cases x f cache with ⟨a, _, ran⟩ | ⟨e, _, ran⟩ <;> rw [ran]
    · exact (more a).distinct _ (first.distinct cache clean)
    · exact first.distinct cache clean
  keys cache key := by
    rcases bind_cases x f cache with ⟨a, here, ran⟩ | ⟨e, here, ran⟩ <;>
      rw [ran] <;> rw [first.answer] at here
    · simp [(more a).keys, first.keys, here, or_assoc]
    · simp [first.keys, here]

theorem extract_answer_eq (template : Text) (start : Nat) (cache other : GroupCache) :
    (extract template start cache).1 = (extract template start other).1 := by
  have same := (cache.extract_answer template start).trans (other.extract_answer template start).symm
  simp only [extract]
  cases here : (cache.extract template start).1 <;>
    cases there : (other.extract template start).1 <;>
    simp only [here, there, Except.map, Except.ok.injEq, Except.error.injEq, reduceCtorEq] at same
  · rw [same]
  · exact congrArg Except.ok (ScannedGroup.unique _ _)

theorem extract_scanned {template : Text} {start : Nat} (g : ScannedGroup template start)
    (cache : GroupCache) : (extract template start cache).1 = .ok g := by
  have answer := (cache.extract_answer template start).trans g.scanned
  simp only [extract]
  cases here : (cache.extract template start).1 with
  | error e => simp [here, Except.map] at answer
  | ok h => exact congrArg Except.ok (h.unique g)

theorem opens_extract (template : Text) (start : Nat) :
    Opens (extract template start) fun key => key = (template, start) ∧ key.Found where
  answer cache := extract_answer_eq template start cache {}
  kept cache := by
    rcases cache.extract_cases template start with ⟨same, _⟩ | ⟨⟨e, _, added⟩, _⟩
    · rw [extract, same]
    · exact ⟨[e], by rw [extract, added]; rfl⟩
  distinct cache clean := by
    rcases cache.extract_cases template start with ⟨same, _⟩ | ⟨⟨e, here, added⟩, absent⟩
    · rwa [extract, same]
    · rw [extract, added]
      exact List.nodup_cons.2 ⟨here ▸ absent, clean⟩
  keys cache key := by
    rcases cache.extract_cases template start with ⟨same, there⟩ | ⟨⟨e, here, added⟩, absent⟩
    · rw [extract, same]
      refine ⟨Or.inl, fun member => member.elim id ?_⟩
      rintro ⟨rfl, found⟩
      exact there found
    · have found : GroupKey.Found (template, start) := here ▸ ⟨e.found.toGroup, e.found.scanned⟩
      rw [extract, added]
      simp only [GroupCache.keys, List.map_cons, List.mem_cons, here]
      rw [or_comm]
      refine or_congr_right ⟨?_, And.left⟩
      rintro rfl
      exact ⟨rfl, found⟩

end TemplateReader

namespace Directive
open TemplateReader

mutual

inductive OpensAt : Text → Nat → GroupKey → Prop
  | own {template rest : Text} {index : Nat} {g : Group}
      (here : template.dropBytes? index = some ('?' :: '(' :: rest))
      (found : scanGroup template (index + 1) = .ok g) : OpensAt template index (template, index + 1)
  | inner {template rest : Text} {index : Nat} {g : Group} {key : GroupKey}
      (here : template.dropBytes? index = some ('?' :: '(' :: rest))
      (found : scanGroup template (index + 1) = .ok g) (content : OpensFrom g.content 0 key) :
      OpensAt template index key
  | optional {template rest : Text} {index : Nat} {c : Char} {key : GroupKey}
      (here : template.dropBytes? index = some ('?' :: c :: rest)) (single : c ≠ '(')
      (conditional : OpensAt template (index + 1) key) : OpensAt template index key

inductive OpensFrom : Text → Nat → GroupKey → Prop
  | first {template : Text} {index : Nat} {key : GroupKey} (inside : index < template.byteSize)
      (now : OpensAt template index key) : OpensFrom template index key
  | later {template : Text} {index : Nat} {key : GroupKey} (inside : index < template.byteSize)
      {found : DirectiveAt template index} (read : (readAt template index {}).1 = .ok found)
      (more : OpensFrom template found.next key) : OpensFrom template index key

end

variable {template rest : Text} {index : Nat} {key : GroupKey}

theorem opensAt_group (here : template.dropBytes? index = some ('?' :: '(' :: rest)) :
    OpensAt template index key ↔ (key = (template, index + 1) ∧ key.Found) ∨
      ∃ g, scanGroup template (index + 1) = .ok g ∧ OpensFrom g.content 0 key := by
  constructor
  · intro opens
    cases opens with
    | own _ found => exact Or.inl ⟨rfl, _, found⟩
    | inner _ found content => exact Or.inr ⟨_, found, content⟩
    | optional other single _ =>
      cases here.symm.trans other
      exact absurd rfl single
  · rintro (⟨rfl, g, found⟩ | ⟨g, found, content⟩)
    · exact .own here found
    · exact .inner here found content

theorem opensAt_optional {c : Char} (here : template.dropBytes? index = some ('?' :: c :: rest))
    (single : c ≠ '(') : OpensAt template index key ↔ OpensAt template (index + 1) key := by
  constructor
  · intro opens
    cases opens with
    | own other _ =>
      cases here.symm.trans other
      exact absurd rfl single
    | inner other _ _ =>
      cases here.symm.trans other
      exact absurd rfl single
    | optional _ _ conditional => exact conditional
  · exact .optional here single

theorem not_opensAt
    (none : ∀ c rest, template.dropBytes? index ≠ some ('?' :: c :: rest)) :
    ¬ OpensAt template index key := by
  intro opens
  cases opens with
  | own here _ => exact none _ _ here
  | inner here _ _ => exact none _ _ here
  | optional here _ _ => exact none _ _ here

theorem opensFrom_inside (inside : index < template.byteSize) :
    OpensFrom template index key ↔ OpensAt template index key ∨
      ∃ found, (readAt template index {}).1 = .ok found ∧ OpensFrom template found.next key := by
  constructor
  · intro opens
    cases opens with
    | first _ now => exact Or.inl now
    | later _ read more => exact Or.inr ⟨_, read, more⟩
  · rintro (now | ⟨found, read, more⟩)
    · exact .first inside now
    · exact .later inside read more

theorem reading_opens :
    (∀ template index, Opens (readAt template index) (OpensAt template index)) ∧
      ∀ template index, Opens (readFrom template index) (OpensFrom template index) := by
  apply reading_induct
  case outside =>
    intro template index here
    rw [readAt_outside here]
    refine (opens_pure _).same fun key => ?_
    simpa using not_opensAt (by simp [here])
  case plain =>
    intro template index t d rest here plain
    obtain ⟨found, reads, _, _⟩ := readAt_plain here plain
    rw [reads]
    refine (opens_pure _).same fun key => ?_
    simpa using not_opensAt (by cases plain <;> simp_all)
  case group =>
    intro template index rest here inner
    rw [readAt_group here]
    refine ((opens_extract _ _).bind fun g => (inner g).bind fun _ => opens_pure _).same fun key => ?_
    rw [opensAt_group here]
    refine or_congr_right ⟨?_, ?_⟩
    · rintro ⟨g, _, content | ⟨_, _, none⟩⟩
      · exact ⟨g.toGroup, g.scanned, content⟩
      · exact none.elim
    · rintro ⟨g, found, content⟩
      exact ⟨⟨g, found⟩, extract_scanned _ _, Or.inl content⟩
  case optional =>
    intro template index c rest here single inner
    rw [readAt_optional here single]
    refine (inner.bind fun found => (?_ : Opens _ fun _ => False)).same fun key => ?_
    · split
      · exact opens_pure _
      · exact opens_throw _
    · simp [opensAt_optional here single]
  case done =>
    intro template index outside
    rw [readFrom, dif_neg (by omega)]
    refine (opens_pure _).same fun key => ?_
    refine ⟨False.elim, fun opens => ?_⟩
    cases opens with
    | first inside _ => omega
    | later inside _ _ => omega
  case more =>
    intro template index inside first later
    rw [readFrom, dif_pos inside]
    refine (first.bind fun found => (later found).bind fun _ => opens_pure _).same fun key => ?_
    simp [opensFrom_inside inside]

end Directive

inductive TemplateCall
  | render (template : Text) (fields : Fields)
  | renderAt (template : Text) (index : Nat) (fields : Fields)
  | extract (template : Text) (start : Nat)

inductive TemplateAnswer
  | text (t : Text)
  | directive (shown : Rendered) (next : Nat)
  | group (g : Group)

namespace TemplateCall

def read : TemplateCall → TemplateReader TemplateAnswer
  | render template fields => do return .text (← renderTemplate template fields)
  | renderAt template index fields => do
    let (shown, next) ← MediaNaming.renderAt template index fields
    return .directive shown next
  | extract template start => do return .group (← TemplateReader.extract template start).toGroup

def alone (call : TemplateCall) : Except NamingError TemplateAnswer := (call.read {}).1

def Opens : TemplateCall → GroupKey → Prop
  | render template _ => Directive.OpensFrom template 0
  | renderAt template index _ => Directive.OpensAt template index
  | extract template start => fun key => key = (template, start) ∧ key.Found

def run : List TemplateCall → GroupCache → List (Except NamingError TemplateAnswer) × GroupCache
  | [], cache => ([], cache)
  | call :: more, cache =>
    let (answer, next) := call.read cache
    let (answers, last) := run more next
    (answer :: answers, last)

theorem run_cons (call : TemplateCall) (more : List TemplateCall) (cache : GroupCache) :
    run (call :: more) cache =
      ((call.read cache).1 :: (run more (call.read cache).2).1, (run more (call.read cache).2).2) := rfl

theorem run_append (calls more : List TemplateCall) (cache : GroupCache) :
    (run (calls ++ more) cache).2 = (run more (run calls cache).2).2 := by
  induction calls generalizing cache with
  | nil => rfl
  | cons call calls ih => exact ih (call.read cache).2

theorem read_opens (call : TemplateCall) : TemplateReader.Opens call.read call.Opens := by
  cases call with
  | render template fields =>
    have reads := Directive.reading_opens.2 template 0
    refine ((reads.bind fun _ => TemplateReader.opens_pure _).bind
      fun _ => TemplateReader.opens_pure _).same fun key => ?_
    simp [Opens]
  | renderAt template index fields =>
    have reads := Directive.reading_opens.1 template index
    refine ((reads.bind fun _ => TemplateReader.opens_pure _).bind
      fun _ => TemplateReader.opens_pure _).same fun key => ?_
    simp [Opens]
  | extract template start =>
    have reads := TemplateReader.opens_extract template start
    refine (reads.bind fun _ => TemplateReader.opens_pure _).same fun key => ?_
    simp [Opens]

theorem run_opens (calls : List TemplateCall) (cache : GroupCache) :
    (run calls cache).1 = calls.map alone ∧
      cache.entries <:+ (run calls cache).2.entries ∧
      (cache.keys.Nodup → (run calls cache).2.keys.Nodup) ∧
      ∀ key, key ∈ (run calls cache).2.keys ↔
        key ∈ cache.keys ∨ ∃ call ∈ calls, call.Opens key := by
  induction calls generalizing cache with
  | nil => simp [run]
  | cons call more ih =>
    have first := read_opens call
    obtain ⟨answers, kept, distinct, keys⟩ := ih (call.read cache).2
    rw [run_cons]
    refine ⟨?_, (first.kept cache).trans kept, fun clean => distinct (first.distinct cache clean), ?_⟩
    · rw [answers, first.answer]
      rfl
    · intro key
      simp [keys, first.keys, or_assoc]

/-- The cache only saves work: on one cache, each call answers what it answers alone; what is in the
    cache is what a scan finds, stays there, and is there once for each group extracted. -/
theorem run_transparent (calls : List TemplateCall) :
    (run calls {}).1 = calls.map alone ∧
      (∀ e ∈ (run calls {}).2.entries, scanGroup e.template e.start = .ok e.found.toGroup) ∧
      (∀ more, (run calls {}).2.entries <:+ (run (calls ++ more) {}).2.entries) ∧
      (∀ template start e, scanGroup template start = .error e →
        (template, start) ∉ (run calls {}).2.keys ∧
          (run (calls ++ [extract template start]) {}).2 = (run calls {}).2) ∧
      (run calls {}).2.size = {key | ∃ call ∈ calls, call.Opens key}.ncard := by
  obtain ⟨answers, _, distinct, keys⟩ := run_opens calls {}
  refine ⟨answers, fun e _ => e.found.scanned, fun more => ?_, fun template start e failed => ?_, ?_⟩
  · rw [run_append]
    exact (run_opens more _).2.1
  · have absent := GroupKey.not_found failed
    refine ⟨fun member => absent (GroupCache.found_of_mem_keys member), ?_⟩
    rw [run_append, run_cons, run, read]
    rcases TemplateReader.bind_cases (TemplateReader.extract template start)
      (fun g => pure (TemplateAnswer.group g.toGroup)) (run calls {}).2 with
      ⟨g, _, ran⟩ | ⟨_, _, ran⟩ <;> rw [ran]
    · exact GroupCache.extract_failed failed _
    · exact GroupCache.extract_failed failed _
  · have opened : {key | ∃ call ∈ calls, call.Opens key} =
        ((run calls {}).2.keys.toFinset : Set GroupKey) := by
      have none : ∀ key, key ∉ ({} : GroupCache).keys := fun _ => List.not_mem_nil
      ext key
      simp [keys, none]
    rw [opened, Set.ncard_coe_finset, List.toFinset_card_of_nodup (distinct List.nodup_nil)]
    simp [GroupCache.size, GroupCache.keys]

end TemplateCall

end MediaNaming
