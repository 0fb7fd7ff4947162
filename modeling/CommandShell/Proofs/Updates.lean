import CommandShell.Aliases
import CommandShell.Environment
import Mathlib.Data.List.Induction
import Mathlib.Data.Nat.Find
import Mathlib.Order.Bounds.Basic

namespace CommandShell

/-! What a store holds can be told from its updates alone: the last update of a key decides
whether it is there and with which value, and the keys stand in the order in which they
came to stay. -/

namespace Store

/-- What can be done to a store. -/
inductive Update (κ ν : Type) where
  | set (key : κ) (value : ν)
  | unset (key : κ)
  deriving DecidableEq, Repr

namespace Update

variable {κ ν : Type}

def key : Update κ ν → κ
  | set key _ => key
  | unset key => key

/-- The value that the key has after the update. -/
def value? : Update κ ν → Option ν
  | set _ value => some value
  | unset _ => none

def ofPair (pair : κ × ν) : Update κ ν :=
  .set pair.1 pair.2

@[simp] theorem key_set (key : κ) (value : ν) : (set key value).key = key := rfl

theorem eq_set_iff (update : Update κ ν) (key : κ) (value : ν) :
    update = .set key value ↔ update.key = key ∧ update.value? = some value := by
  cases update <;> simp [Update.key, value?]

end Update

variable {κ ν : Type} [DecidableEq κ]

def update (store : Store κ ν) : Update κ ν → Store κ ν
  | .set key value => store.set key value
  | .unset key => store.unset key

def updateAll (store : Store κ ν) (updates : List (Update κ ν)) : Store κ ν :=
  updates.foldl update store

theorem updateAll_concat (store : Store κ ν) (updates : List (Update κ ν)) (last : Update κ ν) :
    store.updateAll (updates ++ [last]) = (store.updateAll updates).update last := by
  rw [updateAll, List.foldl_append]
  rfl

/-- An initial list counts as updates that set its pairs. -/
theorem updateAll_ofList (pairs : List (κ × ν)) (updates : List (Update κ ν)) :
    (ofList pairs).updateAll updates = empty.updateAll (pairs.map .ofPair ++ updates) := by
  rw [updateAll, updateAll, List.foldl_append, List.foldl_map]
  rfl

theorem get?_update (store : Store κ ν) (update : Update κ ν) (key : κ) :
    (store.update update).get? key =
      if update.key = key then update.value? else store.get? key := by
  split
  next same =>
    subst same
    cases update with
    | set key value => exact store.get?_set_self key value
    | unset key => exact store.get?_unset_self key
  next different =>
    cases update with
    | set other value => exact store.get?_set_of_ne value (Ne.symm different)
    | unset other => exact store.get?_unset_of_ne (Ne.symm different)

theorem mem_keys_iff (store : Store κ ν) (key : κ) :
    key ∈ store.keys ↔ ∃ value, store.get? key = some value := by
  rw [← Option.isSome_iff_exists, Option.isSome_iff_ne_none, Ne, get?_eq_none_iff, not_not]

theorem unset_eq_self_iff (store : Store κ ν) (key : κ) :
    store.unset key = store ↔ key ∉ store.keys := by
  constructor
  · intro same known
    have kept := congrArg keys same
    rw [keys_unset, List.filter_eq_self] at kept
    simpa using kept key known
  · intro unknown
    have kept : (store.entries.filter fun entry => decide (entry.1 ≠ key)) = store.entries := by
      refine List.filter_eq_self.mpr fun entry member => ?_
      have known : entry.1 ∈ store.keys := List.mem_map_of_mem member
      simpa using fun same : entry.1 = key => unknown (same ▸ known)
    rcases store with ⟨entries, distinct⟩
    simp only [unset, restrict, kept]

/-! ## Values -/

/-- The update is one of these, and no later one has its key. -/
def IsLatest (updates : List (Update κ ν)) (update : Update κ ν) : Prop :=
  ∃ before after, updates = before ++ update :: after ∧
    ∀ later ∈ after, later.key ≠ update.key

omit [DecidableEq κ] in
theorem isLatest_concat (updates : List (Update κ ν)) (last update : Update κ ν) :
    IsLatest (updates ++ [last]) update ↔
      last = update ∨ last.key ≠ update.key ∧ IsLatest updates update := by
  constructor
  · rintro ⟨before, after, whole, apart⟩
    rcases after.eq_nil_or_concat with rfl | ⟨between, final, rfl⟩
    · exact .inl (List.cons.inj (List.append_inj' whole rfl).2).1
    · rw [List.concat_eq_append, ← List.cons_append, ← List.append_assoc] at whole
      rcases List.append_inj' whole rfl with ⟨rfl, ⟨⟩⟩
      simp only [List.concat_eq_append, List.mem_append, List.mem_singleton] at apart
      exact .inr ⟨apart last (.inr rfl), before, between, rfl,
        fun later member => apart later (.inl member)⟩
  · rintro (rfl | ⟨apart, before, after, rfl, others⟩)
    · exact ⟨updates, [], rfl, by simp⟩
    · refine ⟨before, after ++ [last], by simp, fun later member => ?_⟩
      rcases List.mem_append.mp member with member | member
      · exact others later member
      · rwa [List.mem_singleton.mp member]

/-- A key has a value exactly if its last update has set it to that value. -/
theorem get?_updateAll_iff (updates : List (Update κ ν)) (key : κ) (value : ν) :
    (empty.updateAll updates).get? key = some value ↔ IsLatest updates (.set key value) := by
  induction updates using List.reverseRecOn with
  | nil => simp [updateAll, get?, empty, IsLatest]
  | append_singleton updates last induction =>
    rw [updateAll_concat, get?_update, isLatest_concat, Update.eq_set_iff, ← induction,
      Update.key_set]
    by_cases same : last.key = key <;> simp [same]

/-! ## Order -/

/-- The key is set at this place, and is not removed behind it. -/
structure SetToStay (updates : List (Update κ ν)) (key : κ) (place : Nat) : Prop where
  sets : ∃ value, updates[place]? = some (.set key value)
  stays : ∀ later, place < later → updates[later]? ≠ some (.unset key)

/-- The place at which the key is set for the first time after its last removal. -/
def Arrives (updates : List (Update κ ν)) (key : κ) (place : Nat) : Prop :=
  IsLeast {place | SetToStay updates key place} place

section

omit [DecidableEq κ]

variable {updates : List (Update κ ν)} {last : Update κ ν} {key : κ} {place : Nat}

theorem SetToStay.place_lt (stays : SetToStay updates key place) : place < updates.length := by
  rcases stays.sets with ⟨value, sets⟩
  exact (List.getElem?_eq_some_iff.mp sets).1

theorem SetToStay.concat (stays : SetToStay updates key place) (kept : last ≠ .unset key) :
    SetToStay (updates ++ [last]) key place where
  sets := by
    rw [List.getElem?_append_left stays.place_lt]
    exact stays.sets
  stays := by
    intro later behind
    rw [List.getElem?_append]
    split
    · exact stays.stays later behind
    · intro removed
      exact kept (List.mem_singleton.mp (List.mem_of_getElem? removed)).symm

theorem setToStay_concat_set (updates : List (Update κ ν)) (key : κ) (value : ν) :
    SetToStay (updates ++ [.set key value]) key updates.length where
  sets := ⟨value, by simp⟩
  stays := by
    intro later behind
    rw [List.getElem?_eq_none (by simpa [Nat.succ_le_iff] using behind)]
    exact Option.some_ne_none _ ∘ Eq.symm

theorem setToStay_concat_iff :
    SetToStay (updates ++ [last]) key place ↔
      (∃ value, last = .set key value) ∧ place = updates.length ∨
        last ≠ .unset key ∧ SetToStay updates key place := by
  constructor
  · intro stays
    have within := stays.place_lt
    rcases stays with ⟨⟨value, sets⟩, stays⟩
    rw [List.length_append, List.length_singleton, Nat.lt_succ_iff_lt_or_eq] at within
    rcases within with old | rfl
    · rw [List.getElem?_append_left old] at sets
      refine .inr ⟨by simpa using stays updates.length old, ⟨value, sets⟩, ?_⟩
      intro later behind removed
      have among := (List.getElem?_eq_some_iff.mp removed).1
      exact stays later behind (by rwa [List.getElem?_append_left among])
    · exact .inl ⟨⟨value, by simpa using sets⟩, rfl⟩
  · rintro (⟨⟨value, rfl⟩, rfl⟩ | ⟨kept, stays⟩)
    · exact setToStay_concat_set updates key value
    · exact stays.concat kept

/-- A key that has arrived keeps its place until it is removed. -/
theorem Arrives.concat (arrives : Arrives updates key place) (kept : last ≠ .unset key) :
    Arrives (updates ++ [last]) key place := by
  refine ⟨arrives.1.concat kept, fun other stays => ?_⟩
  rcases setToStay_concat_iff.mp stays with ⟨-, rfl⟩ | ⟨-, stays⟩
  · exact Nat.le_of_lt arrives.1.place_lt
  · exact arrives.2 stays

/-- A key that is not there arrives where it is set. -/
theorem arrives_concat_set (absent : ∀ place, ¬SetToStay updates key place) (value : ν) :
    Arrives (updates ++ [.set key value]) key updates.length := by
  refine ⟨setToStay_concat_set updates key value, fun other stays => ?_⟩
  rcases setToStay_concat_iff.mp stays with ⟨-, rfl⟩ | ⟨-, stays⟩
  · exact Nat.le_refl _
  · exact absurd stays (absent other)

end

/-- The keys are those that have been set to stay. -/
theorem mem_keys_updateAll_iff (updates : List (Update κ ν)) (key : κ) :
    key ∈ (empty.updateAll updates).keys ↔ ∃ place, SetToStay updates key place := by
  induction updates using List.reverseRecOn with
  | nil =>
    simp only [updateAll, List.foldl_nil, keys, empty, List.map_nil, List.not_mem_nil, false_iff]
    rintro ⟨place, stays⟩
    exact absurd stays.place_lt (Nat.not_lt_zero place)
  | append_singleton updates last induction =>
    simp only [updateAll_concat, setToStay_concat_iff, exists_or, exists_and_left, exists_eq,
      and_true, ← induction]
    cases last with
    | set other value =>
      by_cases same : key = other
      · simp [update, mem_keys_iff, same, get?_set_self]
      · simp [update, mem_keys_iff, get?_set_of_ne _ _ same, Ne.symm same]
    | unset other =>
      simp [update, keys_unset, and_comm, eq_comm (a := key)]

theorem exists_arrives {updates : List (Update κ ν)} {key : κ}
    (known : key ∈ (empty.updateAll updates).keys) : ∃ place, Arrives updates key place := by
  classical
  have stays := (mem_keys_updateAll_iff updates key).mp known
  exact ⟨Nat.find stays, Nat.find_spec stays, fun _ other => Nat.find_min' stays other⟩

/-- One key has arrived before another. -/
def Precedes (updates : List (Update κ ν)) (one two : κ) : Prop :=
  ∃ first second, Arrives updates one first ∧ Arrives updates two second ∧ first < second

theorem pairwise_keys_updateAll (updates : List (Update κ ν)) :
    (empty.updateAll updates).keys.Pairwise (Precedes updates) := by
  induction updates using List.reverseRecOn with
  | nil => exact .nil
  | append_singleton updates last induction =>
    -- Keys that are not removed stand as they stood.
    have remain : ∀ one two, last ≠ .unset one → last ≠ .unset two →
        Precedes updates one two → Precedes (updates ++ [last]) one two := by
      rintro one two keptOne keptTwo ⟨first, second, arrivesOne, arrivesTwo, earlier⟩
      exact ⟨first, second, arrivesOne.concat keptOne, arrivesTwo.concat keptTwo, earlier⟩
    rw [updateAll_concat]
    cases last with
    | set key value =>
      have old := induction.imp fun {one two} => remain one two (by simp) (by simp)
      rw [update, keys_set]
      split
      · exact old
      next unknown =>
        refine List.pairwise_append.mpr ⟨old, List.pairwise_singleton _ _, ?_⟩
        intro other known new member
        rcases exists_arrives known with ⟨place, arrives⟩
        rw [mem_keys_updateAll_iff, not_exists] at unknown
        rw [List.mem_singleton.mp member]
        exact ⟨place, updates.length, arrives.concat (by simp), arrives_concat_set unknown value,
          arrives.1.place_lt⟩
    | unset key =>
      rw [update, keys_unset, List.pairwise_filter]
      refine induction.imp fun {one two} precedes keptOne keptTwo => remain one two ?_ ?_ precedes
      · simpa using Ne.symm (of_decide_eq_true keptOne)
      · simpa using Ne.symm (of_decide_eq_true keptTwo)

/-! ## Both together -/

theorem entries_eq_map_keys (store : Store κ ν) (fallback : ν) :
    store.entries = store.keys.map fun key => (key, (store.get? key).getD fallback) := by
  rw [keys, List.map_map]
  refine ((List.map_congr_left fun entry member => ?_).trans (List.map_id _)).symm
  rw [Function.comp_apply, (get?_eq_some_iff store entry.1 entry.2).mpr member]
  rfl

theorem keys_set_unset (store : Store κ ν) (key : κ) (value : ν) :
    ((store.unset key).set key value).keys =
      (store.keys.filter fun other => other ≠ key) ++ [key] := by
  rw [keys_set, keys_unset, if_neg (by simp)]

/-- The environment and the aliases are what their updates have made of them. Of an initial
list and any updates after it, those names are listed, each once, whose last update sets
them, with the value of that update, and in the order in which they were first set after
their last removal: a name that is there keeps its place when it is set again, and goes to
the end when it is removed before. A name that is looked up has the value with which it is
listed, the removal of a name changes nothing exactly if it is not there, and programs get
the names with their values in the same order. -/
theorem updateAll_follows_updates (pairs : List (Text × Text))
    (updates : List (Update Text Text)) :
    let all := pairs.map .ofPair ++ updates
    let store := (ofList pairs).updateAll updates
    store.keys.Nodup ∧
      (∀ name, name ∈ store.keys ↔ ∃ value, IsLatest all (.set name value)) ∧
      (∀ name value, (name, value) ∈ store.entries ↔ IsLatest all (.set name value)) ∧
      store.keys.Pairwise (Precedes all) ∧
      (∀ name value, (store.set name value).keys =
          if name ∈ store.keys then store.keys else store.keys ++ [name]) ∧
      (∀ name value, ((store.unset name).set name value).keys =
          (store.keys.filter fun other => other ≠ name) ++ [name]) ∧
      (∀ name value, store.get? name = some value ↔ (name, value) ∈ store.entries) ∧
      (∀ name, store.unset name = store ↔ name ∉ store.keys) ∧
      Environment.strings store =
        store.keys.map fun name => name ++ '=' :: (store.get? name).getD [] := by
  intro all store
  have made : store = empty.updateAll all := updateAll_ofList pairs updates
  have values : ∀ name value, store.get? name = some value ↔ IsLatest all (.set name value) := by
    rw [made]
    exact get?_updateAll_iff all
  refine ⟨store.distinct, fun name => ?_, fun name value => ?_, ?_, fun name value => ?_,
    store.keys_set_unset, store.get?_eq_some_iff, store.unset_eq_self_iff, ?_⟩
  · simp only [mem_keys_iff, values]
  · rw [← get?_eq_some_iff, values]
  · rw [made]
    exact pairwise_keys_updateAll all
  · rw [keys_set]
    congr
  · rw [Environment.strings, store.entries_eq_map_keys [], List.map_map]
    rfl

example :
    ((ofList [(1, 'a'), (2, 'b'), (1, 'c')]).updateAll
        [.unset 1, .set 3 'd', .set 2 'e', .set 1 'f', .unset 4]).entries =
      [(2, 'e'), (3, 'd'), (1, 'f')] := by
  decide

end Store

end CommandShell
