namespace CommandShell

/-! A store keeps one value per key in the order in which the keys arrived.
Overwriting a value leaves its key where it is, and removing a key leaves the
order of the others as it was. The environment, the aliases and the file tree
are stores. -/

structure Store (κ ν : Type) where
  entries : List (κ × ν)
  distinct : (entries.map Prod.fst).Nodup
  deriving DecidableEq, Repr

namespace Store

variable {κ ν : Type} [DecidableEq κ]

def empty : Store κ ν where
  entries := []
  distinct := List.nodup_nil

instance : Inhabited (Store κ ν) := ⟨empty⟩

def keys (store : Store κ ν) : List κ :=
  store.entries.map Prod.fst

def get? (store : Store κ ν) (key : κ) : Option ν :=
  (store.entries.find? fun entry => entry.1 = key).map Prod.snd

/-! ## Updates -/

/-- The entry with its value replaced where its key is `key`. -/
def overwriteEntry (key : κ) (value : ν) (entry : κ × ν) : κ × ν :=
  if entry.1 = key then (entry.1, value) else entry

theorem map_fst_overwriteEntry (key : κ) (value : ν) (entries : List (κ × ν)) :
    (entries.map (overwriteEntry key value)).map Prod.fst = entries.map Prod.fst := by
  induction entries with
  | nil => rfl
  | cons entry entries induction =>
    simp only [List.map_cons, induction, overwriteEntry]
    split <;> rfl

def set (store : Store κ ν) (key : κ) (value : ν) : Store κ ν :=
  if known : key ∈ store.keys then
    { entries := store.entries.map (overwriteEntry key value)
      distinct := by rw [map_fst_overwriteEntry]; exact store.distinct }
  else
    { entries := store.entries ++ [(key, value)]
      distinct := by
        rw [List.map_append, List.nodup_append]
        refine ⟨store.distinct, by simp, ?_⟩
        intro other member last lastMember equal
        simp only [List.map_cons, List.map_nil, List.mem_singleton] at lastMember
        exact known (by rw [← lastMember, ← equal]; exact member) }

/-- Keeps the entries whose keys satisfy `keep`. -/
def restrict (store : Store κ ν) (keep : κ → Bool) : Store κ ν where
  entries := store.entries.filter fun entry => keep entry.1
  distinct := store.distinct.sublist (List.filter_sublist.map Prod.fst)

def unset (store : Store κ ν) (key : κ) : Store κ ν :=
  store.restrict fun other => other ≠ key

/-- The store after setting each pair in turn, so that the last value given for
a key counts and its first occurrence decides its place. -/
def ofList (pairs : List (κ × ν)) : Store κ ν :=
  pairs.foldl (fun store pair => store.set pair.1 pair.2) empty

/-! ## Keys after an update -/

theorem keys_set (store : Store κ ν) (key : κ) (value : ν) :
    (store.set key value).keys =
      if key ∈ store.keys then store.keys else store.keys ++ [key] := by
  unfold set
  split
  · exact map_fst_overwriteEntry key value store.entries
  · simp [keys]

omit [DecidableEq κ] in
theorem keys_restrict (store : Store κ ν) (keep : κ → Bool) :
    (store.restrict keep).keys = store.keys.filter keep := by
  simp only [keys, restrict, List.filter_map]
  rfl

theorem keys_unset (store : Store κ ν) (key : κ) :
    (store.unset key).keys = store.keys.filter fun other => other ≠ key :=
  keys_restrict store _

/-! ## Values after an update -/

theorem get?_eq_none_iff (store : Store κ ν) (key : κ) :
    store.get? key = none ↔ key ∉ store.keys := by
  simp only [get?, keys, Option.map_eq_none_iff, List.find?_eq_none, List.mem_map,
    decide_eq_true_eq, not_exists, not_and]

/-- Looking a key up in entries, some of which have been overwritten. -/
theorem find?_map_overwriteEntry (key other : κ) (value : ν) (entries : List (κ × ν)) :
    ((entries.map (overwriteEntry key value)).find? fun entry => entry.1 = other) =
      (entries.find? fun entry => entry.1 = other).map (overwriteEntry key value) := by
  rw [List.find?_map]
  congr 2
  funext entry
  simp only [Function.comp_apply, overwriteEntry]
  split <;> rfl

/-- A key that has been set has the value it was set to. -/
theorem get?_set_self (store : Store κ ν) (key : κ) (value : ν) :
    (store.set key value).get? key = some value := by
  unfold set get?
  split
  case isTrue known =>
    obtain ⟨entry, member, equal⟩ := List.mem_map.mp known
    rw [find?_map_overwriteEntry]
    cases found : store.entries.find? fun entry => entry.1 = key with
    | none => simpa [equal] using List.find?_eq_none.mp found entry member
    | some entry =>
      have same : entry.1 = key := by simpa using List.find?_some found
      simp [overwriteEntry, same]
  case isFalse unknown =>
    have absent : (store.entries.find? fun entry => entry.1 = key) = none := by
      simpa [get?] using (get?_eq_none_iff store key).mpr unknown
    simp [List.find?_append, absent]

/-- Setting a key leaves the values of the others. -/
theorem get?_set_of_ne (store : Store κ ν) {key other : κ} (value : ν)
    (different : other ≠ key) : (store.set key value).get? other = store.get? other := by
  unfold set get?
  split
  case isTrue =>
    rw [find?_map_overwriteEntry]
    cases found : store.entries.find? fun entry => entry.1 = other with
    | none => rfl
    | some entry =>
      have same : entry.1 = other := by simpa using List.find?_some found
      simp [overwriteEntry, same, different]
  case isFalse =>
    simp [List.find?_append, Ne.symm different]

/-- A key that has been removed has no value. -/
theorem get?_unset_self (store : Store κ ν) (key : κ) :
    (store.unset key).get? key = none := by
  simp [get?_eq_none_iff, keys_unset]

/-- Removing a key leaves the values of the others. -/
theorem get?_unset_of_ne (store : Store κ ν) {key other : κ} (different : other ≠ key) :
    (store.unset key).get? other = store.get? other := by
  simp only [get?, unset, restrict, List.find?_filter]
  congr 2
  funext entry
  by_cases same : entry.1 = other <;> simp [same, different]

/-! ## Entries -/

/-- The entries are the keys with their values. -/
theorem get?_eq_some_iff (store : Store κ ν) (key : κ) (value : ν) :
    store.get? key = some value ↔ (key, value) ∈ store.entries := by
  rcases store with ⟨entries, distinct⟩
  induction entries with
  | nil => simp [get?]
  | cons entry rest induction =>
    rcases List.nodup_cons.mp distinct with ⟨fresh, distinctRest⟩
    by_cases same : entry.1 = key
    · have absent : (key, value) ∉ rest := fun member =>
        fresh (same ▸ List.mem_map_of_mem (f := Prod.fst) member)
      rcases entry with ⟨_, other⟩
      cases same
      simp [get?, absent, eq_comm]
    · have onward : get? ⟨rest, distinctRest⟩ key = some value ↔ (key, value) ∈ rest :=
        induction distinctRest
      have different : (key, value) ≠ entry := fun equal => same (equal ▸ rfl)
      simpa [get?, List.find?_cons, same, different] using onward

theorem mem_entries_set {store : Store κ ν} {key : κ} {value : ν} {entry : κ × ν}
    (member : entry ∈ (store.set key value).entries) :
    entry = (key, value) ∨ entry ∈ store.entries := by
  unfold set at member
  split at member
  · obtain ⟨other, otherMember, rfl⟩ := List.mem_map.mp member
    by_cases same : other.1 = key
    · exact .inl (by simp [overwriteEntry, same])
    · exact .inr (by simpa [overwriteEntry, same] using otherMember)
  · rcases List.mem_append.mp member with old | new
    · exact .inr old
    · exact .inl (List.mem_singleton.mp new)

end Store

end CommandShell
