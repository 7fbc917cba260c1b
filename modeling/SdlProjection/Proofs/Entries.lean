import SdlProjection.Entries

/-!
Contract: what is looked up in entries, and what an insertion changes.

Owns: the laws of `Entries.get?`, `keys` and `insert` that hold of any entries,
that distinct keys make a look-up independent of the order, and the laws of
`insertAll`, most of which need distinct keys on the inserted side. Of ordered
maps, it owns `OrderedMap.Overlay`, what inserting all of one into another
leaves of both.

Does not own: that keys stay distinct, which stands beside the definitions.
-/

namespace SdlProjection

namespace Entries

variable {α : Type}

/-! ### Look-up -/

theorem get?_eq_none_iff {entries : Entries α} {key : String} :
    entries.get? key = none ↔ key ∉ entries.keys := by
  induction entries with
  | nil => simp [get?, keys]
  | cons head tail inductionHypothesis =>
      obtain ⟨k, value⟩ := head
      simp only [keys] at inductionHypothesis
      by_cases same : k = key
      · simp [get?, keys, same]
      · simp [get?, keys, same, inductionHypothesis, Ne.symm same]

theorem exists_get?_iff {entries : Entries α} {key : String} :
    (∃ value, entries.get? key = some value) ↔ key ∈ entries.keys := by
  rw [← Option.isSome_iff_exists, ← Option.ne_none_iff_isSome, ne_eq, get?_eq_none_iff,
    Decidable.not_not]

theorem mem_of_get?_eq_some {entries : Entries α} {key : String} {value : α}
    (found : entries.get? key = some value) : (key, value) ∈ entries := by
  induction entries with
  | nil => simp [get?] at found
  | cons head tail inductionHypothesis =>
      obtain ⟨k, v⟩ := head
      by_cases same : k = key
      · simp only [get?, same, ↓reduceIte, Option.some.injEq] at found
        simp [same, found]
      · simp only [get?, same, ↓reduceIte] at found
        exact List.mem_cons_of_mem _ (inductionHypothesis found)

theorem get?_eq_some_of_mem {entries : Entries α} (distinct : entries.keys.Nodup) {key : String}
    {value : α} (member : (key, value) ∈ entries) : entries.get? key = some value := by
  induction entries with
  | nil => cases member
  | cons head tail inductionHypothesis =>
      obtain ⟨k, v⟩ := head
      simp only [keys, List.map_cons, List.nodup_cons] at distinct
      rcases List.mem_cons.mp member with isHead | inTail
      · cases isHead
        simp [get?]
      · have different : k ≠ key := by
          rintro rfl
          exact distinct.1 (List.mem_map.mpr ⟨_, inTail, rfl⟩)
        rw [get?, if_neg different]
        exact inductionHypothesis distinct.2 inTail

/-- What is looked up does not depend on the order of the entries. -/
theorem get?_eq_of_perm {left right : Entries α} (permutation : left.Perm right)
    (distinct : left.keys.Nodup) (key : String) : left.get? key = right.get? key := by
  have keysPermuted : left.keys.Perm right.keys := permutation.map Prod.fst
  cases found : left.get? key with
  | none =>
      have absent : key ∉ right.keys :=
        fun present => get?_eq_none_iff.mp found (keysPermuted.mem_iff.mpr present)
      exact (get?_eq_none_iff.mpr absent).symm
  | some value =>
      have member := permutation.mem_iff.mp (mem_of_get?_eq_some found)
      exact (get?_eq_some_of_mem (keysPermuted.nodup_iff.mp distinct) member).symm

/-! ### Insertion -/

/-- An insertion changes what is looked up under its own key and nothing else. -/
theorem get?_insert {entries : Entries α} {key other : String} {value : α} :
    (entries.insert key value).get? other =
      if key = other then some value else entries.get? other := by
  induction entries with
  | nil => simp [insert, get?]
  | cons head tail inductionHypothesis =>
      obtain ⟨k, v⟩ := head
      by_cases same : k = key
      · subst same
        by_cases here : k = other
        · simp [insert, get?, here]
        · simp [insert, get?, here]
      · by_cases here : k = other
        · subst here
          simp [insert, get?, same, Ne.symm same]
        · simp [insert, get?, same, here, inductionHypothesis]

theorem insert_of_not_mem {entries : Entries α} {key : String} {value : α}
    (fresh : key ∉ entries.keys) : entries.insert key value = entries ++ [(key, value)] := by
  induction entries with
  | nil => rfl
  | cons head tail inductionHypothesis =>
      obtain ⟨k, v⟩ := head
      simp only [keys, List.map_cons, List.mem_cons, not_or] at fresh
      have different : k ≠ key := Ne.symm fresh.1
      simp [insert, different, inductionHypothesis fresh.2]

theorem insert_ne_nil {entries : Entries α} {key : String} {value : α} :
    entries.insert key value ≠ [] := by
  cases entries with
  | nil => exact List.cons_ne_nil _ _
  | cons head tail =>
      rw [insert]
      split <;> exact List.cons_ne_nil _ _

/-- An insertion under a present key leaves the keys in their places; a new key comes last. -/
theorem keys_insert {entries : Entries α} {key : String} {value : α} :
    (entries.insert key value).keys =
      if key ∈ entries.keys then entries.keys else entries.keys ++ [key] := by
  by_cases present : key ∈ entries.keys
  · rw [if_pos present]
    induction entries with
    | nil => simp [keys] at present
    | cons head tail inductionHypothesis =>
        obtain ⟨k, v⟩ := head
        by_cases same : k = key
        · simp [insert, keys, same]
        · have later : key ∈ keys tail := by
            simpa [keys, Ne.symm same] using present
          have tailKeys := inductionHypothesis later
          simp only [keys] at tailKeys
          simp [insert, keys, same, tailKeys]
  · rw [if_neg present, insert_of_not_mem present]
    simp [keys]

/-- An entry that is there already changes nothing when it is inserted. -/
theorem insert_of_get?_eq_some {entries : Entries α} {key : String} {value : α}
    (found : entries.get? key = some value) : entries.insert key value = entries := by
  induction entries with
  | nil => cases found
  | cons head tail inductionHypothesis =>
      obtain ⟨k, v⟩ := head
      by_cases same : k = key
      · simp only [get?, same, ↓reduceIte, Option.some.injEq] at found
        simp [insert, same, found]
      · simp only [get?, same, ↓reduceIte] at found
        simp [insert, same, inductionHypothesis found]

/-- What holds of all entries and of a new one holds after the insertion. -/
theorem forall_mem_insert {entries : Entries α} {key : String} {value : α}
    {holds : String × α → Prop} (all : ∀ entry ∈ entries, holds entry) (new : holds (key, value)) :
    ∀ entry ∈ entries.insert key value, holds entry := by
  induction entries with
  | nil => simpa [insert] using new
  | cons head tail inductionHypothesis =>
      obtain ⟨k, v⟩ := head
      rw [List.forall_mem_cons] at all
      by_cases same : k = key
      · simp only [insert, same, ↓reduceIte, List.forall_mem_cons]
        exact ⟨new, all.2⟩
      · simp only [insert, same, ↓reduceIte, List.forall_mem_cons]
        exact ⟨all.1, inductionHypothesis all.2⟩

theorem insert_insert_same {entries : Entries α} {key : String} {first second : α} :
    (entries.insert key first).insert key second = entries.insert key second := by
  induction entries with
  | nil => simp [insert]
  | cons head tail inductionHypothesis =>
      obtain ⟨k, v⟩ := head
      by_cases same : k = key
      · simp [insert, same]
      · simp [insert, same, inductionHypothesis]

/-- Insertions under different keys may change places if one of them appends nothing. -/
theorem insert_comm_of_mem {entries : Entries α} {key other : String} {value otherValue : α}
    (present : key ∈ entries.keys) (different : other ≠ key) :
    (entries.insert other otherValue).insert key value =
      (entries.insert key value).insert other otherValue := by
  induction entries with
  | nil => simp [keys] at present
  | cons head tail inductionHypothesis =>
      obtain ⟨k, v⟩ := head
      by_cases same : k = key
      · subst same
        simp [insert, Ne.symm different]
      · have later : key ∈ keys tail := by
          simpa [keys, Ne.symm same] using present
        by_cases here : k = other
        · simp [insert, here, different]
        · simp [insert, same, here, inductionHypothesis later]

/-! ### Inserting one after the other -/

@[simp]
theorem insertAll_nil (entries : Entries α) : entries.insertAll [] = entries := rfl

theorem insertAll_cons (entries : Entries α) (key : String) (value : α) (later : Entries α) :
    entries.insertAll ((key, value) :: later) = (entries.insert key value).insertAll later := rfl

theorem forall_mem_insertAll {entries later : Entries α} {holds : String × α → Prop}
    (all : ∀ entry ∈ entries, holds entry) (more : ∀ entry ∈ later, holds entry) :
    ∀ entry ∈ entries.insertAll later, holds entry := by
  induction later generalizing entries with
  | nil => exact all
  | cons head tail inductionHypothesis =>
      rw [List.forall_mem_cons] at more
      exact inductionHypothesis (forall_mem_insert all more.1) more.2

/-- Of several entries under a key, the later ones win. -/
theorem get?_insertAll {entries later : Entries α} (distinct : later.keys.Nodup)
    (key : String) :
    (entries.insertAll later).get? key = (later.get? key).or (entries.get? key) := by
  induction later generalizing entries with
  | nil => rfl
  | cons head tail inductionHypothesis =>
      obtain ⟨k, v⟩ := head
      simp only [keys, List.map_cons, List.nodup_cons] at distinct
      rw [insertAll_cons, inductionHypothesis distinct.2, get?_insert]
      by_cases same : k = key
      · subst same
        have absent : get? tail k = none := get?_eq_none_iff.mpr distinct.1
        simp [get?, absent]
      · simp [get?, same]

/-- An insertion under a present key may be made before later ones under other keys. -/
theorem insertAll_insert_of_mem {entries later : Entries α} {key : String} {value : α}
    (present : key ∈ entries.keys) (untouched : key ∉ later.keys) :
    (entries.insertAll later).insert key value = (entries.insert key value).insertAll later := by
  induction later generalizing entries with
  | nil => rfl
  | cons head tail inductionHypothesis =>
      obtain ⟨k, v⟩ := head
      simp only [keys, List.map_cons, List.mem_cons, not_or] at untouched
      have stillPresent : key ∈ (entries.insert k v).keys := mem_keys_insert.mpr (.inr present)
      rw [insertAll_cons, inductionHypothesis stillPresent untouched.2,
        insert_comm_of_mem present (Ne.symm untouched.1), insertAll_cons]

/-- Inserting into the later entries first comes to the same as inserting last. -/
theorem insertAll_insert {entries later : Entries α} {key : String} {value : α}
    (distinct : later.keys.Nodup) :
    entries.insertAll (later.insert key value) = (entries.insertAll later).insert key value := by
  induction later generalizing entries with
  | nil => rfl
  | cons head tail inductionHypothesis =>
      obtain ⟨k, v⟩ := head
      simp only [keys, List.map_cons, List.nodup_cons] at distinct
      by_cases same : k = key
      · subst same
        have present : k ∈ (entries.insert k v).keys := mem_keys_insert.mpr (.inl rfl)
        simp only [insert, ↓reduceIte, insertAll_cons]
        rw [insertAll_insert_of_mem present distinct.1, insert_insert_same]
      · simp only [insert, same, ↓reduceIte, insertAll_cons]
        exact inductionHypothesis distinct.2

/-- Inserting what was put together before comes to the same as inserting part after part. -/
theorem insertAll_insertAll {entries middle : Entries α} (distinct : middle.keys.Nodup)
    (later : Entries α) :
    entries.insertAll (middle.insertAll later) = (entries.insertAll middle).insertAll later := by
  induction later generalizing middle with
  | nil => rfl
  | cons head tail inductionHypothesis =>
      obtain ⟨key, value⟩ := head
      calc
        entries.insertAll (middle.insertAll ((key, value) :: tail))
          = entries.insertAll ((middle.insert key value).insertAll tail) := rfl
        _ = (entries.insertAll (middle.insert key value)).insertAll tail :=
            inductionHypothesis (nodup_keys_insert distinct)
        _ = ((entries.insertAll middle).insert key value).insertAll tail := by
            rw [insertAll_insert distinct]

/-- Present keys stay in their places; the new ones follow in the order of the later entries. -/
theorem keys_insertAll {entries later : Entries α} (distinct : later.keys.Nodup) :
    (entries.insertAll later).keys =
      entries.keys ++ later.keys.filter fun key => key ∉ entries.keys := by
  induction later generalizing entries with
  | nil => simp [keys]
  | cons head tail inductionHypothesis =>
      obtain ⟨k, v⟩ := head
      simp only [keys, List.map_cons, List.nodup_cons] at distinct
      have fresh : ∀ key ∈ keys tail, key ≠ k := by
        rintro key member rfl
        exact distinct.1 member
      have listed : keys ((k, v) :: tail) = k :: keys tail := rfl
      rw [insertAll_cons, inductionHypothesis distinct.2, keys_insert, listed, List.filter_cons]
      by_cases present : k ∈ entries.keys
      · simp [present]
      · -- below the new key, nothing else counts as present that did not before
        have same : (keys tail).filter (fun key => key ∉ entries.keys ++ [k]) =
            (keys tail).filter fun key => key ∉ entries.keys := by
          apply List.filter_congr
          intro key member
          simp [fresh key member]
        rw [if_neg present, same, if_pos (decide_eq_true present), List.append_assoc,
          List.singleton_append]

/-- Entries that are all there already change nothing. -/
theorem insertAll_of_present {entries later : Entries α}
    (present : ∀ entry ∈ later, entries.get? entry.1 = some entry.2) :
    entries.insertAll later = entries := by
  induction later with
  | nil => rfl
  | cons head tail inductionHypothesis =>
      obtain ⟨key, value⟩ := head
      rw [List.forall_mem_cons] at present
      rw [insertAll_cons, insert_of_get?_eq_some present.1, inductionHypothesis present.2]

/-- Entries under fresh keys are appended in order. -/
theorem insertAll_eq_append {entries later : Entries α}
    (distinct : (keys (entries ++ later)).Nodup) : entries.insertAll later = entries ++ later := by
  induction later generalizing entries with
  | nil => simp
  | cons head tail inductionHypothesis =>
      obtain ⟨key, value⟩ := head
      have fresh : key ∉ entries.keys := by
        intro present
        have apart : (keys entries ++ key :: keys tail).Nodup := by simpa [keys] using distinct
        exact (List.nodup_append.mp apart).2.2 key present key List.mem_cons_self rfl
      rw [List.append_cons] at distinct ⊢
      rw [insertAll_cons, insert_of_not_mem fresh, inductionHypothesis distinct]

theorem insertAll_nil_of_nodup {later : Entries α} (distinct : later.keys.Nodup) :
    insertAll [] later = later :=
  insertAll_eq_append distinct

end Entries

/-! ### Ordered maps -/

namespace OrderedMap

variable {α : Type}

theorem insertAll_empty (map : OrderedMap α) :
    map.insertAll (empty : OrderedMap α).entries = map := rfl

theorem empty_insertAll (map : OrderedMap α) : empty.insertAll map.entries = map :=
  OrderedMap.ext (Entries.insertAll_nil_of_nodup map.distinct)

theorem insertAll_insert (map later : OrderedMap α) (key : String) (value : α) :
    map.insertAll (later.insert key value).entries =
      (map.insertAll later.entries).insert key value :=
  OrderedMap.ext (Entries.insertAll_insert later.distinct)

theorem insertAll_insertAll (first second third : OrderedMap α) :
    (first.insertAll second.entries).insertAll third.entries =
      first.insertAll (second.insertAll third.entries).entries :=
  OrderedMap.ext (Entries.insertAll_insertAll second.distinct third.entries).symm

theorem insertAll_self (map : OrderedMap α) : map.insertAll map.entries = map :=
  OrderedMap.ext (Entries.insertAll_of_present fun _ member =>
    Entries.get?_eq_some_of_mem map.distinct member)

/-- The third map is the second laid over the first: what the second has wins, the keys of the
first keep their places, and the new ones follow in the second's order. -/
structure Overlay (earlier later merged : OrderedMap α) : Prop where
  present : ∀ key, key ∈ merged.keys ↔ key ∈ earlier.keys ∨ key ∈ later.keys
  value : ∀ key, merged.get? key = (later.get? key).or (earlier.get? key)
  order : merged.keys = earlier.keys ++ later.keys.filter fun key => key ∉ earlier.keys

theorem overlay_insertAll (earlier later : OrderedMap α) :
    Overlay earlier later (earlier.insertAll later.entries) := by
  have order : (earlier.insertAll later.entries).keys =
      earlier.keys ++ later.keys.filter fun key => key ∉ earlier.keys :=
    Entries.keys_insertAll later.distinct
  refine ⟨?_, fun key => Entries.get?_insertAll later.distinct key, order⟩
  intro key
  rw [order, List.mem_append, List.mem_filter, decide_eq_true_iff]
  by_cases known : key ∈ earlier.keys
  · simp [known]
  · simp [known]

end OrderedMap

end SdlProjection
