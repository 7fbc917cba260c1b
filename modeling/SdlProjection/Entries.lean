/-!
Contract: association lists with string keys, in insertion order.

Owns: `Entries`, the bare list, and its operations: an insertion under a
present key replaces the value in its place, any other appends. `OrderedMap`
adds that no key occurs twice, and keeps it under insertion. Agreement of two
lists of entries is a matter of keys and values alone, not of their order.

Does not own: any meaning of the values.
-/

namespace SdlProjection

abbrev Entries (α : Type) : Type := List (String × α)

namespace Entries

variable {α : Type}

def keys (entries : Entries α) : List String :=
  entries.map Prod.fst

/-- The value of the first entry with the given key. -/
def get? : Entries α → String → Option α
  | [], _ => none
  | (k, value) :: rest, key => if k = key then some value else get? rest key

/-- Replaces the value under a present key, or appends a new entry. -/
def insert : Entries α → String → α → Entries α
  | [], key, value => [(key, value)]
  | (k, v) :: rest, key, value =>
    if k = key then (k, value) :: rest else (k, v) :: insert rest key value

/-- Inserts the later entries one after the other. -/
def insertAll (entries later : Entries α) : Entries α :=
  later.foldl (fun result entry => result.insert entry.1 entry.2) entries

/-- Every entry on the left has a value on the right that agrees with its own. -/
def within (agree : α → α → Bool) (left right : Entries α) : Bool :=
  left.all fun entry => (get? right entry.1).any (agree entry.2)

theorem mem_keys_insert {entries : Entries α} {key other : String} {value : α} :
    other ∈ keys (insert entries key value) ↔ other = key ∨ other ∈ keys entries := by
  induction entries with
  | nil => simp [insert, keys]
  | cons head tail inductionHypothesis =>
      obtain ⟨k, v⟩ := head
      by_cases same : k = key
      · subst same
        simp [insert, keys]
      · simp only [insert, same, ↓reduceIte]
        simp only [keys, List.map_cons, List.mem_cons] at inductionHypothesis ⊢
        rw [inductionHypothesis]
        exact or_left_comm

theorem nodup_keys_insert {entries : Entries α} {key : String} {value : α}
    (distinct : (keys entries).Nodup) : (keys (insert entries key value)).Nodup := by
  induction entries with
  | nil => simp [insert, keys]
  | cons head tail inductionHypothesis =>
      obtain ⟨k, v⟩ := head
      have tailDistinct : (keys tail).Nodup := (List.nodup_cons.mp distinct).2
      have fresh : k ∉ keys tail := (List.nodup_cons.mp distinct).1
      by_cases same : k = key
      · simpa [insert, same, keys] using distinct
      · simp only [insert, same, ↓reduceIte]
        refine List.nodup_cons.mpr ⟨?_, inductionHypothesis tailDistinct⟩
        intro member
        cases mem_keys_insert.mp member with
        | inl equal => exact same equal
        | inr present => exact fresh present

theorem nodup_keys_insertAll {entries later : Entries α} (distinct : (keys entries).Nodup) :
    (keys (insertAll entries later)).Nodup := by
  induction later generalizing entries with
  | nil => exact distinct
  | cons head tail inductionHypothesis =>
      exact inductionHypothesis (nodup_keys_insert distinct)

end Entries

/-- Entries with pairwise distinct keys. -/
structure OrderedMap (α : Type) where
  entries : Entries α
  distinct : entries.keys.Nodup

namespace OrderedMap

variable {α : Type}

def empty : OrderedMap α := ⟨[], List.nodup_nil⟩

instance : Inhabited (OrderedMap α) := ⟨empty⟩

@[ext]
theorem ext {left right : OrderedMap α} (same : left.entries = right.entries) : left = right := by
  cases left
  cases right
  cases same
  rfl

def keys (map : OrderedMap α) : List String := map.entries.keys

def size (map : OrderedMap α) : Nat := map.entries.length

def get? (map : OrderedMap α) (key : String) : Option α := map.entries.get? key

def insert (map : OrderedMap α) (key : String) (value : α) : OrderedMap α :=
  ⟨map.entries.insert key value, Entries.nodup_keys_insert map.distinct⟩

/-- Inserts the later entries one after the other. -/
def insertAll (map : OrderedMap α) (later : Entries α) : OrderedMap α :=
  ⟨map.entries.insertAll later, Entries.nodup_keys_insertAll map.distinct⟩

/-- The map that results from inserting the entries in order. -/
def ofEntries (entries : Entries α) : OrderedMap α :=
  empty.insertAll entries

/-- The same keys with agreeing values, in whatever order. -/
def agrees (agree : α → α → Bool) (left right : OrderedMap α) : Bool :=
  left.size == right.size && left.entries.within agree right.entries

end OrderedMap

end SdlProjection
