/-!
# Dictionaries with text keys

A dictionary keeps its entries in ascending order of their keys, each key once, so two
dictionaries with the same entries are equal and its list of entries is its printed order. The
order of texts is that of their code points, which is also the order of their bytes in UTF-8.
-/

namespace DeviceQuery

/-- Entries in strictly ascending order of their keys. -/
def Ascending {α : Type} (entries : List (String × α)) : Prop :=
  entries.Pairwise fun a b => a.1 < b.1

/-- Puts an entry into its place, over an entry with the same key. -/
def insertEntry {α : Type} (key : String) (value : α) : List (String × α) → List (String × α)
  | [] => [(key, value)]
  | (k, v) :: rest =>
    if key < k then (key, value) :: (k, v) :: rest
    else if key = k then (key, value) :: rest
    else (k, v) :: insertEntry key value rest

/-- The entries after an insertion are the new one and the old ones, less the one replaced. -/
theorem mem_insertEntry {α : Type} {key : String} {value : α} {entries : List (String × α)}
    {e : String × α} (h : e ∈ insertEntry key value entries) : e = (key, value) ∨ e ∈ entries := by
  induction entries with
  | nil => simpa [insertEntry] using h
  | cons first rest ih =>
    obtain ⟨k, v⟩ := first
    unfold insertEntry at h
    split at h
    · simpa using h
    · split at h
      · rcases List.mem_cons.1 h with h | h
        · exact .inl h
        · exact .inr (List.mem_cons_of_mem _ h)
      · rcases List.mem_cons.1 h with h | h
        · exact .inr (h ▸ List.mem_cons_self)
        · exact (ih h).imp id (List.mem_cons_of_mem _)

theorem Ascending.insertEntry {α : Type} {entries : List (String × α)} (h : Ascending entries)
    (key : String) (value : α) : Ascending (insertEntry key value entries) := by
  induction entries with
  | nil => simp [DeviceQuery.insertEntry, Ascending]
  | cons first rest ih =>
    obtain ⟨k, v⟩ := first
    obtain ⟨below, restAscending⟩ := List.pairwise_cons.1 h
    unfold DeviceQuery.insertEntry
    split
    · next before =>
      refine List.pairwise_cons.2 ⟨fun e he => ?_, h⟩
      rcases List.mem_cons.1 he with rfl | he
      · exact before
      · exact String.lt_trans before (below e he)
    · split
      · next same => exact List.pairwise_cons.2 ⟨fun e he => same ▸ below e he, restAscending⟩
      · next notBefore notSame =>
        refine List.pairwise_cons.2 ⟨fun e he => ?_, ih restAscending⟩
        rcases mem_insertEntry he with rfl | he
        · have le : k ≤ key := String.not_lt.1 notBefore
          exact Std.lt_of_le_of_ne le (Ne.symm notSame)
        · exact below e he

/-- After an insertion the new key leads to the new entry, and every other key where it led
before. -/
theorem find?_insertEntry {α : Type} (key other : String) (value : α)
    (entries : List (String × α)) :
    (insertEntry key value entries).find? (fun e => e.1 = other) =
      if other = key then some (key, value) else entries.find? fun e => e.1 = other := by
  induction entries with
  | nil => grind [insertEntry]
  | cons first rest ih =>
    obtain ⟨k, v⟩ := first
    unfold insertEntry
    split
    · grind
    · split
      · grind
      · grind

/-- Each of the ascending entries is the one that its key leads to. -/
theorem Ascending.find?_eq_some_iff {α : Type} {entries : List (String × α)}
    (h : Ascending entries) {key : String} {value : α} :
    entries.find? (fun e => e.1 = key) = some (key, value) ↔ (key, value) ∈ entries := by
  induction entries with
  | nil => simp
  | cons first rest ih =>
    obtain ⟨k, v⟩ := first
    obtain ⟨below, restAscending⟩ := List.pairwise_cons.1 h
    by_cases same : k = key
    · have absent : (key, value) ∉ rest := fun member =>
        String.lt_irrefl k (same ▸ below _ member)
      simp [same, absent, eq_comm]
    · simp [same, ih restAscending, Ne.symm same]

/-- An entry whose key is greater than all others goes to the end. -/
theorem insertEntry_of_lt {α : Type} {key : String} {value : α} {entries : List (String × α)}
    (h : ∀ e ∈ entries, e.1 < key) :
    insertEntry key value entries = entries ++ [(key, value)] := by
  induction entries with
  | nil => rfl
  | cons first rest ih =>
    obtain ⟨k, v⟩ := first
    have before : k < key := h _ List.mem_cons_self
    have notBefore : ¬key < k := String.lt_asymm before
    have notSame : key ≠ k := fun same => String.lt_irrefl k (same ▸ before)
    rw [insertEntry, if_neg notBefore, if_neg notSame,
      ih fun e member => h e (List.mem_cons_of_mem _ member), List.cons_append]

/-- The last of the ascending entries is the one with the greatest key. -/
theorem Ascending.getLast?_eq_some_iff {α : Type} {entries : List (String × α)}
    (h : Ascending entries) {e : String × α} :
    entries.getLast? = some e ↔ e ∈ entries ∧ ∀ other ∈ entries, ¬e.1 < other.1 := by
  constructor
  · intro last
    obtain ⟨front, rfl⟩ := List.getLast?_eq_some_iff.mp last
    refine ⟨List.mem_append_right _ List.mem_cons_self, fun other member => ?_⟩
    rcases List.mem_append.mp member with member | member
    · exact String.lt_asymm ((List.pairwise_append.mp h).2.2 other member e List.mem_cons_self)
    · rw [List.mem_singleton.mp member]
      exact String.lt_irrefl e.1
  · rintro ⟨member, greatest⟩
    cases last : entries.getLast? with
    | none => simp [List.getLast?_eq_none_iff.mp last] at member
    | some f =>
      obtain ⟨front, rfl⟩ := List.getLast?_eq_some_iff.mp last
      have final : f ∈ front ++ [f] := List.mem_append_right _ List.mem_cons_self
      rcases List.mem_append.mp member with earlier | same
      · exact absurd ((List.pairwise_append.mp h).2.2 e earlier f List.mem_cons_self)
          (greatest f final)
      · rw [List.mem_singleton.mp same]

/-- A dictionary from texts to `α`. -/
structure Dict (α : Type) where
  entries : List (String × α)
  ascending : Ascending entries

namespace Dict

variable {α β : Type}

/-- The dictionary without entries. -/
def empty : Dict α := ⟨[], List.Pairwise.nil⟩

instance : Inhabited (Dict α) := ⟨empty⟩

/-- Two dictionaries with the same entries are equal. -/
theorem ext {d e : Dict α} (h : d.entries = e.entries) : d = e := by
  cases d; cases e; cases h; rfl

instance [DecidableEq α] : DecidableEq (Dict α) := fun d e =>
  decidable_of_iff (d.entries = e.entries) ⟨ext, congrArg entries⟩

/-- The number of entries. -/
def size (d : Dict α) : Nat := d.entries.length

/-- The value of a key. -/
def get? (d : Dict α) (key : String) : Option α :=
  (d.entries.find? fun e => e.1 = key).map Prod.snd

/-- The dictionary with one entry more, or with that key's value replaced. -/
def insert (d : Dict α) (key : String) (value : α) : Dict α :=
  ⟨insertEntry key value d.entries, d.ascending.insertEntry key value⟩

/-- The dictionary without a key. -/
def erase (d : Dict α) (key : String) : Dict α :=
  ⟨d.entries.filter fun e => e.1 ≠ key, d.ascending.sublist List.filter_sublist⟩

/-- The dictionary with every value changed by `f`. -/
def map (f : α → β) (d : Dict α) : Dict β :=
  ⟨d.entries.map fun e => (e.1, f e.2), by simpa [Ascending, List.pairwise_map] using d.ascending⟩

/-- The dictionary of a list of entries; of entries with one key the last one stays. -/
def ofList (entries : List (String × α)) : Dict α :=
  entries.foldl (fun d e => d.insert e.1 e.2) empty

/-! ## The values of keys -/

@[simp] theorem get?_empty (key : String) : (empty : Dict α).get? key = none := rfl

theorem get?_insert (d : Dict α) (key other : String) (value : α) :
    (d.insert key value).get? other = if other = key then some value else d.get? other := by
  unfold get? insert
  rw [find?_insertEntry]
  split <;> rfl

theorem get?_erase (d : Dict α) (key other : String) :
    (d.erase key).get? other = if other = key then none else d.get? other := by
  unfold get? erase
  rw [List.find?_filter]
  by_cases same : other = key
  · grind
  · simp only [same, ↓reduceIte]
    congr 2
    grind

theorem get?_map (f : α → β) (d : Dict α) (key : String) :
    (d.map f).get? key = (d.get? key).map f := by
  unfold get? map
  rw [List.find?_map]
  simp [Function.comp_def]

theorem get?_eq_some_iff (d : Dict α) {key : String} {value : α} :
    d.get? key = some value ↔ (key, value) ∈ d.entries := by
  rw [← d.ascending.find?_eq_some_iff, get?, Option.map_eq_some_iff]
  constructor
  · rintro ⟨⟨k, v⟩, found, rfl⟩
    have same : k = key := by simpa using List.find?_some found
    rw [found, same]
  · exact fun found => ⟨_, found, rfl⟩

/-! ## The dictionary of a list -/

/-- Entries that go on where those of a dictionary end are only put behind them. -/
theorem entries_foldl_insert (more : List (String × α)) (d : Dict α)
    (h : Ascending (d.entries ++ more)) :
    (more.foldl (fun d e => d.insert e.1 e.2) d).entries = d.entries ++ more := by
  induction more generalizing d with
  | nil => simp
  | cons e more ih =>
    have last : (d.insert e.1 e.2).entries = d.entries ++ [e] :=
      insertEntry_of_lt fun old member =>
        (List.pairwise_append.1 h).2.2 old member e List.mem_cons_self
    rw [List.foldl_cons, ih, last, List.append_assoc, List.singleton_append]
    rwa [last, List.append_assoc, List.singleton_append]

/-- Of the entries put into a dictionary the last one with a key is the value of that key. -/
theorem get?_foldl_insert (entries : List (String × α)) (d : Dict α) (key : String) :
    (entries.foldl (fun d e => d.insert e.1 e.2) d).get? key =
      ((entries.filter fun e => e.1 = key).getLast?.map Prod.snd).or (d.get? key) := by
  induction entries generalizing d with
  | nil => rfl
  | cons e entries ih =>
    rw [List.foldl_cons, ih, get?_insert]
    by_cases same : e.1 = key
    · cases last : (entries.filter fun e => e.1 = key).getLast? <;>
        simp [same, last, List.getLast?_cons]
    · simp [same, Ne.symm same]

theorem get?_ofList (entries : List (String × α)) (key : String) :
    (ofList entries).get? key = (entries.filter fun e => e.1 = key).getLast?.map Prod.snd := by
  rw [ofList, get?_foldl_insert, get?_empty, Option.or_none]

@[simp] theorem ofList_entries (d : Dict α) : ofList d.entries = d :=
  ext (entries_foldl_insert d.entries empty d.ascending)

end Dict

end DeviceQuery
