import DeviceQuery.Item.Basic
import DeviceQuery.Proofs.Text.Bytes
import Mathlib.Data.Finset.Card
import Mathlib.Data.List.Nodup

/-!
# Rows under a name style

The kebab style keeps a row as it is. The snake style writes underscores for dashes, so names that
differ only in these become one. Of their values that of the greatest name stays (`get?_ofRow`),
and nothing else is lost (`size_ofRow`). What has been renamed stays as it is
(`renaming_keeps_greatest`).
-/

namespace DeviceQuery

namespace Dict

variable {α : Type}

/-- The keys, in ascending order. -/
def keys (d : Dict α) : List String := d.entries.map Prod.fst

theorem mem_keys_iff {d : Dict α} {key : String} :
    key ∈ d.keys ↔ ∃ value, d.get? key = some value := by
  simp [keys, get?_eq_some_iff]

theorem nodup_keys (d : Dict α) : d.keys.Nodup := by
  have ascending : d.keys.Pairwise (· < ·) := List.pairwise_map.mpr d.ascending
  refine ascending.imp fun below same => ?_
  exact String.lt_irrefl _ (same ▸ below)

theorem mem_keys_ofList {entries : List (String × α)} {key : String} :
    key ∈ (ofList entries).keys ↔ key ∈ entries.map Prod.fst := by
  rw [mem_keys_iff, get?_ofList]
  simp only [Option.map_eq_some_iff]
  constructor
  · rintro ⟨value, e, last, rfl⟩
    obtain ⟨member, same⟩ := List.mem_filter.mp (List.mem_of_getLast? last)
    exact List.mem_map.mpr ⟨e, member, of_decide_eq_true same⟩
  · intro present
    obtain ⟨e, member, same⟩ := List.mem_map.mp present
    have found : e ∈ entries.filter fun other => other.1 = key :=
      List.mem_filter.mpr ⟨member, decide_eq_true same⟩
    obtain ⟨last, final⟩ := Option.isSome_iff_exists.mp
      (List.getLast?_isSome.mpr (List.ne_nil_of_mem found))
    exact ⟨last.2, last, final, rfl⟩

/-- The dictionary of a list has one entry for each key that occurs in it. -/
theorem size_ofList (entries : List (String × α)) :
    (ofList entries).size = (entries.map Prod.fst).toFinset.card := by
  have same : (ofList entries).keys.toFinset = (entries.map Prod.fst).toFinset := by
    ext key
    rw [List.mem_toFinset, List.mem_toFinset, mem_keys_ofList]
  rw [← same, List.toFinset_card_of_nodup (ofList entries).nodup_keys, keys, List.length_map]
  rfl

end Dict

/-- Names that differ at most in dashes here against underscores there. -/
def DashTwins (name other : String) : Prop :=
  List.Forall₂ (fun c d => c = d ∨ c = '-' ∧ d = '_' ∨ c = '_' ∧ d = '-') name.toList other.toList

namespace NameStyle

/-- A character of a name in the snake style. -/
def underscore (c : Char) : Char := if c = '-' then '_' else c

theorem toList_rename_snake (key : String) :
    (snake.rename key).toList = key.toList.map underscore := String.toList_map

theorem rename_snake_eq_iff {key name : String} :
    snake.rename key = name ↔ key.toList.map underscore = name.toList := by
  rw [← String.toList_inj, toList_rename_snake]

theorem underscore_ne_dash (c : Char) : underscore c ≠ '-' := by
  unfold underscore
  split
  · decide
  · assumption

theorem dash_not_mem_rename (key : String) : '-' ∉ (snake.rename key).toList := by
  rw [toList_rename_snake, List.mem_map]
  rintro ⟨c, -, dash⟩
  exact underscore_ne_dash c dash

/-- A name without dashes keeps its spelling. -/
theorem rename_snake_of_free {key : String} (free : '-' ∉ key.toList) :
    snake.rename key = key := by
  have same : key.toList.map underscore = key.toList.map id := by
    refine List.map_congr_left fun c member => if_neg ?_
    rintro rfl
    exact free member
  rw [rename_snake_eq_iff, same, List.map_id]

/-- A name that is spelled with neither dashes nor underscores comes from itself alone. -/
theorem eq_of_rename_snake {key name : String} (free : '_' ∉ name.toList)
    (renamed : snake.rename key = name) : key = name := by
  have undashed : '-' ∉ key.toList := by
    intro dash
    apply free
    rw [← renamed, toList_rename_snake]
    exact List.mem_map.mpr ⟨'-', dash, rfl⟩
  rw [← renamed, rename_snake_of_free undashed]

theorem underscore_eq_iff {c d : Char} :
    underscore c = underscore d ↔ c = d ∨ c = '-' ∧ d = '_' ∨ c = '_' ∧ d = '-' := by
  unfold underscore
  grind

theorem dashTwins_iff {key name : String} :
    DashTwins key name ↔ snake.rename key = snake.rename name := by
  rw [rename_snake_eq_iff, toList_rename_snake, ← List.forall₂_eq_eq_eq,
    List.forall₂_map_left_iff, List.forall₂_map_right_iff, DashTwins]
  simp only [underscore_eq_iff]

theorem not_underscore_lt (c : Char) : ¬underscore c < c := by
  unfold underscore
  split
  · next dash => rw [dash]; decide
  · exact Char.lt_irrefl c

theorem not_map_underscore_lt (cs : List Char) : ¬cs.map underscore < cs := by
  induction cs with
  | nil => exact List.not_lt_nil _
  | cons c cs ih =>
    rw [List.map_cons, List.cons_lt_cons_iff]
    rintro (below | ⟨-, below⟩)
    · exact not_underscore_lt c below
    · exact ih below

/-- An underscore is greater than a dash, so no name falls below its dashed variants. -/
theorem not_rename_snake_lt (key : String) : ¬snake.rename key < key := by
  rw [String.lt_iff, toList_rename_snake]
  exact not_map_underscore_lt key.toList

end NameStyle

namespace Item

theorem row_ofRow_kebab (row : Row) : (ofRow .kebab row).row = row := by
  have same : row.entries.map (fun e => (NameStyle.kebab.rename e.1, e.2)) = row.entries :=
    List.map_id row.entries
  exact (congrArg Dict.ofList same).trans (Dict.ofList_entries row)

/-- An attribute of an item has the value of the greatest of the names that became its name. -/
theorem get?_ofRow (style : NameStyle) (row : Row) {key value : String} :
    (ofRow style row).get? key = some value ↔
      ∃ old, style.rename old = key ∧ row.get? old = some value ∧
        ∀ other ∈ row.keys, style.rename other = key → ¬old < other := by
  have candidates : Ascending (row.entries.filter fun e => style.rename e.1 = key) :=
    row.ascending.sublist List.filter_sublist
  have found : (ofRow style row).get? key =
      (row.entries.filter fun e => style.rename e.1 = key).getLast?.map Prod.snd := by
    rw [get?, ofRow, Dict.get?_ofList, List.filter_map, List.getLast?_map, Option.map_map]
    rfl
  rw [found, Option.map_eq_some_iff]
  simp only [candidates.getLast?_eq_some_iff, List.mem_filter, decide_eq_true_eq]
  constructor
  · rintro ⟨⟨old, v⟩, ⟨⟨member, renamed⟩, greatest⟩, rfl⟩
    refine ⟨old, renamed, row.get?_eq_some_iff.mpr member, fun other present same => ?_⟩
    obtain ⟨e, among, rfl⟩ := List.mem_map.mp present
    exact greatest e ⟨among, same⟩
  · rintro ⟨old, renamed, stored, greatest⟩
    refine ⟨(old, value), ⟨⟨row.get?_eq_some_iff.mp stored, renamed⟩, ?_⟩, rfl⟩
    rintro e ⟨among, same⟩
    exact greatest e.1 (List.mem_map_of_mem among) same

theorem mem_keys_ofRow {style : NameStyle} {row : Row} {key : String} :
    key ∈ (ofRow style row).row.keys ↔ ∃ old ∈ row.keys, style.rename old = key := by
  rw [ofRow, Dict.mem_keys_ofList, List.map_map]
  simp [Dict.keys]

/-- An item has one attribute for each name that the names of the row become. -/
theorem size_ofRow (style : NameStyle) (row : Row) :
    (ofRow style row).row.size = (row.keys.map style.rename).toFinset.card := by
  rw [ofRow, Dict.size_ofList, List.map_map, Dict.keys, List.map_map]
  rfl

/-- What is renamed once is renamed for good. -/
theorem ofRow_snake_row (row : Row) :
    ofRow .snake (ofRow .snake row).row = ofRow .snake row := by
  let item := ofRow .snake row
  have same : item.row.entries.map (fun e => (NameStyle.snake.rename e.1, e.2)) =
      item.row.entries.map id := by
    apply List.map_congr_left
    intro e among
    obtain ⟨old, -, renamed⟩ := mem_keys_ofRow.mp (List.mem_map_of_mem among)
    have free : '-' ∉ e.1.toList := renamed ▸ NameStyle.dash_not_mem_rename old
    rw [NameStyle.rename_snake_of_free free]
    rfl
  rw [List.map_id] at same
  have rebuilt : (ofRow .snake item.row).row = item.row :=
    (congrArg Dict.ofList same).trans (Dict.ofList_entries item.row)
  exact congrArg Item.mk rebuilt

/-- A name that is spelled with neither dashes nor underscores is not touched. -/
theorem get?_ofRow_of_plain (row : Row) {key : String} (undashed : '-' ∉ key.toList)
    (plain : '_' ∉ key.toList) : (ofRow .snake row).get? key = row.get? key := by
  ext value
  rw [get?_ofRow]
  constructor
  · rintro ⟨old, renamed, stored, -⟩
    rwa [NameStyle.eq_of_rename_snake plain renamed] at stored
  · intro stored
    refine ⟨key, NameStyle.rename_snake_of_free undashed, stored, fun other _ renamed => ?_⟩
    rw [NameStyle.eq_of_rename_snake plain renamed]
    exact String.lt_irrefl key

/-- A name that is spelled with underscores already has precedence over its dashed variants. -/
theorem get?_ofRow_of_undashed {row : Row} {key value : String} (undashed : '-' ∉ key.toList)
    (stored : row.get? key = some value) : (ofRow .snake row).get? key = some value := by
  refine (get?_ofRow .snake row).mpr
    ⟨key, NameStyle.rename_snake_of_free undashed, stored, fun other _ renamed => ?_⟩
  rw [← renamed]
  exact NameStyle.not_rename_snake_lt other

/-- Nothing is lost exactly where no two names differ in dashes and underscores only. -/
theorem size_ofRow_eq_iff (row : Row) :
    (ofRow .snake row).row.size = row.size ↔
      ∀ name ∈ row.keys, ∀ other ∈ row.keys, DashTwins name other → name = other := by
  let renamed : Multiset String := row.keys.map NameStyle.snake.rename
  have all : row.size = renamed.card := by
    rw [Multiset.coe_card, Dict.keys, List.length_map, List.length_map]
    rfl
  simp only [NameStyle.dashTwins_iff]
  rw [size_ofRow, all, ← List.nodup_map_iff_inj_on row.nodup_keys]
  exact Multiset.toFinset_card_eq_card_iff_nodup

end Item

/-- The kebab style keeps the row. Under the snake style an attribute has the value of the greatest,
byte by byte, of the names that become its name, so one that is spelled with underscores stays. The
names that occur are those that the names of the row become, and none has a dash. Nothing is lost
unless two names differ in dashes and underscores only. Neither style touches the identifier, and
renaming again changes nothing. -/
theorem renaming_keeps_greatest (row : Row) :
    let kebab := Item.ofRow .kebab row
    let snake := Item.ofRow .snake row
    let underscored (key : String) :=
      String.ofList (key.toList.map fun c => if c = '-' then '_' else c)
    kebab.row = row ∧
    (∀ key value, snake.get? key = some value ↔
      ∃ old, underscored old = key ∧ row.get? old = some value ∧
        ∀ other ∈ row.keys, underscored other = key → ¬Text.bytes old < Text.bytes other) ∧
    (∀ key value, '-' ∉ key.toList → row.get? key = some value → snake.get? key = some value) ∧
    (∀ key, key ∈ snake.row.keys ↔ ∃ old ∈ row.keys, underscored old = key) ∧
    (∀ key ∈ snake.row.keys, '-' ∉ key.toList) ∧
    snake.row.size = (row.keys.map underscored).toFinset.card ∧
    (snake.row.size = row.size ↔
      ∀ name ∈ row.keys, ∀ other ∈ row.keys, DashTwins name other → name = other) ∧
    (kebab.id? = row.get? ".id" ∧ snake.id? = row.get? ".id") ∧
    Item.ofRow .snake snake.row = snake := by
  intro kebab snake underscored
  have spelled : underscored = NameStyle.snake.rename := by
    funext key
    rw [← String.toList_inj, NameStyle.toList_rename_snake, String.toList_ofList]
    rfl
  have kept : kebab.row = row := Item.row_ofRow_kebab row
  rw [spelled]
  refine ⟨kept, ?_, fun key value => Item.get?_ofRow_of_undashed, fun key => Item.mem_keys_ofRow,
    ?_, Item.size_ofRow .snake row, Item.size_ofRow_eq_iff row, ⟨?_, ?_⟩, Item.ofRow_snake_row row⟩
  · intro key value
    simp only [Text.bytes_lt_iff]
    exact Item.get?_ofRow .snake row
  · intro key present
    obtain ⟨old, -, rfl⟩ := Item.mem_keys_ofRow.mp present
    exact NameStyle.dash_not_mem_rename old
  · rw [Item.id?, Item.get?, kept, idName]
  · exact Item.get?_ofRow_of_plain row (by decide) (by decide)

/-- Of two spellings with a dash each, the one whose first character that differs is an underscore
is the greater one, and a third one without dashes is greater still. -/
theorem renaming_keeps_greatest_collision :
    let row : Row := Dict.ofList
      [(".id", "*1"), ("mac-address", "AA"), ("mac_address", "BB"), ("rx-byte_rate", "1"),
        ("rx_byte-rate", "2")]
    let item := Item.ofRow .snake row
    item.get? "mac_address" = some "BB" ∧ item.get? "rx_byte_rate" = some "2" ∧
      item.id? = some "*1" ∧ item.row.size = 3 ∧ Item.ofRow .snake item.row = item := by
  intro row item
  obtain ⟨-, greatest, undashed, -, -, size, -, ⟨-, id⟩, again⟩ := renaming_keeps_greatest row
  refine ⟨undashed _ _ (by decide) (by decide), (greatest _ _).mpr ?_, id, size, again⟩
  refine ⟨"rx_byte-rate", by decide, by decide, ?_⟩
  simp only [Text.bytes_lt_iff]
  decide

end DeviceQuery
