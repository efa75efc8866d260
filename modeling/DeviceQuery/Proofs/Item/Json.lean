import DeviceQuery.Item.Basic
import DeviceQuery.Proofs.Json.RoundTrip
import DeviceQuery.Proofs.Text.Bytes

/-!
# Items as JSON

The JSON text of an item lists its attributes in ascending order, and reading the text gives the
same item again, whatever characters its names and values hold (`json_round_trip`).
-/

namespace DeviceQuery

namespace Item

theorem get?_eq_some_iff (item : Item) {key value : String} :
    item.get? key = some value ↔ (key, value) ∈ item.row.entries :=
  item.row.get?_eq_some_iff

theorem parse?_json (item : Item) : Json.parse? item.json = some (.ofEntries item.row.entries) :=
  Json.parse?_writtenObject item.row.entries

theorem ofJson?_json (item : Item) : ofJson? item.json = some item := by
  simp [ofJson?, parse?_json, Json.entries?_ofEntries]

theorem json_inj {item other : Item} : item.json = other.json ↔ item = other := by
  refine ⟨fun same => Option.some.inj ?_, congrArg json⟩
  rw [← ofJson?_json item, same, ofJson?_json]

end Item

/-- An item is read back from its JSON text, which lists the attributes once each in the order of
the bytes of their names. So the text tells the item. -/
theorem json_round_trip (item : Item) :
    Item.ofJson? item.json = some item ∧
    (∃ fields : List (String × String),
      Json.parse? item.json =
        some (.object (fields.map fun (name, value) => (some name, .string (some value)))) ∧
      (∀ name value, (name, value) ∈ fields ↔ item.get? name = some value) ∧
      fields.Pairwise fun earlier later => Text.bytes earlier.1 < Text.bytes later.1) ∧
    ∀ other : Item, item.json = other.json ↔ item = other := by
  refine ⟨item.ofJson?_json, ⟨item.row.entries, item.parse?_json, ?_, ?_⟩, fun _ => Item.json_inj⟩
  · exact fun name value => item.get?_eq_some_iff.symm
  · exact item.row.ascending.imp Text.bytes_lt

end DeviceQuery
