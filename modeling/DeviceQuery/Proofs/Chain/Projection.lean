import DeviceQuery.Proofs.Chain.Calls
import Mathlib.Data.List.Forall2

/-!
# Projections as they are asked for

A name is reserved if `id` or `dead` stands in it somewhere (`isReserved_iff`). A dot before the
name changes nothing about that (`internal_dot_iff`), so a name is asked for with a dot at most
once (`escape_escape`), and a projection may be selected again as often as one likes
(`projection_escapes`).
-/

namespace DeviceQuery

namespace Menu

/-- The name holds one of the two texts by which the device tells its own attributes. -/
def Internal (name : String) : Prop :=
  "id".toList <:+: name.toList ∨ "dead".toList <:+: name.toList

/-- The name starts with a dot. -/
def Dotted (name : String) : Prop := name.toList.head? = some '.'

instance (name : String) : Decidable (Internal name) := inferInstanceAs (Decidable (_ ∨ _))

instance (name : String) : Decidable (Dotted name) := inferInstanceAs (Decidable (_ = _))

/-- What `nextid` stands in holds `id` anyway. -/
theorem isReserved_iff {name : String} : isReserved name ↔ Internal name := by
  have inside : "id".toList <:+: "nextid".toList := by decide
  have third : "nextid".toList <:+: name.toList → Internal name :=
    fun found => .inl (inside.trans found)
  simp only [isReserved, reservedTexts, List.any_cons, List.any_nil, Bool.or_false,
    Bool.or_eq_true, Text.occursIn_iff]
  rw [← or_assoc]
  exact or_iff_left_of_imp third

theorem toList_dot (name : String) : ("." ++ name).toList = '.' :: name.toList :=
  String.toList_append

/-- Neither of the two texts starts with a dot, so one in front adds none and hides none. -/
theorem internal_dot_iff {name : String} : Internal ("." ++ name) ↔ Internal name := by
  have apart {first : Char} (other : first ≠ '.') (rest : List Char) :
      first :: rest <:+: '.' :: name.toList ↔ first :: rest <:+: name.toList := by
    rw [List.infix_cons_iff, List.cons_prefix_cons]
    exact or_iff_right fun start => other start.1
  rw [Internal, Internal, toList_dot]
  exact or_congr (apart (by decide) ['d']) (apart (by decide) ['e', 'a', 'd'])

theorem dotted_dot (name : String) : Dotted ("." ++ name) := by
  rw [Dotted, toList_dot, List.head?_cons]

theorem escape_eq (name : String) :
    escape name = if Dotted name ∨ ¬Internal name then name else "." ++ name := by
  unfold escape
  split
  · next rest chars =>
    have dotted : Dotted name := by rw [Dotted, chars, List.head?_cons]
    rw [if_pos (.inl dotted)]
  · next undotted =>
    have other : ¬Dotted name := by
      intro head
      obtain ⟨rest, chars⟩ := List.head?_eq_some_iff.mp head
      exact undotted rest chars
    simp only [other, false_or, isReserved_iff, ite_not]

theorem escape_of_dotted {name : String} (dotted : Dotted name) : escape name = name := by
  rw [escape_eq, if_pos (.inl dotted)]

/-- A name stays as it is, or gets the dot that it lacks. -/
theorem escape_cases (name : String) :
    escape name = name ∨ ¬Dotted name ∧ escape name = "." ++ name := by
  rw [escape_eq]
  split
  · exact .inl rfl
  · next bare => exact .inr ⟨fun dotted => bare (.inl dotted), rfl⟩

theorem internal_escape_iff {name : String} : Internal (escape name) ↔ Internal name := by
  rcases escape_cases name with same | ⟨-, dot⟩
  · rw [same]
  · rw [dot, internal_dot_iff]

theorem isReserved_escape (name : String) : isReserved (escape name) = isReserved name := by
  rw [Bool.eq_iff_iff, isReserved_iff, isReserved_iff, internal_escape_iff]

theorem escape_escape (name : String) : escape (escape name) = escape name := by
  rcases escape_cases name with same | ⟨-, dot⟩
  · rw [same, same]
  · rw [dot, escape_of_dotted (dotted_dot name)]

/-- How a name is asked for. -/
structure AskedAs (name entry : String) : Prop where
  spelling : entry = if Dotted name ∨ ¬Internal name then name else "." ++ name
  /-- Nothing reserved is asked for without a dot. -/
  dotted : isReserved entry → Dotted entry
  /-- Where two dots stand in front, both were there before. -/
  undoubled : ['.', '.'] <+: entry.toList → entry = name
  reserved : isReserved entry = isReserved name

theorem askedAs_escape (name : String) : AskedAs name (escape name) where
  spelling := escape_eq name
  dotted := by
    intro reserved
    rw [isReserved_iff, internal_escape_iff] at reserved
    rcases escape_cases name with same | ⟨-, dot⟩
    · -- a reserved name that stays as it is has its dot already
      rw [same]
      by_contra undotted
      rw [escape_eq, if_neg (by simp [undotted, reserved])] at same
      exact undotted (same ▸ dotted_dot name)
    · rw [dot]
      exact dotted_dot name
  undoubled := by
    intro doubled
    rcases escape_cases name with same | ⟨undotted, dot⟩
    · exact same
    · rw [dot, toList_dot, List.cons_prefix_cons] at doubled
      exact absurd (List.singleton_prefix_iff_head?_eq_some.mp doubled.2) undotted
  reserved := isReserved_escape name

end Menu

/-- The calls that select some names. -/
def Call.selections (names : List String) : List Call :=
  [.select names, .only names, .proplist names]

namespace Chain

/-- A call that selects sets the projection and leaves all else alone. -/
theorem apply_of_selection (q : Chain) {names : List String} {call : Call}
    (selects : call ∈ Call.selections names) :
    q.apply call = { q with projection := some (names.map Menu.escape) } := by
  have set : call.projection = some (names.map Menu.escape) ∧ call.terms = [] := by
    simp only [Call.selections, List.mem_cons, List.not_mem_nil, or_false] at selects
    rcases selects with rfl | rfl | rfl <;> exact ⟨rfl, rfl⟩
  rw [apply, call.addTo_eq, set.1, set.2, List.append_nil]
  rfl

/-- A projection that needs no more dots may be selected again. -/
theorem applyAll_selections {q : Chain} {entries : List String}
    (projection : q.projection = some entries) (escaped : entries.map Menu.escape = entries)
    {again : List Call} (selecting : ∀ call ∈ again, call ∈ Call.selections entries) :
    q.applyAll again = q := by
  induction again with
  | nil => rfl
  | cons call again ih =>
    obtain ⟨first, later⟩ := List.forall_mem_cons.mp selecting
    have same : q.apply call = q := by
      rw [q.apply_of_selection first, escaped, ← projection]
    calc q.applyAll (call :: again)
        = (q.apply call).applyAll again := rfl
      _ = q := by rw [same, ih later]

end Chain

/-- A selection sets one entry for each name, in their order: the name, with a dot before it if
`id` or `dead` stands in it and it has no dot. Every reserved entry has its dot, none has got a
second one, and an entry is reserved if its name is. To select the entries again, be it once or many
times, changes nothing. -/
theorem projection_escapes (q : Chain) (names : List String) :
    ∃ entries, (∀ call ∈ Call.selections names, (q.apply call).projection = some entries) ∧
      List.Forall₂ Menu.AskedAs names entries ∧
      (∀ name, Menu.isReserved name ↔ Menu.Internal name) ∧
      ∀ call ∈ Call.selections names, ∀ again : List Call,
        (∀ other ∈ again, other ∈ Call.selections entries) →
        (q.apply call).applyAll again = q.apply call := by
  have escaped : (names.map Menu.escape).map Menu.escape = names.map Menu.escape := by
    rw [List.map_map]
    exact List.map_congr_left fun name _ => Menu.escape_escape name
  have projected {call : Call} (selects : call ∈ Call.selections names) :
      (q.apply call).projection = some (names.map Menu.escape) := by
    rw [q.apply_of_selection selects]
  refine ⟨names.map Menu.escape, fun call => projected, ?_, fun name => Menu.isReserved_iff, ?_⟩
  · rw [List.forall₂_map_right_iff, List.forall₂_same]
    exact fun name _ => Menu.askedAs_escape name
  · intro call selects again selecting
    exact Chain.applyAll_selections (projected selects) escaped selecting

/-- `bridge` holds `id` as `nextid` does, and a name with a dot stays as it is, be it reserved or
not. -/
theorem projection_escapes_bridge :
    let q := Chain.on "interface" {}
    let entries := [".bridge", "name", ".nextid", ".id", "..dead", ".name"]
    let selected := q.apply (.only ["bridge", "name", "nextid", ".id", "..dead", ".name"])
    selected.projection = some entries ∧
      selected.applyAll [.select entries, .proplist entries] = selected := by
  intro q entries selected
  obtain ⟨found, projected, -, -, stable⟩ :=
    projection_escapes q ["bridge", "name", "nextid", ".id", "..dead", ".name"]
  have projection : selected.projection = some entries := by decide
  have same : found = entries :=
    Option.some_inj.mp ((projected (.only _) (by decide)).symm.trans projection)
  subst same
  exact ⟨projection, stable (.only _) (by decide) _ (by decide)⟩

end DeviceQuery
