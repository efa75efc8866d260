import DeviceQuery.Proofs.Filter.Balance
import DeviceQuery.Proofs.Request.Basic
import Mathlib.Data.List.Induction
import Mathlib.Data.List.TakeWhile

/-!
# The meaning of a chain

The calls of a chain describe groups of conditions, all of which are to hold. A condition starts a
group of its own; a combinator joins its condition, or the denial of it, to the last group. The
filter of the chain is compiled for the stack of the device, where the groups are the values on the
stack, and comes to what the groups say (`meaning_eq_groups`).
-/

namespace DeviceQuery

/-- A statement made of conditions. -/
inductive Formula where
  | condition (c : Condition)
  | not (f : Formula)
  | and (f g : Formula)
  | or (f g : Formula)
deriving DecidableEq

/-- The formula holds when the conditions have these truth values. -/
def Formula.holds (truth : Condition → Bool) : Formula → Bool
  | condition c => truth c
  | not f => !f.holds truth
  | and f g => f.holds truth && g.holds truth
  | or f g => f.holds truth || g.holds truth

/-- The conditions that the device evaluates for some criteria. -/
def Criteria.conditions (c : Criteria) (comparison : Comparison) : List Condition :=
  c.pairs.map fun (name, value) => { marker := .query, comparison, name, value }

theorem Criteria.terms_query (c : Criteria) (comparison : Comparison) :
    c.terms .query comparison = (c.conditions comparison).map Term.condition := by
  simp [terms, conditions, Function.comp_def]

@[simp] theorem Criteria.length_terms (c : Criteria) (marker : Marker) (comparison : Comparison) :
    (c.terms marker comparison).length = c.size := List.length_map _

theorem Criteria.marker_of_conditions {c : Criteria} {comparison : Comparison} :
    ∀ d ∈ c.conditions comparison, d.marker = .query := by
  intro d member
  obtain ⟨pair, -, rfl⟩ := List.mem_map.mp member
  rfl

theorem Criteria.effect_of_query {c : Criteria} {comparison : Comparison} :
    ∀ t ∈ c.terms .query comparison, t.effect = .push := by
  intro t member
  obtain ⟨pair, -, rfl⟩ := List.mem_map.mp member
  rfl

theorem Criteria.effect_of_plain {c : Criteria} {comparison : Comparison} :
    ∀ t ∈ c.terms .plain comparison, t.effect = .skip := by
  intro t member
  obtain ⟨pair, -, rfl⟩ := List.mem_map.mp member
  rfl

/-- Criteria on a single attribute make one condition. -/
theorem Criteria.conditions_of_size {c : Criteria} (single : c.size = 1)
    (comparison : Comparison) :
    ∃ name value, c.conditions comparison = [{ marker := .query, comparison, name, value }] := by
  obtain ⟨⟨name, value⟩, pair⟩ := List.length_eq_one_iff.mp single
  refine ⟨name, value, ?_⟩
  rw [conditions, pair]
  rfl

namespace Call

/-- The conditions of a call that the device evaluates. -/
def conditions : Call → List Condition
  | given c | query c | filter c | marked c true => c.conditions .equal
  | orGiven c | andGiven c | notGiven c | orNotGiven c | andNotGiven c => c.conditions .equal
  | above name value => (Criteria.single name value).conditions .greater
  | below name value => (Criteria.single name value).conditions .less
  | present name | notEmpty name => (Criteria.key name).conditions .greater
  | missing name | notPresent name => (Criteria.key name).conditions .absent
  | select _ | only _ | proplist _ | marked _ false | raw _ | options _ | option _ => []

/-- The call joins its condition to the group before it. -/
def joins : Call → Bool
  | orGiven _ | andGiven _ | orNotGiven _ | andNotGiven _ => true
  | _ => false

/-- The call can be described by groups. A combinator and a denial take a single condition, and raw
words may say anything. -/
def Describable : Call → Prop
  | orGiven c | andGiven c | notGiven c | orNotGiven c | andNotGiven c => c.size = 1
  | raw _ => False
  | _ => True

/-- The groups with a new one for each condition. -/
def opened (cs : List Condition) (groups : List Formula) : List Formula :=
  (cs.map Formula.condition).reverse ++ groups

/-- The groups with a formula joined to the last one, which stands first. -/
def joinedTo (join : Formula → Formula → Formula) (groups : List Formula) (f : Formula) :
    List Formula :=
  match groups with
  | [] => []
  | last :: earlier => join last f :: earlier

/-- The groups after a call, the last one first. -/
def regroup (groups : List Formula) (call : Call) : List Formula :=
  match call, call.conditions with
  | orGiven _, [c] => joinedTo .or groups (.condition c)
  | andGiven _, [c] => joinedTo .and groups (.condition c)
  | orNotGiven _, [c] => joinedTo .or groups (.not (.condition c))
  | andNotGiven _, [c] => joinedTo .and groups (.not (.condition c))
  | notGiven _, [c] => .not (.condition c) :: groups
  | _, cs => opened cs groups

end Call

/-- The groups that calls describe, the last one first. -/
def groups (calls : List Call) : List Formula := calls.foldl Call.regroup []

/-- Calls that groups can describe: each one for itself, and where one joins its condition to a
group, there is a condition before it. -/
structure Fluent (calls : List Call) : Prop where
  describable : ∀ call ∈ calls, call.Describable
  joined : ∀ before call after, calls = before ++ call :: after → call.joins = true →
    ∃ earlier ∈ before, earlier.conditions ≠ []

/-! ## Single calls -/

section

variable (truth : Term → Bool)

/-- The value of a formula under the values of the terms. -/
def Formula.value (f : Formula) : Bool := f.holds fun c => truth (.condition c)

/-- Operands push their values one by one. -/
theorem run_pushes {f : Filter} (pushes : ∀ t ∈ f, t.effect = .push) (stack : List Bool) :
    (Filter.valued truth f).run stack = some ((f.map truth).reverse ++ stack) := by
  induction f generalizing stack with
  | nil => rfl
  | cons t f ih =>
    obtain ⟨operand, noOperator, -⟩ := Term.described (pushes t List.mem_cons_self)
    have rest := ih (fun u member => pushes u (List.mem_cons_of_mem t member)) (truth t :: stack)
    rw [List.map_cons, List.reverse_cons, List.append_assoc, List.singleton_append, ← rest]
    simp only [Filter.valued, List.map_cons, Valuation.run, Term.evaluate, noOperator, operand,
      if_true, Option.bind_some]

/-- Conditions that the device evaluates open a group each. -/
theorem run_conditions {cs : List Condition} (marked : ∀ c ∈ cs, c.marker = .query)
    (groups : List Formula) :
    (Filter.valued truth (cs.map Term.condition)).run (groups.map (Formula.value truth)) =
      some ((Call.opened cs groups).map (Formula.value truth)) := by
  have pushes : ∀ t ∈ cs.map Term.condition, t.effect = .push := by
    intro t member
    obtain ⟨c, within, rfl⟩ := List.mem_map.mp member
    simp only [Term.effect, marked c within]
  rw [run_pushes truth pushes, Call.opened, List.map_append, List.map_reverse, List.map_map,
    List.map_map]
  rfl

/-- Terms that leave the stack alone, one by one. -/
theorem run_skips {f : Filter} (skips : ∀ t ∈ f, t.effect = .skip) (stack : List Bool) :
    (Filter.valued truth f).run stack = some stack := by
  induction f with
  | nil => rfl
  | cons t f ih =>
    obtain ⟨noOperand, noOperator, -⟩ := Term.described (skips t List.mem_cons_self)
    simp only [Filter.valued, List.map_cons, Valuation.run, Term.evaluate, noOperator, noOperand]
    exact ih fun u member => skips u (List.mem_cons_of_mem t member)

/-- Criteria that the device evaluates open a group for each of their conditions. -/
theorem run_criteria (c : Criteria) (comparison : Comparison) (groups : List Formula) :
    (Filter.valued truth (c.terms .query comparison)).run (groups.map (Formula.value truth)) =
      some ((Call.opened (c.conditions comparison) groups).map (Formula.value truth)) := by
  rw [c.terms_query]
  exact run_conditions truth Criteria.marker_of_conditions groups

/-- What a call adds to the filter, run on the values of the groups, leaves the values of the
groups after the call. -/
theorem run_terms {call : Call} (describable : call.Describable) {groups : List Formula}
    (present : call.joins = true → groups ≠ []) :
    (Filter.valued truth call.terms).run (groups.map (Formula.value truth)) =
      some ((call.regroup groups).map (Formula.value truth)) := by
  cases call with
  | select names | only names | proplist names => rfl
  | given c | query c | filter c =>
    rw [Call.terms, Call.queried, List.map_nil, List.append_nil]
    exact run_criteria truth c .equal groups
  | marked c questionMark =>
    cases questionMark with
    | false => exact run_skips truth Criteria.effect_of_plain _
    | true => exact run_criteria truth c .equal groups
  | raw words => exact absurd describable id
  | orGiven c | andGiven c | orNotGiven c | andNotGiven c =>
    obtain ⟨name, value, single⟩ := Criteria.conditions_of_size describable .equal
    obtain ⟨last, earlier, rfl⟩ := List.exists_cons_of_ne_nil (present rfl)
    rw [Call.terms, Call.queried, c.terms_query, single]
    simp only [Call.regroup, Call.conditions, single]
    rfl
  | notGiven c =>
    obtain ⟨name, value, single⟩ := Criteria.conditions_of_size describable .equal
    rw [Call.terms, Call.queried, c.terms_query, single]
    simp only [Call.regroup, Call.conditions, single]
    rfl
  | above name value | below name value => rfl
  | present name | notEmpty name | missing name | notPresent name => rfl
  | options names => exact run_skips truth Criteria.effect_of_plain _
  | option name => rfl

end

/-! ## Runs of calls -/

/-- There are groups after a call if there were groups before it or it opens one. -/
theorem regroup_ne_nil {call : Call} (describable : call.Describable) {groups : List Formula}
    (present : groups ≠ [] ∨ call.joins = false ∧ call.conditions ≠ []) :
    call.regroup groups ≠ [] := by
  have opens : groups ≠ [] ∨ call.conditions ≠ [] → Call.opened call.conditions groups ≠ [] := by
    intro either same
    obtain ⟨none, empty⟩ := List.append_eq_nil_iff.mp same
    simp at none
    rcases either with nonempty | nonempty
    · exact nonempty empty
    · exact nonempty none
  cases call with
  | orGiven c | andGiven c | orNotGiven c | andNotGiven c =>
    obtain ⟨name, value, single⟩ := Criteria.conditions_of_size describable .equal
    simp only [Call.regroup, Call.conditions, single]
    rcases present with nonempty | ⟨opening, -⟩
    · obtain ⟨last, earlier, rfl⟩ := List.exists_cons_of_ne_nil nonempty
      exact List.cons_ne_nil _ _
    · cases opening
  | notGiven c =>
    obtain ⟨name, value, single⟩ := Criteria.conditions_of_size describable .equal
    simp only [Call.regroup, Call.conditions, single]
    exact List.cons_ne_nil _ _
  | _ => exact opens (present.imp_right And.right)

theorem fluent_append_iff {calls : List Call} {call : Call} :
    Fluent (calls ++ [call]) ↔ Fluent calls ∧ call.Describable ∧
      (call.joins = true → ∃ earlier ∈ calls, earlier.conditions ≠ []) := by
  constructor
  · rintro ⟨describable, joined⟩
    obtain ⟨inner, last⟩ := forall_cut_append_iff.mp joined
    have member : call ∈ calls ++ [call] := by simp
    exact ⟨⟨fun earlier within => describable earlier (List.mem_append_left _ within), inner⟩,
      describable call member, last⟩
  · rintro ⟨fluent, describable, joined⟩
    refine ⟨fun other member => ?_, forall_cut_append_iff.mpr ⟨fluent.joined, joined⟩⟩
    rcases List.mem_append.mp member with earlier | last
    · exact fluent.describable other earlier
    · rw [List.mem_singleton.mp last]
      exact describable

theorem groups_append (calls : List Call) (call : Call) :
    groups (calls ++ [call]) = call.regroup (groups calls) := List.foldl_append

/-- There are groups as soon as there are conditions. The induction is from the last call on, for
what a call finds is what the calls before it have left. -/
theorem groups_ne_nil {calls : List Call} (fluent : Fluent calls)
    (conditions : ∃ earlier ∈ calls, earlier.conditions ≠ []) : groups calls ≠ [] := by
  induction calls using List.reverseRecOn with
  | nil =>
    obtain ⟨earlier, member, -⟩ := conditions
    cases member
  | append_singleton calls call ih =>
    obtain ⟨init, describable, joined⟩ := fluent_append_iff.mp fluent
    rw [groups_append]
    apply regroup_ne_nil describable
    obtain ⟨earlier, member, nonempty⟩ := conditions
    rcases List.mem_append.mp member with before | last
    · exact Or.inl (ih init ⟨earlier, before, nonempty⟩)
    · cases joining : call.joins with
      | true => exact Or.inl (ih init (joined joining))
      | false =>
        rw [List.mem_singleton.mp last] at nonempty
        exact Or.inr ⟨rfl, nonempty⟩

/-- The filter that calls put together leaves the values of the groups on the stack. -/
theorem run_calls {calls : List Call} (fluent : Fluent calls) (truth : Term → Bool) :
    (Filter.valued truth (calls.flatMap Call.terms)).run [] =
      some ((groups calls).map (Formula.value truth)) := by
  induction calls using List.reverseRecOn with
  | nil => rfl
  | append_singleton calls call ih =>
    obtain ⟨init, describable, joined⟩ := fluent_append_iff.mp fluent
    have present : call.joins = true → groups calls ≠ [] := fun joining =>
      groups_ne_nil init (joined joining)
    rw [List.flatMap_append, Filter.valued_append, Valuation.run_append, ih init,
      Option.bind_some, groups_append, List.flatMap_singleton]
    exact run_terms truth describable present

theorem ne_raw_of_criteria {c : Criteria} {marker : Marker} {comparison : Comparison} :
    ∀ t ∈ c.terms marker comparison, ∀ word, t ≠ .raw word := by
  intro t member word
  obtain ⟨pair, -, rfl⟩ := List.mem_map.mp member
  simp

theorem ne_raw_of_queried {c : Criteria} {ops : List Operator} :
    ∀ t ∈ Call.queried c ops, ∀ word, t ≠ .raw word := by
  intro t member
  rcases List.mem_append.mp member with condition | operator
  · exact ne_raw_of_criteria t condition
  · obtain ⟨op, -, rfl⟩ := List.mem_map.mp operator
    simp

/-- Raw words come from nowhere but the call that adds them. -/
theorem ne_raw_of_terms {call : Call} (typed : ∀ words, call ≠ .raw words) :
    ∀ t ∈ call.terms, ∀ word, t ≠ .raw word := by
  cases call with
  | select names | only names | proplist names => intro t member; cases member
  | raw words => exact absurd rfl (typed words)
  | given c | query c | filter c | orGiven c | andGiven c | notGiven c | orNotGiven c
  | andNotGiven c => exact ne_raw_of_queried
  | _ => exact ne_raw_of_criteria

/-- Only raw words can be unknown. -/
theorem known_of_describable {call : Call} (describable : call.Describable) :
    ∀ t ∈ call.terms, t.isUnknown = false := by
  intro t member
  have typed : ∀ words, call ≠ .raw words := by
    rintro words rfl
    exact describable
  have ne := ne_raw_of_terms typed t member
  cases t with
  | raw word => exact absurd rfl (ne word)
  | _ => rfl

theorem checked_calls {calls : List Call} (fluent : Fluent calls) :
    Filter.checked (calls.flatMap Call.terms) = calls.flatMap Call.terms := by
  apply List.takeWhile_eq_self_iff.mpr
  intro t member
  obtain ⟨call, called, within⟩ := List.mem_flatMap.mp member
  simp [known_of_describable (fluent.describable call called) t within]

/-- The criteria that a request takes in are as good as a last call. -/
theorem Fluent.append_request {calls : List Call} (fluent : Fluent calls) (r : Request) :
    Fluent (calls ++ r.calls) := by
  unfold Request.calls
  cases r.criteria? with
  | none => simpa using fluent
  | some c => exact fluent_append_iff.mpr ⟨fluent, trivial, fun joining => by cases joining⟩

/-- The filter of a fluent chain, with the criteria of a request taken in, is balanced, and for
every assignment of truth values it comes to the conjunction of the groups that the calls
describe. -/
theorem meaning_eq_groups (text : String) (settings : Settings) {calls : List Call}
    (fluent : Fluent calls) (r : Request) :
    let q := r.chain ((Chain.on text settings).applyAll calls)
    q.check = .ok () ∧ ∀ truth : Term → Bool,
      q.filter.meaning truth =
        some ((groups (calls ++ r.calls)).all (Formula.holds fun c => truth (.condition c))) := by
  intro q
  have all := fluent.append_request r
  have filter : q.filter = (calls ++ r.calls).flatMap Call.terms := by
    simp [q, Request.chain, Chain.on]
  constructor
  · have values : (Filter.valued (fun _ => true) q.filter).filter = q.filter.checked := by
      rw [Filter.filter_valued, filter, checked_calls all]
    apply (Filter.checkFrom_eq_ok_iff values 0 []).mpr
    rw [filter, run_calls all]
    rfl
  · intro truth
    rw [Filter.meaning, filter, run_calls all, Option.map_some, List.all_map]
    rfl

/-- A condition, an alternative to it and a comparison, with a last condition of the request. -/
theorem meaning_eq_groups_alternative :
    let given : Call := .given (.single "type" (.text "ether"))
    let alternative : Call := .orNotGiven (.single "running" (.flag true))
    let above : Call := .above "mtu" (.integer 1500)
    let calls := [given, alternative, above]
    let q := (Request.findBy (.key "comment")).chain ((Chain.on "/interface" {}).applyAll calls)
    Fluent calls ∧ q.check = .ok () ∧ ∀ truth : Term → Bool,
      q.filter.meaning truth =
        some ((groups (calls ++ [.given (.key "comment")])).all
          (Formula.holds fun c => truth (.condition c))) := by
  intro given alternative above calls q
  have none : Fluent [] := ⟨by simp, by simp⟩
  have one : Fluent [given] :=
    (@fluent_append_iff [] given).mpr ⟨none, trivial, fun joining => by cases joining⟩
  have two : Fluent [given, alternative] :=
    (@fluent_append_iff [given] alternative).mpr
      ⟨one, rfl, fun _ => ⟨given, List.mem_cons_self, List.cons_ne_nil _ _⟩⟩
  have fluent : Fluent calls :=
    (@fluent_append_iff [given, alternative] above).mpr
      ⟨two, trivial, fun joining => by cases joining⟩
  exact ⟨fluent, meaning_eq_groups "/interface" {} fluent (.findBy (.key "comment"))⟩

end DeviceQuery
