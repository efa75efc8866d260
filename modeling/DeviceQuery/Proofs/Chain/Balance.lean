import DeviceQuery.Proofs.Chain.Meaning

/-!
# Balance call by call

Whether a chain is balanced can be told from its calls, without their words. Each call adds its
conditions to the stack; its operators need one value or two, and one that joins takes a value
away. The check passes over a call whose need is met and goes on at the height that the call leads
to, and it ends at any other call (`checkFrom_call`). So a chain is balanced exactly if every call
finds what it needs at its turn, and otherwise the shortfall is that of the first call that does
not (`balance_by_calls`). Criteria may be empty: a combinator without conditions takes the values
of earlier calls.
-/

namespace DeviceQuery

namespace Call

/-- The number of conditions that the device evaluates. -/
def size : Call → Nat
  | given c | query c | filter c | marked c true => c.size
  | orGiven c | andGiven c | notGiven c | orNotGiven c | andNotGiven c => c.size
  | above _ _ | below _ _ | present _ | notEmpty _ | missing _ | notPresent _ => 1
  | select _ | only _ | proplist _ | marked _ false | raw _ | options _ | option _ => 0

/-- How many values there must be for the operators of a call, its own conditions counted in. -/
def needs : Call → Nat
  | notGiven _ => 1
  | orGiven _ | andGiven _ | orNotGiven _ | andNotGiven _ => 2
  | _ => 0

/-- What a call adds to the height of the stack. -/
def adds (call : Call) : Int := call.size - if call.joins then 1 else 0

/-- The operators of a call find their operands on a stack of this height. -/
def Met (height : Int) (call : Call) : Prop := call.needs ≤ height + call.size

/-- The shortfall of a call that comes after `position` terms, on a stack of `height` values. A
denial comes before the operator that joins and falls short first. -/
def Reports (position height : Nat) (call : Call) (s : Shortfall) : Prop :=
  match call with
  | notGiven c => height + c.size = 0 ∧ s = ⟨.not, position + c.size, 1, 0⟩
  | andGiven c => height + c.size < 2 ∧ s = ⟨.and, position + c.size, 2, height + c.size⟩
  | orGiven c => height + c.size < 2 ∧ s = ⟨.or, position + c.size, 2, height + c.size⟩
  | andNotGiven c =>
    height + c.size = 0 ∧ s = ⟨.not, position + c.size, 1, 0⟩ ∨
      height + c.size = 1 ∧ s = ⟨.and, position + c.size + 1, 2, 1⟩
  | orNotGiven c =>
    height + c.size = 0 ∧ s = ⟨.not, position + c.size, 1, 0⟩ ∨
      height + c.size = 1 ∧ s = ⟨.or, position + c.size + 1, 2, 1⟩
  | _ => False

end Call

/-- The height of the stack after some calls, as their sizes tell it. -/
def heightOf (calls : List Call) : Int :=
  calls.foldl (fun height call => height + call.adds) 0

/-- Every call finds what it needs at its turn. -/
def Sustained (calls : List Call) : Prop :=
  ∀ before call after, calls = before ++ call :: after → call.Met (heightOf before)

/-! ## Single calls -/

namespace Filter

/-- The check passes over a call, to the height that the call leads to. -/
def Passes (call : Call) (position height : Nat) : Prop :=
  ∃ after : Nat, (after : Int) = height + call.adds ∧ ∀ rest,
    checkFrom position height (call.terms ++ rest) =
      checkFrom (position + call.terms.length) after rest

/-- The check ends at a call, with a shortfall of it. -/
def Ends (call : Call) (position height : Nat) : Prop :=
  ∃ s, call.Reports position height s ∧ ∀ rest,
    checkFrom position height (call.terms ++ rest) = .error s

variable (position height : Nat)

/-- A denial that finds a value leaves one. -/
theorem checkFrom_not (enough : 1 ≤ height) (rest : Filter) :
    checkFrom position height (.operator .not :: rest) = checkFrom (position + 1) height rest := by
  have found : ¬ height < Operator.not.arity := Nat.not_lt.mpr enough
  have same : height - Operator.not.arity + 1 = height := Nat.sub_add_cancel enough
  simp only [checkFrom, Term.effect, if_neg found, same]

theorem checkFrom_not_zero (rest : Filter) :
    checkFrom position 0 (.operator .not :: rest) = .error ⟨.not, position, 1, 0⟩ := rfl

variable {op : Operator} (binary : op.arity = 2)
include binary

/-- An operator that joins the two values it finds leaves one of them. -/
theorem checkFrom_binary (enough : 2 ≤ height) (rest : Filter) :
    checkFrom position height (.operator op :: rest) =
      checkFrom (position + 1) (height - 1) rest := by
  have found : ¬ height < op.arity := by omega
  have less : height - op.arity + 1 = height - 1 := by omega
  simp only [checkFrom, Term.effect, if_neg found, less]

theorem checkFrom_binary_of_short (short : height < 2) (rest : Filter) :
    checkFrom position height (.operator op :: rest) = .error ⟨op, position, 2, height⟩ := by
  have lack : height < op.arity := by omega
  simp only [checkFrom, Term.effect, if_pos lack]
  rw [binary]

omit binary

theorem checkFrom_queried (c : Criteria) (ops : List Operator) (rest : Filter) :
    checkFrom position height (Call.queried c ops ++ rest) =
      checkFrom (position + c.size) (height + c.size) (ops.map Term.operator ++ rest) := by
  rw [Call.queried, List.append_assoc, checkFrom_pushes Criteria.effect_of_query, c.length_terms]

theorem length_queried (c : Criteria) (ops : List Operator) :
    (Call.queried c ops).length = c.size + ops.length := by
  rw [Call.queried, List.length_append, c.length_terms, List.length_map]

/-- A call that adds nothing but conditions that the device evaluates. -/
theorem passes_of_pushes {call : Call} (pushes : ∀ t ∈ call.terms, t.effect = .push)
    (size : call.size = call.terms.length) (single : call.joins = false) :
    Passes call position height := by
  refine ⟨height + call.size, ?_, fun rest => ?_⟩
  · simp [Call.adds, single]
  · rw [checkFrom_pushes pushes, size]

/-- A call that adds nothing that the device evaluates. -/
theorem passes_of_skips {call : Call} (skips : ∀ t ∈ call.terms, t.effect = .skip)
    (size : call.size = 0) (single : call.joins = false) : Passes call position height := by
  refine ⟨height, ?_, fun rest => ?_⟩
  · simp [Call.adds, size, single]
  · rw [checkFrom_skips skips]

/-- A call without operators always finds what it needs. -/
theorem met_of_needs {call : Call} (needs : call.needs = 0) : call.Met height := by
  unfold Call.Met
  omega

/-- The check passes over a call exactly if the call finds what it needs. -/
theorem checkFrom_call {call : Call} (typed : ∀ words, call ≠ .raw words) :
    call.Met height ∧ Passes call position height ∨
      ¬ call.Met height ∧ Ends call position height := by
  cases call with
  | select names | only names | proplist names =>
    refine .inl ⟨met_of_needs height rfl, passes_of_skips position height ?_ rfl rfl⟩
    simp [Call.terms]
  | raw words => exact absurd rfl (typed words)
  | given c | query c | filter c =>
    have terms : Call.queried c [] = c.terms .query .equal := List.append_nil _
    refine .inl ⟨met_of_needs height rfl, passes_of_pushes position height ?_ ?_ rfl⟩
    · rw [Call.terms, terms]
      exact Criteria.effect_of_query
    · rw [Call.terms, terms, c.length_terms, Call.size]
  | marked c questionMark =>
    refine .inl ⟨met_of_needs height rfl, ?_⟩
    cases questionMark with
    | true =>
      exact passes_of_pushes position height Criteria.effect_of_query (c.length_terms _ _).symm rfl
    | false => exact passes_of_skips position height Criteria.effect_of_plain rfl rfl
  | above name value | below name value | present name | notEmpty name | missing name
  | notPresent name =>
    exact .inl ⟨met_of_needs height rfl,
      passes_of_pushes position height Criteria.effect_of_query rfl rfl⟩
  | options names | option name =>
    exact .inl ⟨met_of_needs height rfl,
      passes_of_skips position height Criteria.effect_of_plain rfl rfl⟩
  | notGiven c =>
    have terms (rest : Filter) := checkFrom_queried position height c [.not] rest
    by_cases enough : 1 ≤ height + c.size
    · have met : 1 ≤ (height : Int) + c.size := by omega
      refine .inl ⟨met, height + c.size, by simp [Call.adds, Call.size, Call.joins], fun rest => ?_⟩
      rw [Call.terms, terms, length_queried, ← Nat.add_assoc]
      exact checkFrom_not _ _ enough rest
    · have unmet : ¬ 1 ≤ (height : Int) + c.size := by omega
      have none : height + c.size = 0 := by omega
      refine .inr ⟨unmet, _, ⟨none, rfl⟩, fun rest => ?_⟩
      rw [Call.terms, terms, none]
      exact checkFrom_not_zero _ _
  | andGiven c | orGiven c =>
    have terms (op : Operator) (rest : Filter) := checkFrom_queried position height c [op] rest
    by_cases enough : 2 ≤ height + c.size
    · have met : 2 ≤ (height : Int) + c.size := by omega
      refine .inl ⟨met, height + c.size - 1, ?_, fun rest => ?_⟩
      · simp only [Call.adds, Call.size, Call.joins, if_true]
        omega
      · rw [Call.terms, terms, length_queried, ← Nat.add_assoc]
        exact checkFrom_binary _ _ rfl enough rest
    · have unmet : ¬ 2 ≤ (height : Int) + c.size := by omega
      have short : height + c.size < 2 := Nat.lt_of_not_le enough
      refine .inr ⟨unmet, _, ⟨short, rfl⟩, fun rest => ?_⟩
      rw [Call.terms, terms]
      exact checkFrom_binary_of_short _ _ rfl short rest
  | andNotGiven c | orNotGiven c =>
    have terms (op : Operator) (rest : Filter) :=
      checkFrom_queried position height c [.not, op] rest
    by_cases enough : 2 ≤ height + c.size
    · have met : 2 ≤ (height : Int) + c.size := by omega
      refine .inl ⟨met, height + c.size - 1, ?_, fun rest => ?_⟩
      · simp only [Call.adds, Call.size, Call.joins, if_true]
        omega
      · rw [Call.terms, terms, length_queried, ← Nat.add_assoc]
        exact (checkFrom_not _ _ (by omega) _).trans (checkFrom_binary _ _ rfl enough rest)
    · have unmet : ¬ 2 ≤ (height : Int) + c.size := by omega
      -- without any value the denial falls short, with one the operator that joins
      rcases Nat.eq_zero_or_pos (height + c.size) with none | some
      · refine .inr ⟨unmet, _, .inl ⟨none, rfl⟩, fun rest => ?_⟩
        rw [Call.terms, terms, none]
        exact checkFrom_not_zero _ _
      · have one : height + c.size = 1 := by omega
        refine .inr ⟨unmet, _, .inr ⟨one, rfl⟩, fun rest => ?_⟩
        rw [Call.terms, terms, one]
        exact (checkFrom_not _ _ (Nat.le_refl 1) _).trans
          (checkFrom_binary_of_short _ _ rfl (by omega) rest)

end Filter

/-! ## Runs of calls -/

theorem heightOf_append (calls : List Call) (call : Call) :
    heightOf (calls ++ [call]) = heightOf calls + call.adds := by
  simp [heightOf]

theorem sustained_append_iff {calls : List Call} {call : Call} :
    Sustained (calls ++ [call]) ↔ Sustained calls ∧ call.Met (heightOf calls) :=
  forall_cut_append_iff

/-- Where the calls do not all find what they need, there is a first one that does not. -/
theorem exists_first_unmet {calls : List Call} (lacking : ¬ Sustained calls) :
    ∃ before call after, calls = before ++ call :: after ∧ Sustained before ∧
      ¬ call.Met (heightOf before) := by
  induction calls using List.reverseRecOn with
  | nil => exact absurd (fun before call after cut => by simp at cut) lacking
  | append_singleton calls call ih =>
    by_cases init : Sustained calls
    · refine ⟨calls, call, [], rfl, init, fun met => ?_⟩
      exact lacking (sustained_append_iff.mpr ⟨init, met⟩)
    · obtain ⟨before, first, after, rfl, sustained, unmet⟩ := ih init
      exact ⟨before, first, after ++ [call], by simp, sustained, unmet⟩

/-- The check passes over calls that find what they need, to the height that they lead to. The
induction is from the last call on, for its turn comes after all others. -/
theorem check_sustained {calls : List Call} (typed : ∀ words, .raw words ∉ calls)
    (sustained : Sustained calls) :
    ∃ after : Nat, (after : Int) = heightOf calls ∧ ∀ rest,
      Filter.check (calls.flatMap Call.terms ++ rest) =
        Filter.checkFrom (calls.flatMap Call.terms).length after rest := by
  induction calls using List.reverseRecOn with
  | nil => exact ⟨0, rfl, fun rest => rfl⟩
  | append_singleton calls call ih =>
    obtain ⟨init, met⟩ := sustained_append_iff.mp sustained
    have typed' : ∀ words, call ≠ .raw words := fun words same => typed words (by simp [same])
    obtain ⟨height, eq, goesOn⟩ :=
      ih (fun words member => typed words (List.mem_append_left _ member)) init
    rw [← eq] at met
    rcases Filter.checkFrom_call (calls.flatMap Call.terms).length height typed' with
      ⟨-, after, leads, passes⟩ | ⟨unmet, -⟩
    · refine ⟨after, by rw [leads, heightOf_append, eq], fun rest => ?_⟩
      rw [List.flatMap_append, List.flatMap_singleton, List.append_assoc, goesOn, passes,
        List.length_append]
    · exact absurd met unmet

theorem check_of_sustained {calls : List Call} (typed : ∀ words, .raw words ∉ calls)
    (sustained : Sustained calls) : Filter.check (calls.flatMap Call.terms) = .ok () := by
  obtain ⟨after, -, goesOn⟩ := check_sustained typed sustained
  have whole := goesOn []
  rwa [List.append_nil] at whole

/-- The check ends at the first call that does not find what it needs. -/
theorem check_unmet {before after : List Call} {call : Call}
    (typed : ∀ words, .raw words ∉ before ++ call :: after) (sustained : Sustained before)
    (unmet : ¬ call.Met (heightOf before)) :
    ∃ height : Nat, (height : Int) = heightOf before ∧
      ∃ s, call.Reports (before.flatMap Call.terms).length height s ∧
        Filter.check ((before ++ call :: after).flatMap Call.terms) = .error s := by
  have typed' : ∀ words, call ≠ .raw words := fun words same => typed words (by simp [same])
  obtain ⟨height, eq, goesOn⟩ :=
    check_sustained (fun words member => typed words (List.mem_append_left _ member)) sustained
  rw [← eq] at unmet
  rcases Filter.checkFrom_call (before.flatMap Call.terms).length height typed' with
    ⟨met, -⟩ | ⟨-, s, reports, ends⟩
  · exact absurd met unmet
  · refine ⟨height, eq, s, reports, ?_⟩
    rw [List.flatMap_append, List.flatMap_cons, goesOn, ends]

/-- What a call can be reported with is settled by where it stands. -/
theorem Call.Reports.unique {position height : Nat} {call : Call} {s t : Shortfall}
    (first : call.Reports position height s) (second : call.Reports position height t) : s = t := by
  cases call with
  | notGiven c | andGiven c | orGiven c => exact first.2.trans second.2.symm
  | andNotGiven c | orNotGiven c =>
    rcases first with ⟨none, rfl⟩ | ⟨one, rfl⟩ <;> rcases second with ⟨none', rfl⟩ | ⟨one', rfl⟩
    · rfl
    · omega
    · omega
    · rfl
  | _ => exact absurd first id

/-- A chain without raw words is balanced exactly if every call finds what it needs at its turn.
Otherwise the shortfall is the one of the first call that does not, at the height that the calls
before it lead to, and its position is that of an operator among the terms of the filter. -/
theorem balance_by_calls (text : String) (settings : Settings) {calls : List Call}
    (typed : ∀ words, .raw words ∉ calls) :
    let q := (Chain.on text settings).applyAll calls
    (q.check = .ok () ↔ Sustained calls) ∧
    (∀ s, q.check = .error s ↔ ∃ before call after, calls = before ++ call :: after ∧
      Sustained before ∧ ¬ call.Met (heightOf before) ∧
      ∃ height : Nat, (height : Int) = heightOf before ∧
        call.Reports (before.flatMap Call.terms).length height s) ∧
    ∀ s, q.check = .error s → q.filter[s.position]? = some (.operator s.operator) := by
  intro q
  have filter : q.filter = calls.flatMap Call.terms := by simp [q, Chain.on]
  have checked : q.check = Filter.check (calls.flatMap Call.terms) := by rw [Chain.check, filter]
  refine ⟨⟨?_, ?_⟩, fun s => ⟨?_, ?_⟩, ?_⟩
  · intro accepted
    by_contra lacking
    obtain ⟨before, call, after, rfl, sustained, unmet⟩ := exists_first_unmet lacking
    obtain ⟨height, -, s, -, refused⟩ := check_unmet typed sustained unmet
    rw [checked, refused] at accepted
    cases accepted
  · intro sustained
    exact checked.trans (check_of_sustained typed sustained)
  · intro refused
    have lacking : ¬ Sustained calls := by
      intro sustained
      have accepted := check_of_sustained typed sustained
      rw [← checked, refused] at accepted
      cases accepted
    obtain ⟨before, call, after, rfl, sustained, unmet⟩ := exists_first_unmet lacking
    obtain ⟨height, eq, t, reports, ends⟩ := check_unmet typed sustained unmet
    rw [checked, ends] at refused
    cases refused
    exact ⟨before, call, after, rfl, sustained, unmet, height, eq, reports⟩
  · rintro ⟨before, call, after, rfl, sustained, unmet, height, eq, reports⟩
    obtain ⟨height', eq', t, reports', ends⟩ := check_unmet typed sustained unmet
    have same : height' = height := by omega
    rw [same] at reports'
    rw [checked, ends, reports'.unique reports]
  · intro s refused
    -- the check names an operator, and without raw words only an operator is one
    have lacks := (Filter.check_eq_error_iff.mp refused).lacks.operator
    obtain ⟨t, here, operator⟩ := Option.bind_eq_some_iff.mp lacks
    have member : t ∈ calls.flatMap Call.terms := filter ▸ List.mem_of_getElem? here
    obtain ⟨call, called, within⟩ := List.mem_flatMap.mp member
    have ne := ne_raw_of_terms (fun words same => typed words (same ▸ called)) t within
    rw [here]
    cases t with
    | raw word => exact absurd rfl (ne word)
    | condition c => cases operator
    | operator op =>
      cases operator
      rfl

/-- Two combinators without conditions: the first one joins two conditions to one, which is not
enough for the second one. -/
theorem balance_by_calls_empty :
    let pair : Criteria := .batch [("type", .text "ether"), ("running", .flag true)]
    let calls : List Call :=
      [.given pair, .andNotGiven (.batch []), .option "detail", .orNotGiven (.batch [])]
    let q := (Chain.on "/interface" {}).applyAll calls
    (∀ words, .raw words ∉ calls) ∧ q.check = .error ⟨.or, 6, 2, 1⟩ ∧ ¬ Sustained calls ∧
      q.filter[6]? = some (.operator .or) := by
  intro pair calls q
  have typed : ∀ words, .raw words ∉ calls := by simp [calls]
  have refused : q.check = .error ⟨.or, 6, 2, 1⟩ := by rfl
  obtain ⟨balanced, -, placed⟩ := balance_by_calls "/interface" {} typed
  refine ⟨typed, refused, fun sustained => ?_, placed _ refused⟩
  have accepted := balanced.mpr sustained
  rw [refused] at accepted
  cases accepted

end DeviceQuery
