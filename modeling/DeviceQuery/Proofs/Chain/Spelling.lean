import DeviceQuery.Proofs.Chain.Calls

/-!
# The spelling of a chain

Every filter call writes words of its own, which do not depend on the calls before it: one for each
attribute, and then those of its operators (`words_terms`). The sentence of a chain is put together
from these words in the order of the calls, after the command and the last projection
(`sentence_of_calls`). So calls that differ in name only spell the same chain, and so do calls in
which projections stand elsewhere, as long as the last one stays the last.
-/

namespace DeviceQuery

namespace Call

/-- The call sets the projection. The other calls are filter calls. -/
def projects (call : Call) : Bool := call.projection.isSome

/-- The attributes that a call filters on, in order, each with its value as the device spells it. -/
def pairs : Call → List (String × String)
  | given c | query c | filter c | marked c _ => c.pairs
  | orGiven c | andGiven c | notGiven c | orNotGiven c | andNotGiven c => c.pairs
  | above name value | below name value => [(name, value.spelling)]
  | present name | notEmpty name | missing name | notPresent name => [(name, "")]
  | options names => names.map fun name => (name, "")
  | option name => [(name, "")]
  | select _ | only _ | proplist _ | raw _ => []

/-- What a call puts before the name of each attribute. -/
def opening : Call → String
  | above _ _ | present _ | notEmpty _ => "?>"
  | below _ _ => "?<"
  | missing _ | notPresent _ => "?-"
  | marked _ false | options _ | option _ => ""
  | _ => "?"

/-- The operator words that a call puts after its attributes, a denial before a combination. -/
def operatorWords : Call → List String
  | orGiven _ => ["?#|"]
  | andGiven _ => ["?#&"]
  | notGiven _ => ["?#!"]
  | orNotGiven _ => ["?#!", "?#|"]
  | andNotGiven _ => ["?#!", "?#&"]
  | _ => []

/-- The words that a call writes, whatever was called before it. -/
def words : Call → List String
  | raw words => words
  | call =>
    (call.pairs.map fun (name, value) =>
      call.opening ++ name ++ if value = "" then "" else "=" ++ value) ++ call.operatorWords

/-! ## Single calls -/

theorem words_criteria (c : Criteria) (marker : Marker) (comparison : Comparison) :
    Filter.words (c.terms marker comparison) =
      c.pairs.map fun (name, value) =>
        marker.sign ++ comparison.sign ++ name ++ if value = "" then "" else "=" ++ value := by
  simp [Filter.words, Criteria.terms, Term.word, Condition.word, Function.comp_def]

theorem words_queried (c : Criteria) (ops : List Operator) :
    Filter.words (queried c ops) =
      (c.pairs.map fun (name, value) => "?" ++ name ++ if value = "" then "" else "=" ++ value) ++
        ops.map Operator.word := by
  have conditions := words_criteria c .query .equal
  rw [queried, Filter.words, List.map_append, ← Filter.words, conditions]
  simp [Marker.sign, Comparison.sign, Term.word, Function.comp_def]

/-- The words of the terms that a call adds are the words that it writes. -/
theorem words_terms (call : Call) : Filter.words call.terms = call.words := by
  cases call with
  | select names | only names | proplist names => rfl
  | given c | query c | filter c => exact words_queried c []
  | marked c questionMark =>
    cases questionMark with
    | false => exact (words_criteria c .plain .equal).trans (List.append_nil _).symm
    | true => exact (words_criteria c .query .equal).trans (List.append_nil _).symm
  | raw words => simp [Filter.words, terms, Call.words, Term.word, Function.comp_def]
  | orGiven c => exact words_queried c [.or]
  | andGiven c => exact words_queried c [.and]
  | notGiven c => exact words_queried c [.not]
  | orNotGiven c => exact words_queried c [.not, .or]
  | andNotGiven c => exact words_queried c [.not, .and]
  | above name value => exact words_criteria (.single name value) .query .greater
  | below name value => exact words_criteria (.single name value) .query .less
  | present name | notEmpty name => exact words_criteria (.key name) .query .greater
  | missing name | notPresent name => exact words_criteria (.key name) .query .absent
  | options names =>
    have spelled : (Criteria.batch (names.map fun n => (n, .text ""))).pairs =
        names.map fun name => (name, "") := by
      simp [Criteria.pairs, Value.spelling, Function.comp_def]
    rw [terms, words_criteria, spelled]
    exact (List.append_nil _).symm
  | option name => exact words_criteria (.key name) .plain .equal

/-- A call that sets the projection adds nothing to the filter. -/
theorem terms_of_projects {call : Call} (projects : call.projects = true) : call.terms = [] := by
  cases call with
  | select names | only names | proplist names => rfl
  | _ => cases projects

theorem terms_primary (call : Call) : call.primary.terms = call.terms := by
  cases call <;> rfl

theorem projection_primary (call : Call) : call.primary.projection = call.projection := by
  cases call <;> rfl

/-! ## Runs of calls -/

theorem flatMap_terms_filter (calls : List Call) :
    (calls.filter fun call => !call.projects).flatMap terms = calls.flatMap terms := by
  induction calls with
  | nil => rfl
  | cons call rest ih =>
    cases projects : call.projects with
    | true => simp [projects, terms_of_projects projects, ih]
    | false => simp [projects, ih]

theorem flatMap_terms_primary (calls : List Call) :
    (calls.map primary).flatMap terms = calls.flatMap terms := by
  simp [List.flatMap_map, terms_primary]

theorem filterMap_projection_primary (calls : List Call) :
    (calls.map primary).filterMap projection = calls.filterMap projection := by
  have same : projection ∘ primary = projection := funext projection_primary
  rw [List.filterMap_map, same]

theorem words_flatMap_terms (calls : List Call) :
    Filter.words (calls.flatMap terms) = calls.flatMap words := by
  have each : words = fun call => Filter.words call.terms :=
    funext fun call => call.words_terms.symm
  rw [each, Filter.words, List.map_flatMap]
  rfl

end Call

/-- The empty action and one that starts with a slash stay as they are. -/
theorem Menu.slashed_eq (action : String) :
    slashed action =
      if action = "" ∨ action.toList.head? = some '/' then action else "/" ++ action := by
  unfold slashed
  split
  · next empty => simp [String.toList_eq_nil_iff.mp empty]
  · next rest chars => simp [chars]
  · next nonempty other =>
    have named : action ≠ "" := fun same => nonempty (by simp [same])
    have headed : action.toList.head? ≠ some '/' := by
      intro head
      obtain ⟨rest, chars⟩ := List.head?_eq_some_iff.mp head
      exact other rest chars
    simp [named, headed]

/-- The sentence of a chain is the command, the projection set last, and then the words that the
calls write, each for itself and in their order. Calls leave the path and the settings alone and
add to the filter at its end. Calls with the same filter calls in the same order and the same last
projection make the same chain, and so do calls under other names. -/
theorem sentence_of_calls (text : String) (settings : Settings) (calls : List Call)
    (action : String) :
    let start := Chain.on text settings
    let q := start.applyAll calls
    (q.sentence action).words =
      (Menu.path text ++
        if action = "" ∨ action.toList.head? = some '/' then action else "/" ++ action) ::
      ((calls.filterMap Call.projection).getLast?.toList.map fun names =>
        "=.proplist=" ++ ",".intercalate names) ++
      calls.flatMap Call.words ∧
    q.path = Menu.path text ∧ q.settings = settings ∧
    (∀ more : List Call, q.filter <+: (q.applyAll more).filter) ∧
    (∀ others : List Call,
      (others.filter fun call => !call.projects) = (calls.filter fun call => !call.projects) →
      (others.filterMap Call.projection).getLast? = (calls.filterMap Call.projection).getLast? →
      start.applyAll others = q) ∧
    ∀ others : List Call, others.map Call.primary = calls.map Call.primary →
      start.applyAll others = q := by
  intro start q
  have path : q.path = Menu.path text := Chain.applyAll_path start calls
  refine ⟨?_, path, Chain.applyAll_settings start calls, ?_, ?_, ?_⟩
  · have projection : q.projection = (calls.filterMap Call.projection).getLast? := by
      rw [Chain.applyAll_projection]
      cases (calls.filterMap Call.projection).getLast? <;> rfl
    have filter : q.filter = calls.flatMap Call.terms := Chain.applyAll_filter start calls
    rw [Chain.sentence_words, path, projection, filter, Call.words_flatMap_terms, Menu.command,
      Menu.slashed_eq]
    rfl
  · intro more
    rw [Chain.applyAll_filter q more]
    exact List.prefix_append _ _
  · intro others filters last
    apply Chain.applyAll_congr start last
    rw [← Call.flatMap_terms_filter others, filters, Call.flatMap_terms_filter]
  · intro others same
    apply Chain.applyAll_congr start
    · rw [← Call.filterMap_projection_primary others, same, Call.filterMap_projection_primary]
    · rw [← Call.flatMap_terms_primary others, same, Call.flatMap_terms_primary]

/-- The projection may move across the conditions and the calls may have other names: the sentence
is the same. -/
theorem sentence_of_calls_moved :
    let start := Chain.on "ip address" {}
    let calls : List Call :=
      [.select ["name"], .given (.batch [("type", .text "ether"), ("mtu", .integer 1500)]),
        .select ["id", "name"], .orNotGiven (.single "running" (.flag true)), .present "comment"]
    let moved : List Call :=
      [.given (.batch [("type", .text "ether"), ("mtu", .integer 1500)]),
        .orNotGiven (.single "running" (.flag true)), .select ["id", "name"], .present "comment"]
    let renamed : List Call :=
      [.proplist ["name"], .filter (.batch [("type", .text "ether"), ("mtu", .integer 1500)]),
        .only ["id", "name"], .orNotGiven (.single "running" (.flag true)), .notEmpty "comment"]
    start.applyAll moved = start.applyAll calls ∧ start.applyAll renamed = start.applyAll calls ∧
      ((start.applyAll calls).sentence "print").words =
        ["/ip/address/print", "=.proplist=.id,name", "?type=ether", "?mtu=1500", "?running=yes",
          "?#!", "?#|", "?>comment"] := by
  intro start calls moved renamed
  obtain ⟨words, -, -, -, moving, synonyms⟩ := sentence_of_calls "ip address" {} calls "print"
  exact ⟨moving moved (by decide) (by decide), synonyms renamed (by decide),
    words.trans (by decide)⟩

end DeviceQuery
