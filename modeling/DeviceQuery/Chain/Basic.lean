import DeviceQuery.Filter.Balance
import DeviceQuery.Menu.Path
import DeviceQuery.Menu.Projection
import DeviceQuery.Sentence.Basic
import DeviceQuery.Settings.Basic

/-!
# Chains

A chain collects what is asked of one menu: a projection and a filter. Each call hands on a chain
with more in it. What a filter call adds depends on the call alone (`Call.addTo_eq`), and of the
projections the last one counts, so the sentence of a chain is put together from its calls.
-/

namespace DeviceQuery

/-- A call of a chain. Several calls are other names of a first one. -/
inductive Call where
  | select (names : List String)
  /-- Another name of `select`. -/
  | only (names : List String)
  /-- Another name of `select`. -/
  | proplist (names : List String)
  /-- Conditions that the device evaluates. -/
  | given (c : Criteria)
  /-- Another name of `given`. -/
  | query (c : Criteria)
  /-- Another name of `given`. -/
  | filter (c : Criteria)
  /-- Conditions with the question mark or without it. -/
  | marked (c : Criteria) (questionMark : Bool)
  /-- Words as they stand. -/
  | raw (words : List String)
  | orGiven (c : Criteria)
  | andGiven (c : Criteria)
  | notGiven (c : Criteria)
  | orNotGiven (c : Criteria)
  | andNotGiven (c : Criteria)
  | above (name : String) (value : Value)
  | below (name : String) (value : Value)
  /-- The attribute has a value. -/
  | present (name : String)
  /-- Another name of `present`. -/
  | notEmpty (name : String)
  /-- The attribute is missing or empty. -/
  | missing (name : String)
  /-- Another name of `missing`. -/
  | notPresent (name : String)
  /-- Plain attribute words without values. -/
  | options (names : List String)
  /-- `options` with a single name. -/
  | option (name : String)
deriving DecidableEq

namespace Call

/-- The call that this one is another name of. -/
def primary : Call → Call
  | only names | proplist names => select names
  | query c | filter c => given c
  | notEmpty name => present name
  | notPresent name => missing name
  | option name => options [name]
  | call => call

/-- The filter after a call. -/
def addTo (f : Filter) : Call → Filter
  | select _ | only _ | proplist _ => f
  | given c | query c | filter c => f.addJoined c .query .equal []
  | marked c questionMark => f.addJoined c (if questionMark then .query else .plain) .equal []
  | raw words => words.foldl Filter.addRaw f
  | orGiven c => f.addJoined c .query .equal [.or]
  | andGiven c => f.addJoined c .query .equal [.and]
  | notGiven c => f.addJoined c .query .equal [.not]
  | orNotGiven c => f.addJoined c .query .equal [.not, .or]
  | andNotGiven c => f.addJoined c .query .equal [.not, .and]
  | above name value => f.addJoined (.single name value) .query .greater []
  | below name value => f.addJoined (.single name value) .query .less []
  | present name | notEmpty name => f.addJoined (.key name) .query .greater []
  | missing name | notPresent name => f.addJoined (.key name) .query .absent []
  | options names => f.addJoined (.batch (names.map fun n => (n, .text ""))) .plain .equal []
  | option name => f.addJoined (.batch [(name, .text "")]) .plain .equal []

/-- Conditions that the device evaluates, and the operators after them. -/
def queried (c : Criteria) (ops : List Operator) : List Term :=
  c.terms .query .equal ++ ops.map Term.operator

/-- The projection that a call sets, its names as they are asked for. -/
def projection : Call → Option (List String)
  | select names | only names | proplist names => some (names.map Menu.escape)
  | _ => none

/-- The terms that a call adds to the filter. -/
def terms : Call → List Term
  | select _ | only _ | proplist _ => []
  | given c | query c | filter c => queried c []
  | marked c questionMark => c.terms (if questionMark then .query else .plain) .equal
  | raw words => words.map Term.raw
  | orGiven c => queried c [.or]
  | andGiven c => queried c [.and]
  | notGiven c => queried c [.not]
  | orNotGiven c => queried c [.not, .or]
  | andNotGiven c => queried c [.not, .and]
  | above name value => (Criteria.single name value).terms .query .greater
  | below name value => (Criteria.single name value).terms .query .less
  | present name | notEmpty name => (Criteria.key name).terms .query .greater
  | missing name | notPresent name => (Criteria.key name).terms .query .absent
  | options names => (Criteria.batch (names.map fun n => (n, .text ""))).terms .plain .equal
  | option name => (Criteria.batch [(name, .text "")]).terms .plain .equal

/-- A call adds its own terms, whatever the filter is. -/
theorem addTo_eq (f : Filter) (call : Call) : call.addTo f = f ++ call.terms := by
  cases call <;>
    simp [addTo, terms, queried, Filter.addJoined_eq, Filter.foldl_addRaw]

end Call

/-- What is asked of one menu. -/
structure Chain where
  path : String
  /-- The attributes asked for, or none if all are. -/
  projection : Option (List String)
  filter : Filter
  settings : Settings
deriving DecidableEq

namespace Chain

/-- A fresh chain on the menu that a text names. -/
def on (text : String) (settings : Settings) : Chain :=
  { path := Menu.path text, projection := none, filter := [], settings }

/-- The chain after a call. -/
def apply (q : Chain) (call : Call) : Chain :=
  { q with projection := call.projection <|> q.projection, filter := call.addTo q.filter }

/-- The chain after some calls. -/
def applyAll (q : Chain) (calls : List Call) : Chain := calls.foldl apply q

/-- The sentence of an action: the command, the projection if there is one, and the filter. -/
def sentence (q : Chain) (action : String) : Sentence :=
  .command (Menu.command q.path action) ::
    (q.projection.toList.map Word.projection ++ q.filter.map Word.term)

/-- The balance of the chain's filter. -/
def check (q : Chain) : Except Shortfall Unit := q.filter.check

/-- Fails where the filter is out of balance. -/
def validate (q : Chain) : Except Failure Unit := q.filter.validate

/-- The sentence of an action, checked first where the settings are strict. -/
def assemble (q : Chain) (action : String) : Except Failure Sentence :=
  if q.settings.strict then q.validate.map fun _ => q.sentence action
  else .ok (q.sentence action)

theorem validate_of_ok {q : Chain} (balanced : q.check = .ok ()) : q.validate = .ok () :=
  Filter.validate_of_ok balanced

theorem validate_of_error {q : Chain} {s : Shortfall} (unbalanced : q.check = .error s) :
    q.validate = .error (.malformed s.message) :=
  Filter.validate_of_error unbalanced

end Chain

/-- What can be seen of a chain from outside, its settings apart. -/
structure ChainState where
  path : String
  projection : Option (List String)
  filter : List String
  validity : Except Shortfall Unit

/-- The state of a chain. -/
def Chain.state (q : Chain) : ChainState :=
  { path := q.path, projection := q.projection, filter := q.filter.words, validity := q.check }

end DeviceQuery
