import DeviceQuery.Chain.Basic
import DeviceQuery.Text.Quoted

/-!
# A developer's view of a chain

The parts of a chain as nested records, with every text quoted. The two dots at the end stand for
the link, which is not shown.
-/

namespace DeviceQuery

/-- A record with its fields, and whether there is more that is not shown. -/
def dumpRecord (name : String) (fields : List (String × String)) (more : Bool) : String :=
  let shown := fields.map fun (key, value) => key ++ ": " ++ value
  let parts := if more then shown ++ [".."] else shown
  name ++ " \x7b " ++ ", ".intercalate parts ++ " \x7d"

/-- A condition with its parts. -/
def Condition.dump (c : Condition) : String :=
  dumpRecord "Condition"
    [("marker", c.marker.name), ("cmp", c.comparison.name), ("name", Text.quoted c.name),
      ("value", Text.quoted c.value)] false

/-- A term with its kind. -/
def Term.dump : Term → String
  | condition c => "Condition(" ++ c.dump ++ ")"
  | operator op => "Operator(" ++ op.name ++ ")"
  | raw word => "Raw(" ++ Text.quoted word ++ ")"

/-- The settings with their values. -/
def Settings.dump (s : Settings) : String :=
  dumpRecord "QueryConfig"
    [("case_mode", s.nameStyle.title),
      ("strict_expressions", if s.strict then "true" else "false")] false

/-- The chain with its parts. -/
def Chain.dump (q : Chain) : String :=
  let projection :=
    match q.projection with
    | none => "None"
    | some names => "Some(" ++ Text.quotedList names ++ ")"
  let filter := dumpRecord "FilterStack" [("tokens", Text.bracketed (q.filter.map Term.dump))] false
  dumpRecord "MenuQuery"
    [("path", Text.quoted q.path), ("proplist", projection), ("filters", filter),
      ("config", q.settings.dump)] true

end DeviceQuery
