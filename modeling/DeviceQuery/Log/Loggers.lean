import DeviceQuery.Log.Record

/-!
# Loggers

A logger stands for a part of the program and all parts below it. A record goes to the most
specific logger that stands for its target. That logger alone decides whether the record is
admitted. One that is goes to the logger's appenders, and on to those of the logger above it unless
the logger is not additive.
-/

namespace DeviceQuery.Log

/-- A logger, with the names of the appenders that it writes to. -/
structure Logger where
  threshold : Threshold
  appenders : List String
  /-- What is admitted goes on to the appenders of the logger above. -/
  additive : Bool := true

/-- The loggers of a program: the root stands for all of it, the others for the parts that they are
named after. -/
structure Loggers where
  root : Logger
  named : List (String × Logger)

/-- The names of the parts that lead to a target, the outermost first. Double colons separate
them. -/
def partNames : List Char → List (List Char)
  | [] => [[]]
  | ':' :: ':' :: rest => [] :: partNames rest
  | c :: rest =>
    match partNames rest with
    | [] => [[c]]
    | name :: inner => (c :: name) :: inner

/-- The appenders of the first one of some loggers, each of which stands below the next. -/
def appendersAlong : List Logger → List String
  | [] => []
  | first :: above => first.appenders ++ if first.additive then appendersAlong above else []

namespace Loggers

/-- The logger that is named after a part. -/
def named? (l : Loggers) (part : List (List Char)) : Option Logger :=
  (l.named.find? fun entry => partNames entry.1.toList = part).map Prod.snd

/-- The loggers that stand for a part, the most specific one first and the root last, given the
names that lead to the part, the innermost first. -/
def standingFor (l : Loggers) : List (List Char) → List Logger
  | [] => [l.root]
  | name :: outer => (l.named? (name :: outer).reverse).toList ++ l.standingFor outer

/-- The appenders that a record goes to. -/
def appendersOf (l : Loggers) (r : Record) : List String :=
  match l.standingFor (partNames r.target.text.toList).reverse with
  | [] => []
  | nearest :: above =>
    if nearest.threshold.admits r.level then appendersAlong (nearest :: above) else []

end Loggers

end DeviceQuery.Log
