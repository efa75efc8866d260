import DeviceQuery.Chain.Basic
import DeviceQuery.Link
import DeviceQuery.Text.Quoted

/-!
# Requests

A chain ends in a request over a link. All reading requests write the same sentence and differ in
what they make of the reply. Removing every item of a menu takes two sentences, and the second one
is written only after the first one has been answered with rows.
-/

namespace DeviceQuery

/-- What a request leaves behind: its result, the link, and what it logged. -/
structure Exchange (α : Type) where
  result : Except Failure α
  link : Link
  records : List Log.Record

namespace Exchange

/-- The exchange with its result seen through `f`. -/
def map {α β : Type} (f : α → β) (e : Exchange α) : Exchange β :=
  { e with result := e.result.map f }

/-- A request that failed before anything was written. -/
def refused {α : Type} (f : Failure) (link : Link) : Exchange α :=
  { result := .error f, link, records := [] }

end Exchange

/-- The record of a sentence that is written. -/
def sentenceRecord (words : List String) : Log.Record :=
  ⟨.debug, .sentence, Text.quotedList words⟩

/-- The record of the reply that a sentence got. -/
def replyRecord (path : String) : Reply → Log.Record
  | .ok rows => ⟨.debug, .request, path ++ ": " ++ toString rows.length ++ " row(s)"⟩
  | .error f => ⟨.warn, .request, path ++ ": " ++ f.message⟩

namespace Chain

/-- Writes a sentence over a link. -/
def send (q : Chain) (s : Sentence) (link : Link) : Exchange (List Row) :=
  let (reply, link) := link.write s.words
  { result := reply, link, records := [sentenceRecord s.words, replyRecord q.path reply] }

/-- The action that asks for rows. -/
def printAction : String := "/print"

/-- The action that removes items. -/
def removeAction : String := "/remove"

/-- Asks for the rows of the chain. -/
def get (q : Chain) (link : Link) : Exchange (List Row) :=
  match q.assemble printAction with
  | .error f => .refused f link
  | .ok s => q.send s link

/-- Asks for the first row; the empty row stands for none. -/
def find (q : Chain) (link : Link) : Exchange Row :=
  (q.get link).map fun rows => rows.headD Dict.empty

/-- Asks for the rows wrapped as items. -/
def collect (q : Chain) (link : Link) : Exchange (List Item) :=
  (q.get link).map fun rows => rows.map (Item.ofRow q.settings.nameStyle)

/-- The sentence that asks for the ids of all items of a menu. -/
def idSentence (q : Chain) : Sentence :=
  [.command (q.path ++ printAction), .projection [idName]]

/-- The sentence that removes items. -/
def removeSentence (q : Chain) (ids : List String) : Sentence :=
  [.command (q.path ++ removeAction), .numbers ids]

/-- The record between the two sentences of a purge. -/
def purgeRecord (q : Chain) (ids : List String) : Log.Record :=
  ⟨.info, .request,
    "purge " ++ q.path ++ ": removing " ++ toString ids.length ++ " item(s)"⟩

/-- Removes every item of the menu: asks for all ids, then removes them in one batch. -/
def purge (q : Chain) (link : Link) : Exchange (List Row) :=
  let listed := q.send q.idSentence link
  match listed.result with
  | .error _ => listed
  | .ok rows =>
    let ids := rows.filterMap fun row => row.get? idName
    let removed := q.send (q.removeSentence ids) listed.link
    { removed with records := listed.records ++ q.purgeRecord ids :: removed.records }

/-- The record of a stream that is opened. -/
def streamSentenceRecord (words : List String) : Log.Record :=
  ⟨.debug, .sentence, "stream " ++ Text.quotedList words⟩

/-- The record of a menu on which a stream is opened. -/
def openingRecord (q : Chain) : Log.Record := ⟨.info, .stream, q.path ++ ": opening stream"⟩

/-- Opens a stream of an action. -/
def stream (q : Chain) (action : String) (withCallback runtime : Bool) (link : Link) :
    Exchange Feed :=
  match q.assemble action with
  | .error f => .refused f link
  | .ok s =>
    let (result, link) := link.stream s.words withCallback runtime
    { result, link, records := [streamSentenceRecord s.words, q.openingRecord] }

end Chain

/-- What a reply is seen as. -/
inductive View where
  | rows (rows : List Row)
  | row (row : Row)
  | items (items : List Item)

/-- A request that ends a chain. Several requests are other names of a first one. -/
inductive Request where
  | get
  | getAll
  | print
  | getBy (c : Criteria)
  | find
  | first
  | getOne
  | getOnly
  | findBy (c : Criteria)
  /-- The rows wrapped as items. -/
  | collect
  /-- The rows as they are. -/
  | collectRows
  | collectBy (c : Criteria)
  | purge

/-- Makes a request. A request with criteria takes them into the filter first. -/
def Request.make (r : Request) (q : Chain) (link : Link) : Exchange View :=
  match r with
  | get | getAll | print | collectRows => (q.get link).map .rows
  | getBy c => ((q.apply (.given c)).get link).map .rows
  | find | first | getOne | getOnly => (q.find link).map .row
  | findBy c => ((q.apply (.given c)).find link).map .row
  | collect => (q.collect link).map .items
  | collectBy c => ((q.apply (.given c)).collect link).map .items
  | purge => (q.purge link).map .rows

end DeviceQuery
