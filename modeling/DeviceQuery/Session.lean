import DeviceQuery.Chain.Dump
import DeviceQuery.Request

/-!
# Sessions

A session works with named chains and named feeds over one link. A step answers, changes the
session and logs. Feeds run at two kinds of steps only, when the session settles and when a feed
is to be received from, and then all of them run, also where no feed has the name that is asked
for.
-/

namespace DeviceQuery

/-- The link, chains and feeds of a session. -/
structure Session where
  link : Link := {}
  chains : Dict Chain := Dict.empty
  feeds : Dict Feed := Dict.empty

/-- What a step looks at in a chain, which stays as it is. -/
inductive Inspection where
  | state
  | sentence (action : String)
  | validity
  | dump

/-- A stream's action, and whether its rows go to a callback. A subscription has no action and a
callback. -/
inductive Opening where
  | stream (action : String)
  | streamWith (action : String)
  | subscribe

/-- The action a stream is opened with. -/
def Opening.action : Opening → String
  | stream action | streamWith action => action
  | subscribe => ""

/-- The rows of the stream go to a callback. -/
def Opening.withCallback : Opening → Bool
  | stream _ => false
  | streamWith _ | subscribe => true

/-- What a step does with a feed. -/
inductive Drive where
  | receive
  | pause
  | resume
  | stop
  | control
  | finished
  | given
  | close

/-- A step of a session. -/
inductive Step where
  | pushReply (r : Reply)
  | setStreamRows (rows : List Row)
  | written
  | streamed
  | write (words : List String)
  /-- A fresh chain with settings of its own. -/
  | create (name path : String) (settings : Settings)
  /-- A fresh chain with the settings that the variables give. -/
  | menu (name path : String) (vars : Variables)
  | copy (name target : String)
  | inspect (name : String) (what : Inspection)
  | call (name : String) (call : Call)
  | request (name : String) (r : Request)
  | stream (name feed : String) (how : Opening) (runtime : Bool)
  | settle
  | drive (feed : String) (what : Drive)

/-- The answer to a step. -/
inductive Answer where
  | done
  | noChain
  | noFeed
  | failed (f : Failure)
  | sentences (all : List (List String))
  | view (v : View)
  /-- A chain that has been made. -/
  | created (state : ChainState) (settings : Settings)
  | chain (state : ChainState)
  /-- A chain with the number of terms in its filter. -/
  | details (state : ChainState) (settings : Settings) (size : Nat)
  | sentence (s : Sentence)
  | validity (v : Except Shortfall Unit)
  | dump (text : String)
  | received (r : Received)
  | control (c : Control)
  | finished (b : Bool)
  | given (rows : List Row)

/-- What a step leaves behind. -/
structure Outcome where
  answer : Answer
  session : Session
  records : List Log.Record := []

/-- The record of a feed that is stopped. -/
def stopRecord : Log.Record := ⟨.debug, .link, "memory stream stopped"⟩

/-- The answer that a result stands for. -/
def Answer.ofResult {α : Type} (answer : α → Answer) : Except Failure α → Answer
  | .ok a => answer a
  | .error f => .failed f

/-- What is seen of a chain. -/
def Inspection.answer (what : Inspection) (q : Chain) : Answer :=
  match what with
  | state => .details q.state q.settings q.filter.length
  | sentence action => .sentence (q.sentence action)
  | validity => .validity q.check
  | dump => .dump q.dump

namespace Session

/-- Runs every feed. -/
def runFeeds (s : Session) : Session := { s with feeds := s.feeds.map Feed.run }

/-- The session in which a feed is driven: where one is to be received from, all have run. -/
def beforeDrive (s : Session) : Drive → Session
  | .receive => s.runFeeds
  | _ => s

/-- Puts a chain under a name. -/
def setChain (s : Session) (name : String) (q : Chain) : Session :=
  { s with chains := s.chains.insert name q }

/-- Puts a feed under a name. -/
def setFeed (s : Session) (name : String) (f : Feed) : Session :=
  { s with feeds := s.feeds.insert name f }

/-- Changes the control of a feed. -/
def turn (s : Session) (name : String) (f : Feed) (control : Control) : Outcome :=
  match f.turn control with
  | .ok f => { answer := .done, session := s.setFeed name f }
  | .error e => { answer := .failed e, session := s }

/-- Drives a feed that is there. -/
def driveFeed (s : Session) (name : String) (f : Feed) : Drive → Outcome
  | .receive =>
    let (received, f) := f.receive
    { answer := .received received, session := s.setFeed name f }
  | .pause => s.turn name f .paused
  | .resume => s.turn name f .running
  | .stop =>
    { answer := .done
      session := s.setFeed name f.stop
      records := if f.control = .stopped then [] else [stopRecord] }
  | .control => { answer := .control f.control, session := s }
  | .finished => { answer := .finished f.finished, session := s }
  | .given => { answer := .given f.outlet.given, session := s }
  | .close => { answer := .done, session := { s with feeds := s.feeds.erase name } }

/-- Makes a request with a chain that is there, which is used up. -/
def request (s : Session) (name : String) (q : Chain) (r : Request) : Outcome :=
  let e := r.make q s.link
  { answer := .ofResult .view e.result
    session := { s with link := e.link, chains := s.chains.erase name }
    records := e.records }

/-- Opens a stream with a chain that is there, which is used up. A feed of this name makes way
for the new one; where the opening fails it stays. -/
def openStream (s : Session) (name feed : String) (q : Chain) (how : Opening) (runtime : Bool) :
    Outcome :=
  let e := q.stream how.action how.withCallback runtime s.link
  let s := { s with link := e.link, chains := s.chains.erase name }
  match e.result with
  | .ok f => { answer := .done, session := s.setFeed feed f, records := e.records }
  | .error f => { answer := .failed f, session := s, records := e.records }

/-- Goes on with the chain of a name, if there is one. -/
def withChain (s : Session) (name : String) (next : Chain → Outcome) : Outcome :=
  match s.chains.get? name with
  | some q => next q
  | none => { answer := .noChain, session := s }

/-- Goes on with the feed of a name, if there is one. -/
def withFeed (s : Session) (name : String) (next : Feed → Outcome) : Outcome :=
  match s.feeds.get? name with
  | some f => next f
  | none => { answer := .noFeed, session := s }

/-- A step of a session. -/
def step (s : Session) : Step → Outcome
  | .pushReply r => { answer := .done, session := { s with link := s.link.pushReply r } }
  | .setStreamRows rows =>
    { answer := .done, session := { s with link := s.link.setStreamRows rows } }
  | .written => { answer := .sentences s.link.written, session := s }
  | .streamed => { answer := .sentences s.link.streamed, session := s }
  | .write words =>
    let (reply, link) := s.link.write words
    { answer := .ofResult (fun rows => .view (.rows rows)) reply, session := { s with link } }
  | .create name path settings =>
    let q := Chain.on path settings
    { answer := .created q.state settings, session := s.setChain name q }
  | .menu name path vars =>
    let (settings, records) := Settings.ofVariables vars
    let q := Chain.on path settings
    { answer := .created q.state settings, session := s.setChain name q, records }
  | .copy name target =>
    s.withChain name fun q => { answer := .chain q.state, session := s.setChain target q }
  | .inspect name what => s.withChain name fun q => { answer := what.answer q, session := s }
  | .call name call =>
    s.withChain name fun q =>
      let q := q.apply call
      { answer := .chain q.state, session := s.setChain name q }
  | .request name r => s.withChain name fun q => s.request name q r
  | .stream name feed how runtime =>
    s.withChain name fun q => s.openStream name feed q how runtime
  | .settle => { answer := .done, session := s.runFeeds }
  | .drive feed what =>
    let s := s.beforeDrive what
    s.withFeed feed fun f => s.driveFeed feed f what

/-- The outcomes of some steps, in order. -/
def run (s : Session) : List Step → List Outcome
  | [] => []
  | first :: rest =>
    let outcome := s.step first
    outcome :: outcome.session.run rest

end Session

end DeviceQuery
