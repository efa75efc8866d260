import DeviceQuery.Feed

/-!
# Links

A link carries sentences to a device. This one answers from memory: replies are queued in
advance and served in order, and without a queued reply a sentence is answered with no rows. It
keeps the record of all that was sent.
-/

namespace DeviceQuery

/-- What a device replies: its rows, or a failure. -/
abbrev Reply := Except Failure (List Row)

/-- A link in memory. -/
structure Link where
  /-- The replies to come, the next one first. -/
  replies : List Reply := []
  /-- The rows that a stream replays if it is opened now. -/
  streamRows : List Row := []
  /-- The sentences that were written, the oldest first. -/
  written : List (List String) := []
  /-- The sentences that streams were opened with, the oldest first. -/
  streamed : List (List String) := []

namespace Link

/-- Queues a reply. -/
def pushReply (l : Link) (r : Reply) : Link := { l with replies := l.replies ++ [r] }

/-- Sets the rows of the streams opened from now on. -/
def setStreamRows (l : Link) (rows : List Row) : Link := { l with streamRows := rows }

/-- Writes a sentence and takes its reply. -/
def write (l : Link) (words : List String) : Reply × Link :=
  match l.replies with
  | [] => (.ok [], { l with written := l.written ++ [words] })
  | r :: rest => (r, { l with replies := rest, written := l.written ++ [words] })

/-- Why no stream can be opened where nothing runs its feed. -/
def noRuntime : Failure :=
  .transport <| "stream needs a tokio runtime: there is no reactor running, " ++
    "must be called from the context of a Tokio 1.x runtime"

/-- Opens a stream with a sentence, if there is something to run its feed. -/
def stream (l : Link) (words : List String) (withCallback runtime : Bool) :
    Except Failure Feed × Link :=
  if runtime then
    (.ok (Feed.fresh l.streamRows withCallback), { l with streamed := l.streamed ++ [words] })
  else (.error noRuntime, l)

end Link

end DeviceQuery
