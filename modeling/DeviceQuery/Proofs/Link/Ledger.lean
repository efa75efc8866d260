import DeviceQuery.Proofs.Request.Basic

/-!
# The ledger of a link

Four things are done to a link: a reply is queued, the rows of streams are set, a sentence is
written, and a stream is opened. A written sentence is posted with the replies that wait for it,
and takes the first of them. So of the queued replies, those that have been served and those that
still wait are all, in their order (`served_append_replies`). A link that was fresh before some
acts keeps a ledger of them (`ledger_acts`).
-/

namespace DeviceQuery

theorem filterMap_cons_toList {α β : Type} (added : α → Option β) (a : α) (rest : List α) :
    (a :: rest).filterMap added = (added a).toList ++ rest.filterMap added := by
  rw [List.filterMap_cons]
  cases added a <;> rfl

/-- What is done to a link. A stream is opened with a sentence of its own. -/
inductive Act where
  | push (r : Reply)
  | setRows (rows : List Row)
  | write (words : List String)
  | stream (words : List String)

namespace Act

def pushed? : Act → Option Reply
  | push r => some r
  | _ => none

def rows? : Act → Option (List Row)
  | setRows rows => some rows
  | _ => none

def written? : Act → Option (List String)
  | write words => some words
  | _ => none

def streamed? : Act → Option (List String)
  | stream words => some words
  | _ => none

end Act

/-- A written sentence with the replies that waited for it, and the one it got. -/
structure Posting where
  words : List String
  waiting : List Reply
  reply : Reply

/-- The reply, if it is one that waited. -/
def Posting.served? (p : Posting) : Option Reply :=
  match p.waiting with
  | [] => none
  | _ :: _ => some p.reply

namespace Link

/-- The posting of a sentence that is written now. -/
def posting (l : Link) (words : List String) : Posting :=
  { words, waiting := l.replies, reply := (l.write words).1 }

def act (l : Link) : Act → Link
  | .push r => l.pushReply r
  | .setRows rows => l.setStreamRows rows
  | .write words => (l.write words).2
  | .stream words => { l with streamed := l.streamed ++ [words] }

def acts (l : Link) (all : List Act) : Link := all.foldl act l

/-- The postings of the sentences that are written in some acts, in order. -/
def postings (l : Link) : List Act → List Posting
  | [] => []
  | a :: rest => (a.written?.map l.posting).toList ++ (l.act a).postings rest

/-- The replies that are served in some acts, in the order of the sentences that get them. -/
def served (l : Link) (all : List Act) : List Reply := (l.postings all).filterMap Posting.served?

theorem acts_cons (l : Link) (a : Act) (rest : List Act) :
    l.acts (a :: rest) = (l.act a).acts rest := rfl

theorem acts_append (l : Link) (first rest : List Act) :
    l.acts (first ++ rest) = (l.acts first).acts rest := List.foldl_append

theorem postings_append (l : Link) (first rest : List Act) :
    l.postings (first ++ rest) = l.postings first ++ (l.acts first).postings rest := by
  induction first generalizing l with
  | nil => rfl
  | cons a first ih =>
    rw [List.cons_append, postings, postings, ih, acts_cons, List.append_assoc]

theorem served_cons (l : Link) (a : Act) (rest : List Act) :
    l.served (a :: rest) = l.served [a] ++ (l.act a).served rest := by
  rw [served, served, served, ← List.filterMap_append]
  exact congrArg _ (l.postings_append [a] rest)

/-! ## One act -/

/-- No act loses a reply, doubles it or hands it out of turn. -/
theorem served_append_replies_act (l : Link) (a : Act) :
    l.served [a] ++ (l.act a).replies = l.replies ++ a.pushed?.toList := by
  cases a with
  | push r => rfl
  | setRows rows => exact (List.append_nil _).symm
  | stream words => exact (List.append_nil _).symm
  | write words =>
    -- what the sentence takes is what the queue loses at its front, if it has one
    change (l.posting words).served?.toList ++ (l.write words).2.replies = l.replies ++ []
    unfold posting Posting.served? write
    cases l.replies with
    | nil => rfl
    | cons r rest => simp

theorem written_act (l : Link) (a : Act) :
    (l.act a).written = l.written ++ a.written?.toList := by
  cases a with
  | write words => exact l.write_written words
  | push | setRows | stream => exact (List.append_nil _).symm

theorem streamed_act (l : Link) (a : Act) :
    (l.act a).streamed = l.streamed ++ a.streamed?.toList := by
  cases a with
  | write words => exact (l.write_streamed words).trans (List.append_nil _).symm
  | stream words => rfl
  | push | setRows => exact (List.append_nil _).symm

theorem streamRows_act (l : Link) (a : Act) :
    (l.act a).streamRows = a.rows?.getD l.streamRows := by
  cases a with
  | write words =>
    change (l.write words).2.streamRows = l.streamRows
    rw [write_eq, sent]
  | push | setRows | stream => rfl

theorem act_write (l : Link) (words : List String) : l.act (.write words) = l.sent words := by
  rw [act, write_eq]

theorem acts_write (l : Link) (words : List String) : l.acts [.write words] = l.sent words :=
  l.act_write words

theorem acts_write_write (l : Link) (first second : List String) :
    l.acts [.write first, .write second] = (l.sent first).sent second := by
  rw [acts_cons, act_write, acts_write]

theorem postings_write_write (l : Link) (first second : List String) :
    l.postings [.write first, .write second] =
      [l.posting first, (l.sent first).posting second] := by
  rw [← act_write]
  rfl

/-! ## Some acts -/

/-- What has been served and what waits is what had waited and what was queued. -/
theorem served_append_replies (l : Link) (all : List Act) :
    l.served all ++ (l.acts all).replies = l.replies ++ all.filterMap Act.pushed? := by
  induction all generalizing l with
  | nil => simp [served, postings, acts]
  | cons a rest ih =>
    calc l.served (a :: rest) ++ (l.acts (a :: rest)).replies
        = l.served [a] ++ ((l.act a).served rest ++ ((l.act a).acts rest).replies) := by
          rw [served_cons, acts_cons, List.append_assoc]
      _ = (l.served [a] ++ (l.act a).replies) ++ rest.filterMap Act.pushed? := by
          rw [ih, List.append_assoc]
      _ = l.replies ++ (a :: rest).filterMap Act.pushed? := by
          rw [served_append_replies_act, List.append_assoc, filterMap_cons_toList]

/-- A record to which every act adds at the end has what all of them add, in order. -/
theorem record_acts {α : Type} {record : Link → List α} {added : Act → Option α}
    (one : ∀ (l : Link) (a : Act), record (l.act a) = record l ++ (added a).toList) (l : Link)
    (all : List Act) : record (l.acts all) = record l ++ all.filterMap added := by
  induction all generalizing l with
  | nil => exact (List.append_nil _).symm
  | cons a rest ih => rw [acts_cons, ih, one, List.append_assoc, filterMap_cons_toList]

theorem map_words_postings (l : Link) (all : List Act) :
    (l.postings all).map Posting.words = all.filterMap Act.written? := by
  induction all generalizing l with
  | nil => rfl
  | cons a rest ih =>
    rw [postings, List.map_append, ih, filterMap_cons_toList]
    cases a <;> rfl

theorem streamRows_acts (l : Link) (all : List Act) :
    (l.acts all).streamRows = (all.filterMap Act.rows?).getLastD l.streamRows := by
  induction all generalizing l with
  | nil => rfl
  | cons a rest ih =>
    rw [acts_cons, ih, streamRows_act, filterMap_cons_toList]
    cases a.rows? with
    | none => rfl
    | some rows => exact List.getLastD_cons.symm

theorem streams_of_writes (l : Link) (sentences : List (List String)) :
    (l.acts (sentences.map .write)).streamed = l.streamed ∧
      (l.acts (sentences.map .write)).streamRows = l.streamRows := by
  constructor
  · have added : (sentences.map Act.write).filterMap Act.streamed? = [] := by
      simp [Act.streamed?]
    have kept : (l.acts (sentences.map .write)).streamed = l.streamed ++ _ :=
      record_acts streamed_act l _
    rw [kept, added, List.append_nil]
  · have unset : (sentences.map Act.write).filterMap Act.rows? = [] := by simp [Act.rows?]
    rw [streamRows_acts, unset]
    rfl

theorem acts_streams (l : Link) (sentences : List (List String)) :
    l.acts (sentences.map .stream) = { l with streamed := l.streamed ++ sentences } := by
  induction sentences generalizing l with
  | nil => simp [acts]
  | cons words rest ih =>
    rw [List.map_cons, acts_cons, ih, act]
    simp

end Link

/-! ## The ledger -/

/-- What a link that was fresh before some acts tells of them. -/
structure Link.Ledger (l : Link) (done : List Act) : Prop where
  /-- The replies that were served and those that wait are the queued ones, each once and in
  order. -/
  conserved : Link.served {} done ++ l.replies = done.filterMap Act.pushed?
  /-- A sentence that is written now has its posting after all others. -/
  posted : ∀ words,
    Link.postings {} (done ++ [.write words]) = Link.postings {} done ++ [l.posting words]
  /-- It takes the first reply that was queued and has not been served. -/
  next : ∀ words r rest, done.filterMap Act.pushed? = Link.served {} done ++ r :: rest →
    l.posting words = { words, waiting := r :: rest, reply := r }
  /-- It takes none if all of them have been served. -/
  dry : ∀ words,
    (l.posting words).served? = none ↔ Link.served {} done = done.filterMap Act.pushed?
  /-- Then it is answered with no rows. -/
  default : ∀ words, (l.posting words).served? = none → (l.posting words).reply = .ok []
  written : l.written = done.filterMap Act.written? ∧
    l.written = (Link.postings {} done).map Posting.words
  streamed : l.streamed = done.filterMap Act.streamed?
  /-- The rows of streams are those that were set last. -/
  streamRows : l.streamRows = (done.filterMap Act.rows?).getLastD []

namespace Link

theorem posting_eq (l : Link) (words : List String) :
    l.posting words = { words, waiting := l.replies, reply := l.nextReply } := by
  rw [posting, write_eq]

theorem posting_served?_eq_none_iff (l : Link) (words : List String) :
    (l.posting words).served? = none ↔ l.replies = [] := by
  rw [posting, Posting.served?]
  cases l.replies <;> simp

/-- A link that was fresh keeps a ledger of what is done to it. -/
theorem ledger_acts (done : List Act) : (({} : Link).acts done).Ledger done := by
  have conserved := served_append_replies {} done
  have written : (({} : Link).acts done).written = done.filterMap Act.written? :=
    record_acts written_act {} done
  exact
    { conserved
      posted := fun words => postings_append {} done [.write words]
      next := by
        intro words r rest pushed
        have waiting : (({} : Link).acts done).replies = r :: rest :=
          List.append_cancel_left (conserved.trans pushed)
        rw [posting_eq, nextReply, waiting]
        rfl
      dry := by
        intro words
        rw [posting_served?_eq_none_iff, ← List.nil_append (done.filterMap _)]
        constructor
        · intro empty
          rw [empty, List.append_nil] at conserved
          exact conserved
        · intro all
          exact List.append_right_eq_self.mp (conserved.trans all.symm)
      default := by
        intro words unserved
        rw [posting_eq, nextReply, (posting_served?_eq_none_iff _ _).mp unserved]
        rfl
      written := ⟨written, by rw [written, map_words_postings]⟩
      streamed := record_acts streamed_act {} done
      streamRows := streamRows_acts {} done }

end Link

end DeviceQuery
