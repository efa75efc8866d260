import DeviceQuery.Proofs.Request.Basic

/-!
# Purges

A purge asks for the ids of a menu and removes the items with these ids. Nothing is removed where
the ids could not be had, and what is removed are the ids of the reply, each of them and no other
(`purge_two_phase`). Of its chain a purge looks at the path only (`purge_congr`).
-/

namespace DeviceQuery

namespace Chain

variable {q : Chain} {link : Link}

theorem purge_of_error {failure : Failure} (failed : link.nextReply = .error failure) :
    (q.purge link).result = .error failure ∧
      (q.purge link).link = link.sent q.idSentence.words := by
  have listed : (q.send q.idSentence link).result = .error failure := by
    rw [send_result, failed]
  -- a failed listing is the whole purge
  have stops : q.purge link = q.send q.idSentence link := by simp [purge, listed]
  rw [stops]
  exact ⟨listed, q.send_link _ _⟩

theorem purge_of_ok {rows : List Row} (replied : link.nextReply = .ok rows) :
    let asked := link.sent q.idSentence.words
    (q.purge link).result = asked.nextReply ∧
      (q.purge link).link =
        asked.sent (q.removeSentence (rows.filterMap fun row => row.get? idName)).words := by
  have listed : (q.send q.idSentence link).result = .ok rows := by rw [send_result, replied]
  have asked : (q.send q.idSentence link).link = link.sent q.idSentence.words := q.send_link _ _
  simp [purge, listed, asked, send_result, send_link]

/-- Neither the projection nor the filter nor the settings of a chain matter to a purge. -/
theorem purge_congr {other : Chain} (path : other.path = q.path) (link : Link) :
    other.purge link = q.purge link := by
  have send (s : Sentence) (link : Link) : other.send s link = q.send s link := by
    rw [Chain.send, Chain.send, path]
  simp only [purge, send, idSentence, removeSentence, purgeRecord, path]

end Chain

/-- A purge asks for the ids first, and where this fails it ends there, with that failure. Otherwise
it writes one more sentence, with the ids of the rows that have one, and ends with the reply to it.
Each sentence takes one reply, if one is queued, and is answered with no rows otherwise. The ids can
be told apart in the sentence, and the filter and the projection do not matter. -/
theorem purge_two_phase (q : Chain) (link : Link) :
    let print := [q.path ++ "/print", "=.proplist=.id"]
    let first := link.replies.headD (.ok [])
    let second := link.replies.tail.headD (.ok [])
    (∀ e, first = .error e →
      (q.purge link).result = .error e ∧
      (q.purge link).link =
        { link with replies := link.replies.tail, written := link.written ++ [print] }) ∧
    (∀ rows, first = .ok rows →
      let ids := rows.filterMap fun row => row.get? ".id"
      let numbers := ",".intercalate ids
      let remove := [q.path ++ "/remove", "=numbers=" ++ numbers]
      (q.purge link).result = second ∧
      (q.purge link).link =
        { link with
          replies := link.replies.drop 2
          written := link.written ++ [print, remove] } ∧
      (ids ≠ [] → (∀ id ∈ ids, ',' ∉ id.toList) → Text.parts ',' numbers = ids)) ∧
    ∀ (filter : Filter) (projection : Option (List String)),
      { q with filter, projection }.purge link = q.purge link := by
  intro print first second
  have printed : q.idSentence.words = print := by rfl
  refine ⟨?_, ?_, fun filter projection => Chain.purge_congr rfl link⟩
  · intro e failed
    rw [← printed]
    exact Chain.purge_of_error failed
  · intro rows replied ids numbers remove
    obtain ⟨result, left⟩ := Chain.purge_of_ok (q := q) replied
    have removed : (q.removeSentence ids).words = remove := rfl
    refine ⟨result, ?_, Text.parts_intercalate⟩
    rw [left, Link.sent_sent, printed]
    rfl

/-- Two of three rows have an id: the sentence names these two, and its failure is the result. A
purge that fails at once writes no such sentence. -/
theorem purge_two_phase_mixed :
    let q := (Chain.on "/ip/address" {}).apply (.given (.key "disabled"))
    let row (id : String) : Row := Dict.empty.insert ".id" id
    let trap : Failure := .device "no such item"
    let link : Link := { replies := [.ok [row "*1", Dict.empty, row "*2"], .error trap, .ok []] }
    let refused : Link := { replies := [.error trap, .ok [row "*1"]] }
    ((q.purge link).result = .error trap ∧
      (q.purge link).link =
        { link with
          replies := [.ok []]
          written := [["/ip/address/print", "=.proplist=.id"],
            ["/ip/address/remove", "=numbers=*1,*2"]] } ∧
      Text.parts ',' "*1,*2" = ["*1", "*2"]) ∧
    (q.purge refused).link =
      { refused with
        replies := [.ok [row "*1"]], written := [["/ip/address/print", "=.proplist=.id"]] } := by
  intro q row trap link refused
  obtain ⟨result, left, split⟩ := (purge_two_phase q link).2.1 _ rfl
  have failed := (purge_two_phase q refused).1 trap rfl
  exact ⟨⟨result, left, split (by decide) (by decide)⟩, failed.2⟩

end DeviceQuery
