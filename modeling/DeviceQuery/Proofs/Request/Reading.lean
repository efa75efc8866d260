import DeviceQuery.Proofs.Request.Strict

/-!
# Reading requests

A chain that passes its check asks for its rows with one sentence and is handed the next reply of
the link as it is (`get_of_checked`). All reading requests are this one request, and what they make
of the reply does not reach the link (`reading_requests_view_get`).
-/

namespace DeviceQuery

/-- An exchange is another one with its rows seen in some way: the link is left the same, and
rows are seen exactly where there are rows. -/
structure Exchange.Views {α : Type} (seen : Exchange α) (plain : Exchange (List Row))
    (view : List Row → α) : Prop where
  link_eq : seen.link = plain.link
  error_iff : ∀ e, seen.result = .error e ↔ plain.result = .error e
  ok_of_rows : ∀ rows, plain.result = .ok rows → seen.result = .ok (view rows)

theorem Exchange.views_map {α : Type} (plain : Exchange (List Row)) (view : List Row → α) :
    (plain.map view).Views plain view := by
  obtain ⟨result, link, records⟩ := plain
  refine ⟨rfl, ?_, ?_⟩
  · intro e
    cases result with
    | error failure => simp [Exchange.map, Except.map]
    | ok rows => simp [Exchange.map, Except.map]
  · rintro rows rfl
    rfl

namespace Chain

variable {q : Chain}

/-- Where the check is passed or not asked for, there is a sentence for every action. -/
theorem assemble_of_checked (checked : q.settings.strict = true → q.check = .ok ())
    (action : String) : q.assemble action = .ok (q.sentence action) := by
  unfold assemble
  split
  · next strict =>
    rw [validate_of_ok (checked strict)]
    rfl
  · rfl

/-- A chain that passes its check writes its sentence and gets the reply to it. -/
theorem get_of_checked (checked : q.settings.strict = true → q.check = .ok ()) (link : Link) :
    (q.get link).result = link.nextReply ∧
      (q.get link).link = link.sent (q.sentence printAction).words := by
  have sends : q.get link = q.send (q.sentence printAction) link := by
    rw [get, assemble_of_checked checked]
  rw [sends]
  exact ⟨q.send_result _ link, q.send_link _ link⟩

/-- Where something runs its feed, such a chain opens a stream of every action. -/
theorem stream_of_checked (checked : q.settings.strict = true → q.check = .ok ())
    (action : String) (withCallback : Bool) (link : Link) :
    let opened := q.stream action withCallback true link
    opened.result = .ok (Feed.fresh link.streamRows withCallback) ∧
      opened.link = { link with streamed := link.streamed ++ [(q.sentence action).words] } := by
  intro opened
  have opens : opened = q.stream action withCallback true link := rfl
  rw [opens, stream, assemble_of_checked checked]
  exact ⟨rfl, rfl⟩

end Chain

namespace Request

/-- A reading request sees the rows that the plain one gets, on the chain with its criteria. -/
theorem make_views {r : Request} (reads : r ≠ purge) (q : Chain) (link : Link) :
    (r.make q link).Views ((r.chain q).get link) fun rows => r.view q.settings.nameStyle rows := by
  rw [make_eq_get reads]
  exact Exchange.views_map _ _

end Request

/-- Under strict settings a filter without balance is refused and the link stays as it was. In
every other case the plain request writes the sentence of the chain, takes the oldest reply that is
queued, and ends with it as it is. The other requests leave the link as the plain one does and fail
where it fails; they see its rows as they are, its first row, or all of them as items. A request
with criteria is the one without them on the chain that has them for a last call. -/
theorem reading_requests_view_get (q : Chain) (c : Criteria) (link : Link) :
    let given := q.apply (.given c)
    (∀ s, q.settings.strict = true → q.check = .error s →
      (q.get link).result = .error (.malformed s.message) ∧ (q.get link).link = link) ∧
    ((q.settings.strict = true → q.check = .ok ()) →
      (q.get link).result = link.replies.headD (.ok []) ∧
      (q.get link).link =
        { link with
          replies := link.replies.tail
          written := link.written ++ [(q.sentence "/print").words] }) ∧
    (∀ r ∈ [Request.get, .getAll, .print, .collectRows],
      (r.make q link).Views (q.get link) .rows) ∧
    (∀ r ∈ [Request.find, .first, .getOne, .getOnly],
      (r.make q link).Views (q.get link) fun rows => .row (rows.headD Dict.empty)) ∧
    (Request.collect.make q link).Views (q.get link)
      (fun rows => .items (rows.map (Item.ofRow q.settings.nameStyle))) ∧
    (Request.getBy c).make q link = Request.get.make given link ∧
    (Request.findBy c).make q link = Request.find.make given link ∧
    (Request.collectBy c).make q link = Request.collect.make given link := by
  intro given
  refine ⟨?_, ?_, ?_, ?_, ?_, rfl, rfl, rfl⟩
  · intro s strict unbalanced
    rw [Chain.get_of_error strict unbalanced]
    exact ⟨rfl, rfl⟩
  · intro checked
    exact Chain.get_of_checked checked link
  · intro r member
    simp only [List.mem_cons, List.not_mem_nil, or_false] at member
    rcases member with rfl | rfl | rfl | rfl <;> exact Request.make_views (by simp) q link
  · intro r member
    simp only [List.mem_cons, List.not_mem_nil, or_false] at member
    rcases member with rfl | rfl | rfl | rfl <;> exact Request.make_views (by simp) q link
  · exact Request.make_views (by simp) q link

/-- A strict chain whose filter is balanced gets the queued rows, and the first of them where only
one is asked for. With one operator more it is refused and the rows stay queued. -/
theorem reading_requests_view_get_first :
    let q := (Chain.on "/interface" { strict := true }).applyAll
      [.given (.key "running"), .andGiven (.single "mtu" (.integer 1500))]
    let row (name : String) : Row := Dict.empty.insert "name" name
    let link : Link := { replies := [.ok [row "ether1", row "ether2"], .error .closed] }
    let refused := q.apply (.raw ["?#|"])
    ((Request.first.make q link).result = .ok (.row (row "ether1")) ∧
      (Request.first.make q link).link =
        { link with
          replies := [.error .closed]
          written := [["/interface/print", "?running", "?mtu=1500", "?#&"]] }) ∧
    (Request.getOnly.make refused link).result =
        .error (.malformed (Shortfall.message ⟨.or, 3, 2, 1⟩)) ∧
      (Request.getOnly.make refused link).link = link := by
  intro q row link refused
  have unbalanced : refused.check = .error ⟨.or, 3, 2, 1⟩ := by rfl
  obtain ⟨-, replied, -, views, -⟩ := reading_requests_view_get q (.key "running") link
  obtain ⟨refuses, -, -, viewsRefused, -⟩ := reading_requests_view_get refused (.key "") link
  obtain ⟨rows, left⟩ := replied fun _ => by rfl
  obtain ⟨failed, same⟩ := refuses _ rfl unbalanced
  have first := views .first (by simp)
  have only := viewsRefused .getOnly (by simp)
  refine ⟨⟨first.ok_of_rows _ rows, first.link_eq.trans left⟩, ?_, ?_⟩
  · exact (only.error_iff _).mpr failed
  · exact only.link_eq.trans same

end DeviceQuery
