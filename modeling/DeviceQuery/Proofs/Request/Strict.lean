import DeviceQuery.Proofs.Filter.Words
import DeviceQuery.Proofs.Request.Basic

/-!
# The strict setting

Where the settings are strict, a filter without balance stops every request and every stream
before anything reaches the link, a purge excepted, which never looks at the filter
(`strict_stops_all_but_purge`). What does reach the link is then balanced as the device hears it,
as long as no condition is sent as the word of an operator (`strict_words_supplied`).
-/

namespace DeviceQuery

namespace Chain

/-- Under strict settings a filter without balance has no sentence. -/
theorem assemble_of_error {q : Chain} (strict : q.settings.strict = true) {s : Shortfall}
    (unbalanced : q.check = .error s) (action : String) :
    q.assemble action = .error (.malformed s.message) := by
  rw [assemble, if_pos strict, validate_of_error unbalanced]
  rfl

/-- What is assembled under strict settings has been checked. -/
theorem check_of_assemble {q : Chain} (strict : q.settings.strict = true) {action : String}
    {s : Sentence} (assembled : q.assemble action = .ok s) :
    q.check = .ok () ∧ s = q.sentence action := by
  unfold assemble at assembled
  rw [if_pos strict] at assembled
  cases checked : q.check with
  | error shortfall =>
    rw [validate_of_error checked] at assembled
    cases assembled
  | ok _ =>
    rw [validate_of_ok checked] at assembled
    cases assembled
    exact ⟨rfl, rfl⟩

theorem get_of_error {q : Chain} (strict : q.settings.strict = true) {s : Shortfall}
    (unbalanced : q.check = .error s) (link : Link) :
    q.get link = .refused (.malformed s.message) link := by
  rw [get, assemble_of_error strict unbalanced]

theorem stream_of_error {q : Chain} (strict : q.settings.strict = true) {s : Shortfall}
    (unbalanced : q.check = .error s) (action : String) (withCallback runtime : Bool)
    (link : Link) :
    q.stream action withCallback runtime link = .refused (.malformed s.message) link := by
  rw [stream, assemble_of_error strict unbalanced]

/-- A purge always leaves its mark on the link. -/
theorem purge_link_ne (q : Chain) (link : Link) : (q.purge link).link ≠ link := by
  intro same
  obtain ⟨removed, written, -⟩ := q.written_purge link
  rw [same] at written
  simp at written

end Chain

/-- A refused request leaves the link as it is and logs nothing. -/
theorem Request.make_of_error {r : Request} (reads : r ≠ .purge) {q : Chain}
    (strict : q.settings.strict = true) {s : Shortfall} (unbalanced : (r.chain q).check = .error s)
    (link : Link) : r.make q link = .refused (.malformed s.message) link := by
  have strict' : (r.chain q).settings.strict = true := by rwa [r.chain_settings]
  rw [make_eq_get reads, Chain.get_of_error strict' unbalanced, Exchange.refused_map]

/-- Under strict settings a filter without balance stops every stream, and of the requests all but
a purge: the failure is the one that the check names, and the link stays as it was. The filter of a
request is the one with its own criteria taken in. -/
theorem strict_stops_all_but_purge (q : Chain) (strict : q.settings.strict = true) :
    (∀ (r : Request) (s : Shortfall) (link : Link), (r.chain q).check = .error s →
      ((r.make q link).result = .error (.malformed s.message) ∧ (r.make q link).link = link ↔
        r ≠ .purge)) ∧
    (∀ (how : Opening) (runtime : Bool) (s : Shortfall) (link : Link), q.check = .error s →
      (q.stream how.action how.withCallback runtime link).result =
          .error (.malformed s.message) ∧
        (q.stream how.action how.withCallback runtime link).link = link) := by
  constructor
  · intro r s link unbalanced
    constructor
    · rintro ⟨-, same⟩ rfl
      exact q.purge_link_ne link same
    · intro reads
      have strict' : (r.chain q).settings.strict = true := by simpa [Request.chain] using strict
      rw [Request.make_eq_get reads, Chain.get_of_error strict' unbalanced, Exchange.refused_map]
      exact ⟨rfl, rfl⟩
  · intro how runtime s link unbalanced
    rw [Chain.stream_of_error strict unbalanced]
    exact ⟨rfl, rfl⟩

/-- Two operators where there is one operand: a reading request is refused. -/
theorem strict_stops_all_but_purge_find :
    let q := (Chain.on "/interface" { strict := true }).applyAll
      [.given (.key "running"), .raw ["?#!", "?#|"]]
    q.settings.strict = true ∧ (Request.find.chain q).check = .error ⟨.or, 2, 2, 1⟩ ∧
      (Request.find.make q {}).result = .error (.malformed (Shortfall.message ⟨.or, 2, 2, 1⟩)) ∧
      (Request.find.make q {}).link = {} := by
  intro q
  have unbalanced : (Request.find.chain q).check = .error ⟨.or, 2, 2, 1⟩ := by rfl
  refine ⟨rfl, unbalanced, ?_⟩
  exact ((strict_stops_all_but_purge q rfl).1 .find _ {} unbalanced).mpr (by simp)

/-- Under strict settings a purge is made although the filter has no balance. -/
theorem purge_not_stopped :
    let q := (Chain.on "/interface" { strict := true }).apply (.raw ["?#&"])
    q.settings.strict = true ∧ q.check = .error ⟨.and, 0, 2, 0⟩ ∧
      (q.purge {}).link.written =
        [["/interface/print", "=.proplist=.id"], ["/interface/remove", "=numbers="]] :=
  ⟨rfl, by rfl, by decide⟩

/-! ## What reaches the link -/

namespace Menu

/-- A path starts with a slash, whatever is put after it. -/
theorem head_path_append (text rest : String) :
    (path text ++ rest).toList.head? = some '/' := by
  simp [path]

end Menu

namespace Chain

/-- No word of the filter can be taken for anything else. -/
def Clear (q : Chain) : Prop := ∀ t ∈ q.filter, t.Clear

instance (q : Chain) : Decidable q.Clear := inferInstanceAs (Decidable (∀ t ∈ q.filter, t.Clear))

/-- No condition of the filter is sent as the word of an operator. -/
def Undisguised (q : Chain) : Prop := ∀ t ∈ q.filter, ¬t.Disguised

instance (q : Chain) : Decidable q.Undisguised :=
  inferInstanceAs (Decidable (∀ t ∈ q.filter, ¬t.Disguised))

variable {q : Chain} {text : String}

/-- A checked filter is supplied with operands also as the device hears it, if no condition is sent
as the word of an operator. -/
theorem supplied_sentence (path : q.path = Menu.path text) (undisguised : q.Undisguised)
    (checked : q.check = .ok ()) (action : String) :
    Filter.Supplied (q.sentence action).words := by
  rw [sentence_words]
  apply (Filter.supplied_append_iff ?_ _).mpr
  · exact (Filter.supplied_iff _).mpr (Filter.check_words_of_undisguised undisguised checked)
  · intro word member
    rcases List.mem_cons.mp member with command | projected
    · rw [command, path, Menu.command, Menu.head_path_append]
      simp
    · obtain ⟨names, -, rfl⟩ := List.mem_map.mp projected
      simp [Word.text]

/-- The two sentences of a purge hold no operators. -/
theorem supplied_of_command (path : q.path = Menu.path text) (action : String) {w : Word}
    (unmarked : w.text.toList.head? ≠ some '?') :
    Filter.Supplied (Sentence.words [.command (q.path ++ action), w]) := by
  apply Filter.supplied_of_unmarked
  intro word member
  rcases List.mem_cons.mp member with command | other
  · rw [command, Word.text, path, Menu.head_path_append]
    simp
  · rw [List.mem_singleton.mp other]
    exact unmarked

end Chain

/-- If no word of a filter can be taken for anything else, then checking the filter is checking its
words, put back one by one as raw words; a word that can be taken for something else may not be let
in, for it shows in the check of some filter. Under strict settings every operator word that reaches
the link has its operands among the words before it, up to the first unknown word, if no condition
is sent as the word of an operator; one that is sent so passes the check by itself, and its word
lacks operands. -/
theorem strict_words_supplied (text : String) (settings : Settings) (calls : List Call) :
    let q := (Chain.on text settings).applyAll calls
    (q.Clear → ((Chain.on text settings).apply (.raw q.filter.words)).check = q.check) ∧
    (∀ t : Term, t.Clear ↔ (Filter.heard (Filter.words [t, .raw Operator.and.word])).check =
      Filter.check [t, .raw Operator.and.word]) ∧
    (settings.strict = true →
      (∀ (r : Request) (link : Link), (r.chain q).Undisguised →
        ∃ sent, (r.make q link).link.written = link.written ++ sent ∧
          (r.make q link).link.streamed = link.streamed ∧
          ∀ words ∈ sent, Filter.Supplied words) ∧
      ∀ (how : Opening) (runtime : Bool) (link : Link), q.Undisguised →
        ∃ sent, (q.stream how.action how.withCallback runtime link).link.streamed =
            link.streamed ++ sent ∧
          (q.stream how.action how.withCallback runtime link).link.written = link.written ∧
          ∀ words ∈ sent, Filter.Supplied words) ∧
    ∀ t : Term, t.Disguised ↔
      Filter.check [t] = .ok () ∧ ¬Filter.Supplied (Filter.words [t]) := by
  intro q
  have path : q.path = Menu.path text := Chain.applyAll_path _ calls
  have settings' : q.settings = settings := Chain.applyAll_settings _ calls
  refine ⟨fun clear => ?_, Filter.clear_iff_check, fun strict => ⟨?_, ?_⟩, fun t => ?_⟩
  · have raw : ((Chain.on text settings).apply (.raw q.filter.words)).filter =
        Filter.heard q.filter.words := Chain.apply_filter _ _
    rw [Chain.check, raw]
    exact Filter.check_words clear
  · intro r link undisguised
    obtain ⟨sent, written, streamed, origin⟩ := r.written_make q link
    refine ⟨sent, written, streamed, fun words member => ?_⟩
    rcases origin words member with ⟨s, assembled, rfl⟩ | rfl | ⟨ids, rfl⟩
    · have strict' : (r.chain q).settings.strict = true := by
        simpa [Request.chain, settings'] using strict
      obtain ⟨checked, rfl⟩ := Chain.check_of_assemble strict' assembled
      have path' : (r.chain q).path = Menu.path text := by simpa [Request.chain] using path
      exact Chain.supplied_sentence path' undisguised checked _
    · exact Chain.supplied_of_command path _ (by simp [Word.text])
    · exact Chain.supplied_of_command path _ (by simp [Word.text])
  · intro how runtime link undisguised
    obtain ⟨sent, streamed, written, origin⟩ :=
      q.streamed_stream how.action how.withCallback runtime link
    refine ⟨sent, streamed, written, fun words member => ?_⟩
    obtain ⟨s, assembled, rfl⟩ := origin words member
    obtain ⟨checked, rfl⟩ := Chain.check_of_assemble (settings' ▸ strict) assembled
    exact Chain.supplied_sentence path undisguised checked _
  · rw [Filter.supplied_iff]
    exact Filter.disguised_iff_check t

/-- A raw operator finds its operands in two conditions of which the first can be told from a raw
word. With an option that looks like an operand the words are checked in another way, and what
reaches the link has its operands all the same. -/
theorem strict_words_supplied_batch :
    let settings : Settings := { strict := true }
    let calls : List Call :=
      [.given (.batch [("type", .text "ether"), ("mtu#", .integer 1500)]), .raw ["?#|"]]
    let looksAlike := calls ++ [.option "?once"]
    let q := (Chain.on "/interface" settings).applyAll calls
    let other := (Chain.on "/interface" settings).applyAll looksAlike
    let words := ["/interface/print", "?type=ether", "?mtu#=1500", "?#|", "?once", "?disabled=no"]
    let request := Request.getBy (.single "disabled" (.flag false))
    (q.Clear ∧ ((Chain.on "/interface" settings).apply (.raw q.filter.words)).check = q.check) ∧
      (¬other.Clear ∧ (request.chain other).Undisguised) ∧
      (request.make other {}).link.written = [words] ∧ Filter.Supplied words := by
  intro settings calls looksAlike q other words request
  have undisguised : (request.chain other).Undisguised := by decide
  have written : (request.make other {}).link.written = [words] := by decide
  obtain ⟨checked, -, -, -⟩ := strict_words_supplied "/interface" settings calls
  obtain ⟨-, -, reaches, -⟩ := strict_words_supplied "/interface" settings looksAlike
  obtain ⟨sent, added, -, supplied⟩ := (reaches rfl).1 request {} undisguised
  have same : sent = [words] := added.symm.trans written
  refine ⟨⟨by decide, checked (by decide)⟩, ⟨by decide, undisguised⟩, written, ?_⟩
  exact supplied words (by rw [same]; exact List.mem_singleton_self words)

/-- A condition on an attribute `#&` is sent as the word of an operator, which lacks operands, and
the check does not see it. -/
theorem operator_name_mistaken :
    let q := (Chain.on "/interface" { strict := true }).apply (.given (.key "#&"))
    q.check = .ok () ∧
      ((Chain.on "/interface" { strict := true }).apply (.raw q.filter.words)).check =
        .error ⟨.and, 0, 2, 0⟩ ∧
      (q.get {}).link.written = [["/interface/print", "?#&"]] :=
  ⟨by rfl, by rfl, by decide⟩

end DeviceQuery
