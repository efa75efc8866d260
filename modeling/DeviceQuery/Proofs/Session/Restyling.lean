import DeviceQuery.Proofs.Session.Ledger
import Mathlib.Data.List.Forall2

/-!
# A session in other name styles

The style of a chain goes with it through every call and copy, and is looked at where its settings
are shown, in a developer's view of it, and where rows are wrapped as items. Two sessions whose
chains differ in nothing else answer every step alike (`Session.Alike.step`), so two runs that
differ in the styles of fresh chains leave the same link, the same feeds and the same log, and
every answer that shows no style is the same in both (`restyled_run_alike`).
-/

namespace DeviceQuery

/-- The chain with another style. -/
def Chain.styled (q : Chain) (style : NameStyle) : Chain :=
  { q with settings := { q.settings with nameStyle := style } }

/-- Two chains that differ in nothing but their styles. -/
def Chain.Alike (q₁ q₂ : Chain) : Prop := ∃ style, q₂ = q₁.styled style

/-- Two sessions whose chains differ in nothing but their styles. -/
structure Session.Alike (s₁ s₂ : Session) : Prop where
  link : s₁.link = s₂.link
  feeds : s₁.feeds = s₂.feeds
  chains : ∀ name, Option.Rel Chain.Alike (s₁.chains.get? name) (s₂.chains.get? name)

/-- The same step, or a fresh chain on the same path that is as strict and of any style. -/
inductive Step.Alike : Step → Step → Prop
  | same (step : Step) : Alike step step
  | create (name path : String) (strict : Bool) (style₁ style₂ : NameStyle) :
      Alike (.create name path { nameStyle := style₁, strict })
        (.create name path { nameStyle := style₂, strict })

/-- The style of the chain of a name, if there is one. -/
def Session.styleOf (s : Session) (name : String) : NameStyle :=
  ((s.chains.get? name).map fun q => q.settings.nameStyle).getD .kebab

/-- The style of the chain that a step makes, looks at or makes a request with. No other step has
one to show. -/
def Step.style (s : Session) : Step → NameStyle
  | create _ _ settings => settings.nameStyle
  | menu _ _ vars => (Settings.ofVariables vars).1.nameStyle
  | inspect name _ | request name _ => s.styleOf name
  | _ => .kebab

namespace Answer

/-- The answer shows a style. -/
def showsStyle : Answer → Bool
  | created .. | details .. | dump _ | view (.items _) => true
  | _ => false

theorem ofResult_eq_view_iff {result : Except Failure View} {v : View} :
    ofResult .view result = .view v ↔ result = .ok v := by
  cases result <;> simp [ofResult]

/-- Two answers that are the same but for what each shows of its own style. -/
inductive Alike (style₁ style₂ : NameStyle) : Answer → Answer → Prop
  | same (a : Answer) (unstyled : a.showsStyle = false) : Alike style₁ style₂ a a
  | created (state : ChainState) (strict : Bool) :
      Alike style₁ style₂ (.created state { nameStyle := style₁, strict })
        (.created state { nameStyle := style₂, strict })
  | details (state : ChainState) (strict : Bool) (size : Nat) :
      Alike style₁ style₂ (.details state { nameStyle := style₁, strict } size)
        (.details state { nameStyle := style₂, strict } size)
  /-- The developer's views differ in the title of the style. -/
  | dump (before after : String) :
      Alike style₁ style₂ (.dump (before ++ style₁.title ++ after))
        (.dump (before ++ style₂.title ++ after))
  /-- The items are the same rows with their attributes renamed. -/
  | items (rows : List Row) :
      Alike style₁ style₂ (.view (.items (rows.map (Item.ofRow style₁))))
        (.view (.items (rows.map (Item.ofRow style₂))))

end Answer

/-- Two outcomes that are the same but for the styles. -/
structure Outcome.Alike (style₁ style₂ : NameStyle) (o₁ o₂ : Outcome) : Prop where
  answer : Answer.Alike style₁ style₂ o₁.answer o₂.answer
  session : o₁.session.Alike o₂.session
  records : o₁.records = o₂.records

/-- The request that answers with the rows as they are. -/
def Request.unwrapped : Request → Request
  | collect => collectRows
  | collectBy c => getBy c
  | r => r

/-! ## Chains -/

namespace Chain

variable (q : Chain) (style : NameStyle)

theorem styled_self : q.styled q.settings.nameStyle = q := rfl

theorem styled_apply (call : Call) : (q.styled style).apply call = (q.apply call).styled style :=
  rfl

theorem styled_get (link : Link) : (q.styled style).get link = q.get link := rfl

theorem styled_stream (action : String) (withCallback runtime : Bool) (link : Link) :
    (q.styled style).stream action withCallback runtime link =
      q.stream action withCallback runtime link := rfl

theorem Alike.refl : q.Alike q := ⟨q.settings.nameStyle, q.styled_self.symm⟩

end Chain

/-- Of a text put together from pieces, a piece stands between what is put together before it and
after it. -/
theorem intercalate_around (separator : String) (earlier later : List String) :
    ∃ before after, ∀ piece, separator.intercalate (earlier ++ piece :: later) =
      before ++ piece ++ after := by
  induction earlier with
  | nil =>
    cases later with
    | nil => exact ⟨"", "", fun piece => by simp⟩
    | cons next rest =>
      refine ⟨"", separator ++ separator.intercalate (next :: rest), fun piece => ?_⟩
      simp [String.intercalate_cons_cons, String.append_assoc]
  | cons first rest ih =>
    obtain ⟨before, after, around⟩ := ih
    refine ⟨first ++ separator ++ before, after, fun piece => ?_⟩
    have more : rest ++ piece :: later ≠ [] := by simp
    rw [List.cons_append, String.intercalate_cons_of_ne_nil more, around]
    simp only [String.append_assoc]

/-- Of a record's fields, the value of one stands between what is shown before it and after it. -/
theorem dumpRecord_around (name key : String) (earlier later : List (String × String))
    (more : Bool) :
    ∃ before after, ∀ value, dumpRecord name (earlier ++ (key, value) :: later) more =
      before ++ value ++ after := by
  let shown (fields : List (String × String)) : List String :=
    fields.map fun field => field.1 ++ ": " ++ field.2
  let rest := if more then shown later ++ [".."] else shown later
  obtain ⟨before, after, around⟩ := intercalate_around ", " (shown earlier) rest
  refine ⟨name ++ " \x7b " ++ before ++ (key ++ ": "), after ++ " \x7d", fun value => ?_⟩
  have parts : dumpRecord name (earlier ++ (key, value) :: later) more =
      name ++ " \x7b " ++ ", ".intercalate (shown earlier ++ (key ++ ": " ++ value) :: rest) ++
        " \x7d" := by
    cases more <;> simp [dumpRecord, shown, rest]
  rw [parts, around]
  simp only [String.append_assoc]

theorem Settings.dump_around (strict : Bool) :
    ∃ before after, ∀ style : NameStyle,
      Settings.dump { nameStyle := style, strict } = before ++ style.title ++ after := by
  obtain ⟨before, after, around⟩ := dumpRecord_around "QueryConfig" "case_mode" []
    [("strict_expressions", if strict then "true" else "false")] false
  exact ⟨before, after, fun style => around style.title⟩

/-- The developer's view of a chain shows its style by the title alone. -/
theorem Chain.dump_around (q : Chain) :
    ∃ before after, ∀ style, (q.styled style).dump = before ++ style.title ++ after := by
  obtain ⟨first, last, inner⟩ := Settings.dump_around q.settings.strict
  let projection := q.projection.elim "None" fun names => "Some(" ++ Text.quotedList names ++ ")"
  let filter := dumpRecord "FilterStack" [("tokens", Text.bracketed (q.filter.map Term.dump))] false
  obtain ⟨before, after, outer⟩ := dumpRecord_around "MenuQuery" "config"
    [("path", Text.quoted q.path), ("proplist", projection), ("filters", filter)] [] true
  refine ⟨before ++ first, last ++ after, fun style => ?_⟩
  have dumped : (q.styled style).dump = before ++ (first ++ style.title ++ last) ++ after := by
    rw [← outer, ← inner]
    rcases q with ⟨path, _ | names, stack, settings⟩ <;> rfl
  rw [dumped]
  simp only [String.append_assoc]

/-! ## Requests -/

namespace Request

variable (r : Request) (q : Chain) (style : NameStyle)

theorem chain_styled : r.chain (q.styled style) = (r.chain q).styled style := by
  cases r <;> rfl

/-- A request does the same to the link and logs the same whatever the style is, and of the rows it
gets only items show the style. -/
theorem make_styled (link : Link) :
    (r.make (q.styled style) link).link = (r.make q link).link ∧
    (r.make (q.styled style) link).records = (r.make q link).records ∧
    Answer.Alike q.settings.nameStyle style (.ofResult .view (r.make q link).result)
      (.ofResult .view (r.make (q.styled style) link).result) := by
  by_cases reads : r = purge
  · subst reads
    have same : purge.make (q.styled style) link = purge.make q link := rfl
    rw [same]
    refine ⟨rfl, rfl, .same _ ?_⟩
    -- a purge answers with rows or fails
    change (Answer.ofResult Answer.view ((q.purge link).result.map View.rows)).showsStyle = false
    cases (q.purge link).result <;> rfl
  · rw [make_eq_get reads, make_eq_get reads, chain_styled, Chain.styled_get]
    refine ⟨rfl, rfl, ?_⟩
    unfold Exchange.map
    cases ((r.chain q).get link).result with
    | error f => exact .same _ rfl
    | ok rows =>
      cases r with
      | collect | collectBy => exact .items rows
      | _ => exact .same _ rfl

/-- Where a request is answered with items, in every style they are the rows that it gets, wrapped
in this style. -/
theorem make_unwrapped (link : Link) (items : List Item)
    (wrapped : (r.make q link).result = .ok (.items items)) :
    ∃ rows, ∀ style, (r.unwrapped.make (q.styled style) link).result = .ok (.rows rows) ∧
      (r.make (q.styled style) link).result = .ok (.items (rows.map (Item.ofRow style))) := by
  by_cases reads : r = purge
  · subst reads
    change (q.purge link).result.map View.rows = _ at wrapped
    cases result : (q.purge link).result <;> simp [result, Except.map] at wrapped
  · have plain : r.unwrapped ≠ purge := by cases r <;> simp_all [unwrapped]
    have sameChain : r.unwrapped.chain q = r.chain q := by cases r <;> rfl
    rw [make_eq_get reads] at wrapped
    unfold Exchange.map at wrapped
    cases result : ((r.chain q).get link).result with
    | error f => simp [result, Except.map] at wrapped
    | ok rows =>
      refine ⟨rows, fun style => ?_⟩
      rw [make_eq_get plain, make_eq_get reads, chain_styled, chain_styled, sameChain,
        Chain.styled_get]
      simp only [Exchange.map, result, Except.map, Except.ok.injEq] at wrapped ⊢
      cases r with
      | collect | collectBy => exact ⟨rfl, rfl⟩
      | _ => cases wrapped

end Request

/-! ## Sessions -/

namespace Session.Alike

variable {s₁ s₂ : Session}

/-- A name has no chain in both sessions, or chains that differ in nothing but their styles. -/
theorem chain_cases (alike : s₁.Alike s₂) (name : String) :
    (s₁.chains.get? name = none ∧ s₂.chains.get? name = none) ∨
    ∃ q style, s₁.chains.get? name = some q ∧ s₂.chains.get? name = some (q.styled style) := by
  have related := alike.chains name
  cases found₁ : s₁.chains.get? name <;> cases found₂ : s₂.chains.get? name <;>
    rw [found₁, found₂] at related
  case none.none => exact .inl ⟨rfl, rfl⟩
  case some.some q _ =>
    cases related with
    | some chain =>
      obtain ⟨style, rfl⟩ := chain
      exact .inr ⟨q, style, rfl, rfl⟩
  all_goals cases related

theorem refl (s : Session) : s.Alike s where
  link := rfl
  feeds := rfl
  chains := by
    intro name
    cases s.chains.get? name with
    | none => exact .none
    | some q => exact .some (.refl q)

theorem setLink (alike : s₁.Alike s₂) (link : Link) :
    Session.Alike { s₁ with link } { s₂ with link } := ⟨rfl, alike.feeds, alike.chains⟩

theorem setChain (alike : s₁.Alike s₂) (name : String) {q₁ q₂ : Chain} (chain : q₁.Alike q₂) :
    (s₁.setChain name q₁).Alike (s₂.setChain name q₂) where
  link := alike.link
  feeds := alike.feeds
  chains := by
    intro other
    rw [Session.setChain, Session.setChain, Dict.get?_insert, Dict.get?_insert]
    split
    · exact .some chain
    · exact alike.chains other

theorem eraseChain (alike : s₁.Alike s₂) (name : String) :
    Session.Alike { s₁ with chains := s₁.chains.erase name }
      { s₂ with chains := s₂.chains.erase name } where
  link := alike.link
  feeds := alike.feeds
  chains := by
    intro other
    rw [Dict.get?_erase, Dict.get?_erase]
    split
    · exact .none
    · exact alike.chains other

theorem setFeed (alike : s₁.Alike s₂) (name : String) (f : Feed) :
    (s₁.setFeed name f).Alike (s₂.setFeed name f) := by
  unfold Session.setFeed
  rw [alike.feeds]
  exact ⟨alike.link, rfl, alike.chains⟩

theorem runFeeds (alike : s₁.Alike s₂) : s₁.runFeeds.Alike s₂.runFeeds := by
  unfold Session.runFeeds
  rw [alike.feeds]
  exact ⟨alike.link, rfl, alike.chains⟩

theorem beforeDrive (alike : s₁.Alike s₂) (what : Drive) :
    (s₁.beforeDrive what).Alike (s₂.beforeDrive what) := by
  cases what with
  | receive => exact alike.runFeeds
  | _ => exact alike

/-- Who goes on with the chain of a name finds none in both sessions, or chains that differ in style
only. -/
theorem withChain (alike : s₁.Alike s₂) (style₁ style₂ : NameStyle) (name : String)
    (next₁ next₂ : Chain → Outcome)
    (there : ∀ q style, s₁.styleOf name = q.settings.nameStyle → s₂.styleOf name = style →
      Outcome.Alike style₁ style₂ (next₁ q) (next₂ (q.styled style))) :
    Outcome.Alike style₁ style₂ (s₁.withChain name next₁) (s₂.withChain name next₂) := by
  rcases alike.chain_cases name with ⟨missing₁, missing₂⟩ | ⟨q, style, found₁, found₂⟩
  · rw [Session.withChain, Session.withChain, missing₁, missing₂]
    exact ⟨.same _ rfl, alike, rfl⟩
  · rw [Session.withChain, Session.withChain, found₁, found₂]
    exact there q style (by simp [Session.styleOf, found₁])
      (by simp [Session.styleOf, found₂, Chain.styled])

theorem turn (alike : s₁.Alike s₂) (style₁ style₂ : NameStyle) (name : String) (f : Feed)
    (control : Control) :
    Outcome.Alike style₁ style₂ (s₁.turn name f control) (s₂.turn name f control) := by
  unfold Session.turn
  cases f.turn control with
  | ok g => exact ⟨.same _ rfl, alike.setFeed name g, rfl⟩
  | error e => exact ⟨.same _ rfl, alike, rfl⟩

theorem driveFeed (alike : s₁.Alike s₂) (style₁ style₂ : NameStyle) (name : String)
    (f : Feed) (what : Drive) :
    Outcome.Alike style₁ style₂ (s₁.driveFeed name f what) (s₂.driveFeed name f what) := by
  cases what with
  | receive => exact ⟨.same _ rfl, alike.setFeed name _, rfl⟩
  | pause => exact alike.turn style₁ style₂ name f .paused
  | resume => exact alike.turn style₁ style₂ name f .running
  | stop => exact ⟨.same _ rfl, alike.setFeed name _, rfl⟩
  | control | finished | given => exact ⟨.same _ rfl, alike, rfl⟩
  | close =>
    refine ⟨.same _ rfl, ?_, rfl⟩
    exact ⟨alike.link, congrArg (Dict.erase · name) alike.feeds, alike.chains⟩

theorem drive (alike : s₁.Alike s₂) (style₁ style₂ : NameStyle) (feed : String)
    (what : Drive) :
    Outcome.Alike style₁ style₂ (s₁.step (.drive feed what)) (s₂.step (.drive feed what)) := by
  have before := alike.beforeDrive what
  change Outcome.Alike _ _ ((s₁.beforeDrive what).withFeed feed _)
    ((s₂.beforeDrive what).withFeed feed _)
  unfold Session.withFeed
  rw [← before.feeds]
  cases (s₁.beforeDrive what).feeds.get? feed with
  | none => exact ⟨.same _ rfl, before, rfl⟩
  | some f => exact before.driveFeed style₁ style₂ feed f what

/-- A chain is used up by a request and by a stream. -/
theorem request (alike : s₁.Alike s₂) (name : String) (q : Chain) (style : NameStyle)
    (r : Request) :
    Outcome.Alike q.settings.nameStyle style (s₁.request name q r)
      (s₂.request name (q.styled style) r) := by
  obtain ⟨link, records, answer⟩ := r.make_styled q style s₁.link
  unfold Session.request
  rw [← alike.link]
  refine ⟨answer, ?_, records.symm⟩
  dsimp only
  rw [link]
  exact (alike.eraseChain name).setLink _

theorem openStream (alike : s₁.Alike s₂) (name feed : String) (q : Chain)
    (style style₁ style₂ : NameStyle) (how : Opening) (runtime : Bool) :
    Outcome.Alike style₁ style₂ (s₁.openStream name feed q how runtime)
      (s₂.openStream name feed (q.styled style) how runtime) := by
  unfold Session.openStream
  rw [Chain.styled_stream, ← alike.link]
  generalize q.stream how.action how.withCallback runtime s₁.link = e
  obtain ⟨result, link, records⟩ := e
  have left := (alike.eraseChain name).setLink link
  cases result with
  | ok f => exact ⟨.same _ rfl, left.setFeed feed f, rfl⟩
  | error f => exact ⟨.same _ rfl, left, rfl⟩

/-- What one step does is the same in both sessions, but for the styles that its answer shows. -/
theorem step (alike : s₁.Alike s₂) {step₁ step₂ : Step} (restyled : step₁.Alike step₂) :
    Outcome.Alike (step₁.style s₁) (step₂.style s₂) (s₁.step step₁) (s₂.step step₂) := by
  obtain ⟨link, chains₁, feeds⟩ := s₁
  obtain ⟨_, chains₂, _⟩ := s₂
  cases alike.link
  cases alike.feeds
  cases restyled with
  | create name path strict style₁ style₂ =>
    exact ⟨.created _ strict, alike.setChain name ⟨style₂, rfl⟩, rfl⟩
  | same =>
    cases step₁ with
    | pushReply | setStreamRows => exact ⟨.same _ rfl, alike.setLink _, rfl⟩
    | written | streamed => exact ⟨.same _ rfl, alike, rfl⟩
    | write words =>
      refine ⟨.same _ ?_, alike.setLink _, rfl⟩
      change (Answer.ofResult _ (link.write words).1).showsStyle = false
      cases (link.write words).1 <;> rfl
    | create name path settings => exact ⟨.created _ _, alike.setChain name (.refl _), rfl⟩
    | menu name path vars => exact ⟨.created _ _, alike.setChain name (.refl _), rfl⟩
    | copy name target =>
      refine alike.withChain _ _ name _ _ fun q style _ _ => ?_
      exact ⟨.same _ rfl, alike.setChain target ⟨style, rfl⟩, rfl⟩
    | call name call =>
      refine alike.withChain _ _ name _ _ fun q style _ _ => ?_
      exact ⟨.same _ rfl, alike.setChain name ⟨style, q.styled_apply style call⟩, rfl⟩
    | inspect name what =>
      refine alike.withChain _ _ name _ _ fun q style style₁ style₂ => ?_
      change Outcome.Alike (styleOf _ name) (styleOf _ name) _ _
      rw [style₁, style₂]
      refine ⟨?_, alike, rfl⟩
      cases what with
      | state => exact .details _ _ _
      | sentence | validity => exact .same _ rfl
      | dump =>
        obtain ⟨before, after, around⟩ := q.dump_around
        change Answer.Alike _ _ (.dump (q.styled q.settings.nameStyle).dump) (.dump _)
        rw [around, around]
        exact .dump before after
    | request name r =>
      refine alike.withChain _ _ name _ _ fun q style style₁ style₂ => ?_
      change Outcome.Alike (styleOf _ name) (styleOf _ name) _ _
      rw [style₁, style₂]
      exact alike.request name q style r
    | stream name feed how runtime =>
      refine alike.withChain _ _ name _ _ fun q style _ _ => ?_
      exact alike.openStream name feed q style _ _ how runtime
    | settle => exact ⟨.same _ rfl, alike.runFeeds, rfl⟩
    | drive feed what => exact alike.drive _ _ feed what

theorem after (alike : s₁.Alike s₂) {steps₁ steps₂ : List Step}
    (restyled : List.Forall₂ Step.Alike steps₁ steps₂) :
    (s₁.after steps₁).Alike (s₂.after steps₂) := by
  induction restyled generalizing s₁ s₂ with
  | nil => exact alike
  | cons first rest ih => exact ih (alike.step first).session

theorem log (alike : s₁.Alike s₂) {steps₁ steps₂ : List Step}
    (restyled : List.Forall₂ Step.Alike steps₁ steps₂) : s₁.log steps₁ = s₂.log steps₂ := by
  induction restyled generalizing s₁ s₂ with
  | nil => rfl
  | cons first rest ih =>
    have outcome := alike.step first
    rw [Session.log_cons, Session.log_cons, outcome.records, ih outcome.session]

/-- Items come from the rows that the same request is answered with as they are. -/
theorem items (alike : s₁.Alike s₂) (name : String) (r : Request) (items : List Item)
    (wrapped : (s₁.step (.request name r)).answer = .view (.items items)) :
    ∃ rows, ∀ s ∈ [s₁, s₂],
      (s.step (.request name r.unwrapped)).answer = .view (.rows rows) ∧
      (s.step (.request name r)).answer =
        .view (.items (rows.map (Item.ofRow (s.styleOf name)))) := by
  rcases alike.chain_cases name with ⟨missing, -⟩ | ⟨q, style, found₁, found₂⟩
  · rw [Session.step_request, Session.withChain, missing] at wrapped
    cases wrapped
  · rw [Session.answer_request found₁] at wrapped
    have made := Answer.ofResult_eq_view_iff.mp wrapped
    obtain ⟨rows, replied⟩ := r.make_unwrapped q s₁.link items made
    refine ⟨rows, List.forall_mem_cons.mpr ⟨?_, List.forall_mem_singleton.mpr ?_⟩⟩
    · obtain ⟨plain, items⟩ := replied q.settings.nameStyle
      rw [Chain.styled_self] at plain items
      rw [Session.answer_request found₁, Session.answer_request found₁, plain, items,
        Session.styleOf, found₁]
      exact ⟨rfl, rfl⟩
    · obtain ⟨plain, items⟩ := replied style
      rw [Session.answer_request found₂, Session.answer_request found₂, ← alike.link, plain,
        items, Session.styleOf, found₂]
      exact ⟨rfl, rfl⟩

end Session.Alike

/-- Two runs whose fresh chains differ in style do the same to the link and the feeds and log the
same. After them every step is answered alike: only the settings of a chain, the developer's view of
it and the items that wrap rows show the style, and the items are wrapped from the same rows. -/
theorem restyled_run_alike {s₁ s₂ : Session} (alike : s₁.Alike s₂) {steps₁ steps₂ : List Step}
    (restyled : List.Forall₂ Step.Alike steps₁ steps₂) :
    let t₁ := s₁.after steps₁
    let t₂ := s₂.after steps₂
    t₁.Alike t₂ ∧ s₁.log steps₁ = s₂.log steps₂ ∧
    (∀ step₁ step₂ : Step, step₁.Alike step₂ →
      Outcome.Alike (step₁.style t₁) (step₂.style t₂) (t₁.step step₁) (t₂.step step₂)) ∧
    ∀ (name : String) (r : Request) (items : List Item),
      (t₁.step (.request name r)).answer = .view (.items items) →
      ∃ rows, ∀ t ∈ [t₁, t₂],
        (t.step (.request name r.unwrapped)).answer = .view (.rows rows) ∧
        (t.step (.request name r)).answer =
          .view (.items (rows.map (Item.ofRow (t.styleOf name)))) := by
  intro t₁ t₂
  have afterwards : t₁.Alike t₂ := alike.after restyled
  exact ⟨afterwards, alike.log restyled, fun _ _ restyled => afterwards.step restyled,
    afterwards.items⟩

/-- Two chains exchange their styles. The rows that the one gets are wrapped with other names, and
the sentence for them is the same; the other one is strict and refused in both runs. -/
theorem restyled_run_alike_exchanged :
    let row : Row := Dict.ofList [("mac-address", "AA:BB"), ("name", "ether1")]
    let renamed : Row := Dict.ofList [("mac_address", "AA:BB"), ("name", "ether1")]
    let steps (style₁ style₂ : NameStyle) : List Step :=
      [.pushReply (.ok [row]), .create "q" "/interface" { nameStyle := style₁ },
        .call "q" (.given (.key "running")),
        .create "p" "/log" { nameStyle := style₂, strict := true }, .call "p" (.raw ["?#|"]),
        .stream "p" "h" .subscribe true]
    let t₁ := ({} : Session).after (steps .kebab .snake)
    let t₂ := ({} : Session).after (steps .snake .kebab)
    let first := t₁.step (.request "q" .collect)
    let second := t₂.step (.request "q" .collect)
    List.Forall₂ Step.Alike (steps .kebab .snake) (steps .snake .kebab) ∧
      first.answer = .view (.items [⟨row⟩]) ∧ second.answer = .view (.items [⟨renamed⟩]) ∧
      first.records = second.records ∧
      second.session.link.written = [["/interface/print", "?running"]] ∧
      first.session.link = second.session.link := by
  intro row renamed steps t₁ t₂ first second
  have restyled : List.Forall₂ Step.Alike (steps .kebab .snake) (steps .snake .kebab) :=
    .cons (.same _) <| .cons (.create _ _ _ _ _) <| .cons (.same _) <|
      .cons (.create _ _ _ _ _) <| .cons (.same _) <| .cons (.same _) .nil
  obtain ⟨alike, -, next, items⟩ := restyled_run_alike (.refl {}) restyled
  have outcome := next (.request "q" .collect) _ (.same _)
  have wrapped : first.answer = .view (.items [⟨row⟩]) := by rfl
  obtain ⟨rows, both⟩ := items "q" .collect _ wrapped
  obtain ⟨plain, other⟩ := both t₂ (by simp [t₂])
  have replied : rows = [row] := by
    have served : (t₂.step (.request "q" Request.collect.unwrapped)).answer = .view (.rows [row]) :=
      by rfl
    rw [served] at plain
    cases plain
    rfl
  have style : t₂.styleOf "q" = .snake := by rfl
  have rename : Item.ofRow .snake row = ⟨renamed⟩ := by decide +kernel
  rw [replied, style, List.map_singleton, rename] at other
  exact ⟨restyled, wrapped, other, outcome.records, by decide, outcome.session.link⟩

end DeviceQuery
