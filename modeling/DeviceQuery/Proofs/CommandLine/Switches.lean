import DeviceQuery.CommandLine.Arguments

/-!
# The switch for JSON

Nothing but the switch itself looks at whether JSON is asked for (`Blind`), and the switch settles
the option before it just as the next argument would have done. So arguments that are understood
are also understood without the switch, and ask for the same in the other format
(`parse_without_json`). Where the switch is not given it can stand in front (`parse_with_json`).
-/

namespace DeviceQuery.CommandLine

namespace Progress

variable {p q : Progress}

/-- The progress with JSON asked for or not. -/
def setJson (b : Bool) (p : Progress) : Progress := { p with json := b }

/-- A step that does not look at whether JSON is asked for, and leaves it as it is. -/
def Blind (step : Progress → Except Rejection Progress) : Prop :=
  ∀ b p, step (p.setJson b) = (step p).map (setJson b)

/-- One argument, if it is not two dashes alone. -/
def next (p : Progress) (arg : String) : Except Rejection Progress :=
  match arg.toList with
  | '-' :: '-' :: body => p.long (String.ofList body)
  | '-' :: letter :: _ => p.short letter
  | _ => p.other arg

theorem setJson_setJson (b c : Bool) (p : Progress) : (p.setJson b).setJson c = p.setJson c := rfl

theorem setJson_eq_self {b : Bool} (same : p.json = b) : p.setJson b = p := by
  subst same
  rfl

theorem bind_eq_ok_iff {α : Type} {x : Except Rejection Progress}
    {f : Progress → Except Rejection α} {y : α} :
    (x >>= f) = .ok y ↔ ∃ q, x = .ok q ∧ f q = .ok y := by
  cases x with
  | error r => simp [bind, Except.bind]
  | ok q => simp [bind, Except.bind]

/-! ## Steps that are blind to JSON -/

namespace Blind

variable {step after : Progress → Except Rejection Progress}

theorem of_error (r : Rejection) : Blind fun _ => .error r := fun _ _ => rfl

theorem bind (blind : Blind step) (later : Blind after) : Blind fun p => step p >>= after := by
  intro b p
  change step (p.setJson b) >>= after = (step p >>= after).map (setJson b)
  rw [blind]
  cases step p with
  | error r => rfl
  | ok q => exact later b q

theorem foldlM {α : Type} {step : Progress → α → Except Rejection Progress}
    (blind : ∀ x, Blind (step · x)) (xs : List α) : Blind (xs.foldlM step ·) := by
  induction xs with
  | nil => exact fun _ _ => rfl
  | cons x xs ih =>
    simp only [List.foldlM_cons]
    exact (blind x).bind ih

theorem json_eq (blind : Blind step) (taken : step p = .ok q) : q.json = p.json := by
  have same := blind p.json p
  rw [setJson_eq_self rfl, taken] at same
  rw [Except.ok.inj same]
  rfl

theorem apply_setJson (blind : Blind step) (taken : step p = .ok q) (b : Bool) :
    step (p.setJson b) = .ok (q.setJson b) := by
  rw [blind, taken]
  rfl

end Blind

theorem take_blind (s : Setting) (value : String) : Blind (take · s value) := by
  intro b p
  cases s with
  | action =>
    by_cases given : p.action.isSome
    · simp [take, setJson, given, Except.map]
    · simp [take, setJson, given, Except.map]
  | select => rfl
  | config =>
    change (file? p.config value).map _ = ((file? p.config value).map _).map _
    cases file? p.config value <;> rfl
  | logConfig =>
    change (file? p.logConfig value).map _ = ((file? p.logConfig value).map _).map _
    cases file? p.logConfig value <;> rfl

theorem settle_blind : Blind settle := by
  intro b p
  rcases pending : p.pending with _ | ⟨s, _ | value⟩
  · simp [settle, setJson, pending, Except.map]
  · simp [settle, setJson, pending, Except.map]
  · have taken := take_blind s value b { p with pending := none }
    simpa [settle, setJson, pending] using taken

theorem position_blind (arg : String) : Blind (position · arg) := by
  refine settle_blind.bind fun b p => ?_
  cases path : p.path with
  | none => simp [setJson, path, Except.map]
  | some _ => simp [setJson, path, Except.map]

theorem other_blind (arg : String) : Blind (other · arg) := by
  intro b p
  rcases pending : p.pending with _ | ⟨s, _ | value⟩
  · simpa [other, setJson, pending] using position_blind arg b p
  · simp [other, setJson, pending, Except.map]
  · simpa [other, setJson, pending] using position_blind arg b p

theorem option?_eq_json_iff {name : String} :
    option? name = some (.switch .json) ↔ name = "json" := by
  unfold option?
  split <;> simp_all

theorem turnOn_strict_blind : Blind (turnOn · .strict) := by
  intro b p
  by_cases strict : p.strict
  · simp [turnOn, setJson, strict, Except.map]
  · simp [turnOn, setJson, strict, Except.map]

/-- A long option is rejected at once, or it settles the option before it. What it does then is
blind to JSON unless it is the switch. -/
theorem long_cases (body : String) :
    (∃ r, ∀ p, long p body = .error r) ∨
    ∃ after, (body ≠ "json" → Blind after) ∧ ∀ p, long p body = p.settle >>= after := by
  unfold long
  cases cut : Text.cut '=' body with
  | some parts =>
    obtain ⟨name, value⟩ := parts
    cases means : option? name with
    | none => exact .inl ⟨_, fun _ => by simp only [means]; rfl⟩
    | some meaning =>
      cases meaning with
      | setting s =>
        exact .inr ⟨_, fun _ => take_blind s value, fun _ => by simp only [means]⟩
      | switch _ | help | version => exact .inl ⟨_, fun _ => by simp only [means]; rfl⟩
  | none =>
    cases means : option? body with
    | none => exact .inl ⟨_, fun _ => by simp only [means]; rfl⟩
    | some meaning =>
      cases meaning with
      | setting s =>
        exact .inr ⟨fun p => .ok { p with pending := some (s, none) }, fun _ _ _ => rfl,
          fun _ => by simp only [means]⟩
      | switch s =>
        refine .inr ⟨(turnOn · s), fun other => ?_, fun _ => by simp only [means]⟩
        cases s with
        | json => exact absurd (option?_eq_json_iff.mp means) other
        | strict => exact turnOn_strict_blind
      | help | version =>
        exact .inr ⟨_, fun _ => .of_error _, fun _ => by simp only [means]; rfl⟩

/-- An argument is rejected at once, or it settles the option before it, or it can be the value of
that option. -/
theorem next_cases (arg : String) :
    (∃ r, ∀ p, next p arg = .error r) ∨
    (∃ after, (arg ≠ "--json" → Blind after) ∧ ∀ p, next p arg = p.settle >>= after) ∨
    ∀ p, next p arg = p.other arg := by
  unfold next
  split
  · rename_i body dashed
    have named : body = "json".toList → arg = "--json" := by
      rintro rfl
      exact String.toList_inj.mp dashed
    rcases long_cases (String.ofList body) with rejected | ⟨after, blind, settles⟩
    · exact .inl rejected
    · refine .inr (.inl ⟨after, fun other => blind fun same => other (named ?_), settles⟩)
      rw [← same, String.toList_ofList]
  · unfold short
    split
    · exact .inr (.inl ⟨_, fun _ => .of_error _, fun _ => rfl⟩)
    · exact .inr (.inl ⟨_, fun _ => .of_error _, fun _ => rfl⟩)
    · exact .inl ⟨_, fun _ => rfl⟩
  · exact .inr (.inr fun _ => rfl)

theorem next_blind {arg : String} (other : arg ≠ "--json") : Blind (next · arg) := by
  rcases next_cases arg with ⟨r, rejected⟩ | ⟨after, blind, settles⟩ | valued
  · simpa only [rejected] using Blind.of_error r
  · simpa only [settles] using settle_blind.bind (blind other)
  · simpa only [valued] using other_blind arg

theorem next_json (p : Progress) : p.next "--json" = p.settle >>= (turnOn · .json) := rfl

/-! ## Settled options -/

theorem pending_of_take {s : Setting} {value : String} (taken : p.take s value = .ok q) :
    q.pending = p.pending := by
  cases s with
  | action =>
    by_cases given : p.action.isSome
    · simp [take, given] at taken
    · obtain rfl := by simpa [take, given] using taken
      rfl
  | select =>
    obtain rfl := Except.ok.inj taken
    rfl
  | config =>
    cases found : file? p.config value with
    | error r => simp [take, found, Except.map] at taken
    | ok config =>
      obtain rfl := by simpa [take, found, Except.map] using taken
      rfl
  | logConfig =>
    cases found : file? p.logConfig value with
    | error r => simp [take, found, Except.map] at taken
    | ok logConfig =>
      obtain rfl := by simpa [take, found, Except.map] using taken
      rfl

theorem pending_of_settle (settles : p.settle = .ok q) : q.pending = none := by
  unfold settle at settles
  split at settles
  · cases settles
    assumption
  · cases settles
  · exact pending_of_take settles

theorem settle_of_settled (settles : p.settle = .ok q) : q.settle = .ok q := by
  simp [settle, pending_of_settle settles]

theorem position_settled (settles : p.settle = .ok q) (arg : String) :
    q.position arg = p.position arg := by
  simp only [position, settles, settle_of_settled settles]

theorem other_settled (settles : p.settle = .ok q) (arg : String) : q.other arg = p.other arg := by
  have later := position_settled settles arg
  rcases pending : p.pending with _ | ⟨s, _ | value⟩
  · simpa [other, pending, pending_of_settle settles] using later
  · simp [settle, pending] at settles
  · simpa [other, pending, pending_of_settle settles] using later

theorem next_settled (settles : p.settle = .ok q) (arg : String) : q.next arg = p.next arg := by
  rcases next_cases arg with ⟨r, rejected⟩ | ⟨after, -, settling⟩ | valued
  · rw [rejected, rejected]
  · rw [settling, settling, settles, settle_of_settled settles]
  · rw [valued, valued]
    exact other_settled settles arg

/-! ## Taking all arguments -/

theorem takeAll_dashes (p : Progress) (rest : List String) :
    p.takeAll ("--" :: rest) = rest.foldlM position p := rfl

theorem takeAll_cons {arg : String} (no_dashes : arg ≠ "--") (p : Progress) (rest : List String) :
    p.takeAll (arg :: rest) = p.next arg >>= (takeAll · rest) := by
  rw [takeAll]
  unfold next
  split
  case h_1 dashed => exact absurd (String.toList_inj.mp dashed) no_dashes
  case h_2 dashed =>
    rw [dashed]
    rfl
  case h_3 no_dash dashed =>
    rw [dashed]
    split
    · rename_i same
      exact absurd (List.cons.inj (List.cons.inj same).2).1 no_dash
    · rename_i same
      obtain ⟨rfl, -⟩ := List.cons.inj (List.cons.inj same).2
      rfl
    · rename_i neither
      exact absurd rfl (neither _ _)
  case h_4 no_long no_short =>
    split
    · rename_i dashed
      exact absurd dashed (no_long _)
    · rename_i dashed
      exact absurd dashed (no_short _ _)
    · rfl

/-- An option can be settled at once or be left to the arguments after it. -/
theorem takeAll_settled (settles : p.settle = .ok q) (args : List String) :
    q.takeAll args >>= finish = p.takeAll args >>= finish := by
  cases args with
  | nil =>
    change q.finish = p.finish
    simp only [finish, settles, settle_of_settled settles]
  | cons arg rest =>
    by_cases dashes : arg = "--"
    · subst dashes
      rw [takeAll_dashes, takeAll_dashes]
      cases rest with
      | nil => exact takeAll_settled settles []
      | cons first rest => rw [List.foldlM_cons, List.foldlM_cons, position_settled settles]
    · rw [takeAll_cons dashes, takeAll_cons dashes, next_settled settles]

/-- The switch is taken once only. -/
theorem turnOn_json_eq_ok_iff :
    p.turnOn .json = .ok q ↔ p.json = false ∧ q = p.setJson true := by
  cases json : p.json <;> simp [turnOn, setJson, json, eq_comm]

/-- Once JSON is asked for, nothing after it asks for JSON again, and all of it is understood
without JSON just as well. -/
theorem takeAll_without_json {args : List String} (asked : p.json = true)
    (taken : p.takeAll args = .ok q) :
    q.json = true ∧ (p.setJson false).takeAll args = .ok (q.setJson false) := by
  induction args generalizing p with
  | nil =>
    obtain rfl := Except.ok.inj taken
    exact ⟨asked, rfl⟩
  | cons arg rest ih =>
    by_cases dashes : arg = "--"
    · subst dashes
      rw [takeAll_dashes] at taken ⊢
      have blind := Blind.foldlM position_blind rest
      exact ⟨(blind.json_eq taken).trans asked, blind.apply_setJson taken false⟩
    · rw [takeAll_cons dashes, bind_eq_ok_iff] at taken
      obtain ⟨first, one, others⟩ := taken
      have other : arg ≠ "--json" := by
        rintro rfl
        rw [next_json, bind_eq_ok_iff] at one
        obtain ⟨settled, settles, turned⟩ := one
        have still := (settle_blind.json_eq settles).trans asked
        rw [(turnOn_json_eq_ok_iff.mp turned).1] at still
        cases still
      have blind := next_blind other
      obtain ⟨last, plain⟩ := ih ((blind.json_eq one).trans asked) others
      refine ⟨last, ?_⟩
      rw [takeAll_cons dashes, bind_eq_ok_iff]
      exact ⟨_, blind.apply_setJson one false, plain⟩

/-- Arguments that do not ask for JSON are understood as well where JSON is asked for before. -/
theorem takeAll_with_json {args : List String} (taken : p.takeAll args = .ok q)
    (plain : q.json = false) : (p.setJson true).takeAll args = .ok (q.setJson true) := by
  induction args generalizing p with
  | nil =>
    obtain rfl := Except.ok.inj taken
    rfl
  | cons arg rest ih =>
    by_cases dashes : arg = "--"
    · subst dashes
      rw [takeAll_dashes] at taken ⊢
      exact (Blind.foldlM position_blind rest).apply_setJson taken true
    · rw [takeAll_cons dashes, bind_eq_ok_iff] at taken ⊢
      obtain ⟨first, one, others⟩ := taken
      have other : arg ≠ "--json" := by
        rintro rfl
        rw [next_json, bind_eq_ok_iff] at one
        obtain ⟨settled, -, turned⟩ := one
        obtain ⟨-, rfl⟩ := turnOn_json_eq_ok_iff.mp turned
        -- what asks for JSON never ends up without it
        have asked := (takeAll_without_json rfl others).1
        rw [plain] at asked
        cases asked
      exact ⟨_, (next_blind other).apply_setJson one true, ih others⟩

theorem takeAll_append {before : List String} (no_dashes : "--" ∉ before) (p : Progress)
    (rest : List String) : p.takeAll (before ++ rest) = p.takeAll before >>= (takeAll · rest) := by
  induction before generalizing p with
  | nil => rfl
  | cons arg before ih =>
    have here : arg ≠ "--" := (List.ne_of_not_mem_cons no_dashes).symm
    rw [List.cons_append, takeAll_cons here, takeAll_cons here, bind_assoc]
    exact congrArg _ (funext (ih (List.not_mem_of_not_mem_cons no_dashes)))

theorem finish_setJson (b : Bool) (p : Progress) :
    (p.setJson b).finish = p.finish.map fun a => { a with json := b } := by
  unfold finish
  rw [settle_blind]
  cases p.settle with
  | error r => rfl
  | ok q =>
    rcases q with ⟨path, _⟩
    cases path <;> rfl

theorem json_of_finish {a : Arguments} (finished : p.finish = .ok a) : a.json = p.json := by
  have same := finish_setJson p.json p
  rw [setJson_eq_self rfl, finished] at same
  rw [Except.ok.inj same]

end Progress

open Progress

/-- Arguments that are understood with the switch are understood without it, and ask for the same
in the other format. -/
theorem parse_without_json {before after : List String} {a : Arguments}
    (no_dashes : "--" ∉ before)
    (parsed : Arguments.parse (before ++ "--json" :: after) = .ok a) :
    a.json = true ∧ Arguments.parse (before ++ after) = .ok { a with json := false } := by
  unfold Arguments.parse at parsed ⊢
  rw [takeAll_append no_dashes] at parsed ⊢
  obtain ⟨last, taken, finished⟩ := bind_eq_ok_iff.mp parsed
  obtain ⟨p, first, taken⟩ := bind_eq_ok_iff.mp taken
  rw [takeAll_cons (by decide)] at taken
  obtain ⟨q, switched, rest⟩ := bind_eq_ok_iff.mp taken
  rw [next_json] at switched
  obtain ⟨settled, settles, turned⟩ := bind_eq_ok_iff.mp switched
  obtain ⟨unasked, rfl⟩ := turnOn_json_eq_ok_iff.mp turned
  obtain ⟨asked, plain⟩ := takeAll_without_json rfl rest
  rw [setJson_setJson, setJson_eq_self unasked] at plain
  refine ⟨(json_of_finish finished).trans asked, ?_⟩
  -- without the switch the option before it is settled by what comes after
  rw [first]
  change p.takeAll after >>= finish = _
  rw [← takeAll_settled settles, plain]
  change (last.setJson false).finish = _
  rw [finish_setJson, finished]
  rfl

/-- Arguments without the switch can be given it in front. -/
theorem parse_with_json {args : List String} {a : Arguments}
    (parsed : Arguments.parse args = .ok a) (plain : a.json = false) :
    Arguments.parse ("--json" :: args) = .ok { a with json := true } := by
  unfold Arguments.parse at parsed ⊢
  obtain ⟨p, taken, finished⟩ := bind_eq_ok_iff.mp parsed
  have taken_json := takeAll_with_json taken ((json_of_finish finished).symm.trans plain)
  rw [takeAll_cons (by decide)]
  change (({} : Progress).setJson true).takeAll args >>= finish = _
  rw [taken_json]
  change (p.setJson true).finish = _
  rw [finish_setJson, finished]
  rfl

end DeviceQuery.CommandLine
