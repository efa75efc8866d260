import DeviceQuery.CommandLine.Run
import DeviceQuery.Proofs.CommandLine.Grammar
import DeviceQuery.Proofs.Request.Reading
import Mathlib.Data.List.Forall2

/-!
# What a run of the command line prints

A run puts a chain together from a file of settings, the variables and the arguments (`Describes`).
It can fail at the file, at a step and at the check of the chain, and of these the first one counts
(`Fails`). A run that does not fail prints the sentence that its chain would send over a link, and a
run that fails prints nothing (`run_prints_sentence`).
-/

namespace DeviceQuery.CommandLine

variable (reason : String → String) (a : Arguments) (files : FileSystem) (vars : Variables)

/-- The settings that the others are laid over. -/
inductive Based : Settings → Prop
  | file {path : String} {s : Settings} (named : a.config = some path)
      (read : Settings.ofFile reason path (files path) = .ok s) : Based s
  | unnamed (unnamed : a.config = none) : Based {}

/-- Whether a run checks its chain: the argument counts before the variable, and the variable before
the file. -/
def strictness (base : Settings) : Bool :=
  if a.strict then true
  else
    match vars Settings.strictVariable with
    | some text => Settings.isYes text
    | none => base.strict

/-- The chain of a run: the fields to select are its first call, and each step is one more. -/
inductive Describes : Chain → Prop
  | intro {base : Settings} {calls : List Call} (based : Based reason a files base)
      (read : List.Forall₂ (fun step call => readStep step = .ok call) a.steps calls) :
      Describes
        ((Chain.on a.path { (base.overlay vars).1 with strict := strictness a vars base }).applyAll
          ((a.select.map Call.select).toList ++ calls))

/-- Why a run fails. -/
inductive Fails : Failure → Prop
  /-- The file of settings cannot be read, or not be understood. -/
  | file {path : String} {f : Failure} (named : a.config = some path)
      (unread : Settings.ofFile reason path (files path) = .error f) : Fails f
  /-- A step has an unknown operator, and no step before it has one. -/
  | step {base : Settings} {before after : List String} {step word body : String}
      (based : Based reason a files base) (parts : a.steps = before ++ step :: after)
      (known : ∀ earlier ∈ before, (splitStep earlier).1 ∈ stepWords)
      (reads : ReadsAs step word body) (unknown : word ∉ stepWords) :
      Fails (.settings ("unknown step operator: " ++ word))
  /-- The chain is checked, and an operator of its filter lacks operands. -/
  | check {q : Chain} {s : Shortfall} (describes : Describes reason a files vars q)
      (strict : q.settings.strict = true) (unbalanced : q.check = .error s) :
      Fails (.malformed s.message)

/-- An exchange over a fresh link goes as the run does. Where the run prints some words, these words
have gone over the link, and where the run fails the exchange fails in the same way, and nothing
has. -/
structure GoesAs {α : Type} (e : Exchange α) (output : Except Failure String) (json : Bool)
    (words : List String) (left : Link) : Prop where
  sent : ∀ text, output = .ok text →
    text = printed json words ∧ e.link = left ∧ ∃ result, e.result = .ok result
  refused : ∀ f, output = .error f →
    (∃ message, f = .malformed message) ∧ e.result = .error f ∧ e.link = {}

variable {reason a files vars}

/-! ## Steps -/

theorem stepCalls_eq_ok_iff {steps : List String} {calls : List Call} :
    stepCalls steps = .ok calls ↔
      List.Forall₂ (fun step call => readStep step = .ok call) steps calls := by
  induction steps generalizing calls with
  | nil => cases calls <;> simp [stepCalls]
  | cons step rest ih =>
    rw [List.forall₂_cons_left_iff]
    simp only [← ih, stepCalls]
    cases readStep step with
    | error f => simp [bind, Except.bind]
    | ok call =>
      cases stepCalls rest with
      | error f => simp [bind, Except.bind]
      | ok others => simp [bind, Except.bind, eq_comm]

/-- The failure is that of the first step that stands for no call. -/
theorem stepCalls_of_unread {before : List String} {step : String} {f : Failure}
    (read : ∀ earlier ∈ before, ∃ call, readStep earlier = .ok call)
    (unread : readStep step = .error f) (after : List String) :
    stepCalls (before ++ step :: after) = .error f := by
  induction before with
  | nil => simp [stepCalls, unread, bind, Except.bind]
  | cons first before ih =>
    obtain ⟨⟨call, called⟩, later⟩ := List.forall_mem_cons.mp read
    simp [stepCalls, called, ih later, bind, Except.bind]

/-- Either all steps stand for calls, or there is a first one that does not. -/
theorem calls_or_first_unknown (steps : List String) :
    (∃ calls, List.Forall₂ (fun step call => readStep step = .ok call) steps calls) ∨
    ∃ before step after, steps = before ++ step :: after ∧
      (∀ earlier ∈ before, (splitStep earlier).1 ∈ stepWords) ∧
      (splitStep step).1 ∉ stepWords := by
  induction steps with
  | nil => exact .inl ⟨[], .nil⟩
  | cons step rest ih =>
    by_cases known : (splitStep step).1 ∈ stepWords
    · obtain ⟨call, read⟩ := exists_call_iff.mpr known
      rcases ih with ⟨calls, all⟩ | ⟨before, other, after, rfl, earlier, unknown⟩
      · exact .inl ⟨call :: calls, .cons read all⟩
      · refine .inr ⟨step :: before, other, after, rfl, ?_, unknown⟩
        exact List.forall_mem_cons.mpr ⟨known, earlier⟩
    · exact .inr ⟨[], step, rest, rfl, by simp, known⟩

/-! ## Settings -/

theorem settings_of_unread {path : String} {f : Failure} (named : a.config = some path)
    (unread : Settings.ofFile reason path (files path) = .error f) :
    (settings reason a files vars).1 = .error f := by
  simp [settings, named, unread]

theorem settings_of_based {base : Settings} (based : Based reason a files base) :
    (settings reason a files vars).1 =
      .ok { (base.overlay vars).1 with strict := strictness a vars base } := by
  have strict : (a.strict || (base.overlay vars).1.strict) = strictness a vars base := by
    unfold strictness
    cases a.strict with
    | true => rfl
    | false => cases found : vars Settings.strictVariable <;>
        simp [Settings.overlay, Settings.overlayStrict, found]
  rw [← strict]
  cases based with
  | file named read => simp [settings, named, read]
  | unnamed unnamed => simp [settings, unnamed]

theorem based_or_unread (reason : String → String) (a : Arguments) (files : FileSystem) :
    (∃ base, Based reason a files base) ∨
    ∃ path f, a.config = some path ∧ Settings.ofFile reason path (files path) = .error f := by
  cases named : a.config with
  | none => exact .inl ⟨{}, .unnamed named⟩
  | some path =>
    cases read : Settings.ofFile reason path (files path) with
    | error f => exact .inr ⟨path, f, rfl, read⟩
    | ok base => exact .inl ⟨base, .file named read⟩

/-- A file that gives no settings cannot be read, or there is a reason not to take its text. -/
theorem failure_of_ofFile {path : String} {found : Files.Found} {f : Failure}
    (unread : Settings.ofFile reason path found = .error f) :
    (∃ text, found.read path = .ok text ∧ f = .toml (reason text)) ∨
      ∃ fault, found.read path = .error fault ∧ f = .io (path ++ ": " ++ fault.text) := by
  unfold Settings.ofFile at unread
  split at unread
  · next text read =>
    unfold Settings.ofToml at unread
    split at unread
    · cases unread
    · cases unread
      exact .inl ⟨text, read, rfl⟩
  · next fault missed =>
    cases unread
    exact .inr ⟨fault, missed, rfl⟩

/-! ## Runs -/

theorem output_eq (reason : String → String) (a : Arguments) (files : FileSystem)
    (vars : Variables) :
    (run reason a files vars).output = (settings reason a files vars).1.bind (output a) := by
  unfold run
  rcases settings reason a files vars with ⟨result, records⟩
  cases result <;> rfl

theorem output_of_describes {q : Chain} (describes : Describes reason a files vars q) :
    (run reason a files vars).output =
      (if q.settings.strict then q.validate else .ok ()).map fun _ =>
        printed a.json (q.sentence a.action).words := by
  obtain ⟨based, read⟩ := describes
  rw [output_eq, settings_of_based based, Chain.applyAll_settings]
  change output a _ = _
  rw [output, chain, stepCalls_eq_ok_iff.mpr read]
  rfl

theorem output_of_checked {q : Chain} (describes : Describes reason a files vars q)
    (checked : q.settings.strict = true → q.check = .ok ()) :
    (run reason a files vars).output = .ok (printed a.json (q.sentence a.action).words) := by
  rw [output_of_describes describes]
  cases strict : q.settings.strict with
  | false => rfl
  | true =>
    rw [if_pos rfl, Chain.validate_of_ok (checked strict)]
    rfl

theorem output_of_fails {f : Failure} (fails : Fails reason a files vars f) :
    (run reason a files vars).output = .error f := by
  cases fails with
  | file named unread =>
    rw [output_eq, settings_of_unread named unread]
    rfl
  | @step base before after step word body based parts known reads unknown =>
    have earlier : ∀ earlier ∈ before, ∃ call, readStep earlier = .ok call :=
      fun earlier member => exists_call_iff.mpr (known earlier member)
    have calls := stepCalls_of_unread earlier (readStep_of_unknown reads unknown) after
    rw [output_eq, settings_of_based based]
    change output a _ = _
    rw [output, chain, parts, calls]
    rfl
  | check describes strict unbalanced =>
    rw [output_of_describes describes, if_pos strict, Chain.validate_of_error unbalanced]
    rfl

/-- Every run has a reason to fail, or a chain that is not checked or passes its check. -/
theorem fails_or_describes (reason : String → String) (a : Arguments) (files : FileSystem)
    (vars : Variables) :
    (∃ f, Fails reason a files vars f) ∨
    ∃ q, Describes reason a files vars q ∧ (q.settings.strict = true → q.check = .ok ()) := by
  rcases based_or_unread reason a files with ⟨base, based⟩ | ⟨path, f, named, unread⟩
  · rcases calls_or_first_unknown a.steps with
      ⟨calls, read⟩ | ⟨before, step, after, parts, known, unknown⟩
    · have describes : Describes reason a files vars _ := .intro based read
      generalize (Chain.on a.path _).applyAll _ = q at describes
      cases check : q.check with
      | ok _ => exact .inr ⟨q, describes, fun _ => check⟩
      | error s =>
        cases strict : q.settings.strict with
        | true => exact .inl ⟨_, .check describes strict check⟩
        | false => exact .inr ⟨q, describes, by simp [strict]⟩
    · exact .inl ⟨_, .step based parts known (readsAs_iff.mpr rfl) unknown⟩
  · exact .inl ⟨f, .file named unread⟩

theorem output_eq_error_iff {f : Failure} :
    (run reason a files vars).output = .error f ↔ Fails reason a files vars f := by
  constructor
  · intro failed
    rcases fails_or_describes reason a files vars with ⟨g, fails⟩ | ⟨q, describes, checked⟩
    · rw [output_of_fails fails] at failed
      cases failed
      exact fails
    · rw [output_of_checked describes checked] at failed
      cases failed
  · exact output_of_fails

theorem output_eq_ok_iff {text : String} :
    (run reason a files vars).output = .ok text ↔
      ∃ q, Describes reason a files vars q ∧ (q.settings.strict = true → q.check = .ok ()) ∧
        text = printed a.json (q.sentence a.action).words := by
  constructor
  · intro printed
    rcases fails_or_describes reason a files vars with ⟨g, fails⟩ | ⟨q, describes, checked⟩
    · rw [output_of_fails fails] at printed
      cases printed
    · rw [output_of_checked describes checked] at printed
      cases printed
      exact ⟨q, describes, checked, rfl⟩
  · rintro ⟨q, describes, checked, rfl⟩
    exact output_of_checked describes checked

/-! ## Over a link -/

/-- What a link is handed goes as the run does if it is refused where the check fails, and handed
the printed words otherwise. -/
theorem goesAs_of_describes {α : Type} {q : Chain} {e : Exchange α} {left : Link}
    (describes : Describes reason a files vars q)
    (sent : (q.settings.strict = true → q.check = .ok ()) →
      e.link = left ∧ ∃ result, e.result = .ok result)
    (refused : ∀ s, q.settings.strict = true → q.check = .error s →
      e.result = .error (.malformed s.message) ∧ e.link = {}) :
    GoesAs e (run reason a files vars).output a.json (q.sentence a.action).words left := by
  by_cases checked : q.settings.strict = true → q.check = .ok ()
  · have output := output_of_checked describes checked
    constructor
    · intro text printed
      rw [output] at printed
      exact ⟨(Except.ok.inj printed).symm, sent checked⟩
    · intro f failed
      rw [output] at failed
      cases failed
  · obtain ⟨strict, unchecked⟩ := Classical.not_imp.mp checked
    cases check : q.check with
    | ok _ => exact absurd check unchecked
    | error s =>
      have output := output_of_fails (.check describes strict check)
      constructor
      · intro text printed
        rw [output] at printed
        cases printed
      · intro f failed
        rw [output] at failed
        cases failed
        exact ⟨⟨_, rfl⟩, refused s strict check⟩

theorem stream_goesAs {q : Chain} (describes : Describes reason a files vars q)
    (withCallback : Bool) :
    let words := (q.sentence a.action).words
    GoesAs (q.stream a.action withCallback true {}) (run reason a files vars).output a.json words
      { streamed := [words] } := by
  refine goesAs_of_describes describes ?_ ?_
  · intro checked
    obtain ⟨opened, left⟩ := Chain.stream_of_checked checked a.action withCallback {}
    exact ⟨left, _, opened⟩
  · intro s strict unbalanced
    rw [Chain.stream_of_error strict unbalanced]
    exact ⟨rfl, rfl⟩

theorem get_goesAs {q : Chain} (describes : Describes reason a files vars q)
    (prints : a.action = Chain.printAction) :
    let words := (q.sentence a.action).words
    GoesAs (q.get {}) (run reason a files vars).output a.json words { written := [words] } := by
  refine goesAs_of_describes describes ?_ ?_
  · intro checked
    obtain ⟨replied, left⟩ := Chain.get_of_checked checked {}
    rw [prints]
    exact ⟨left, _, replied⟩
  · intro s strict unbalanced
    rw [Chain.get_of_error strict unbalanced]
    exact ⟨rfl, rfl⟩

/-- A run fails for the first reason that there is, or else prints the words of the sentence of its
chain. Nothing is printed by a run that fails. Over a fresh link a stream of the chain hands over
the words that are printed, and fails as the run does, and so does the request for its rows where
the action is the one of this request. -/
theorem run_prints_sentence (reason : String → String) (a : Arguments) (files : FileSystem)
    (vars : Variables) :
    let report := run reason a files vars
    (∀ f, report.output = .error f ↔ Fails reason a files vars f) ∧
    (∀ text, report.output = .ok text ↔
      ∃ q, Describes reason a files vars q ∧ (q.settings.strict = true → q.check = .ok ()) ∧
        text = printed a.json (q.sentence a.action).words) ∧
    (∀ path f, a.config = some path → Settings.ofFile reason path (files path) = .error f →
      (∃ text, (files path).read path = .ok text ∧ f = .toml (reason text)) ∨
        ∃ fault, (files path).read path = .error fault ∧ f = .io (path ++ ": " ++ fault.text)) ∧
    (∀ f, report.output = .error f → report.ending.stdout = "") ∧
    (∀ text, report.output = .ok text → report.ending.stdout = text) ∧
    ∀ q, Describes reason a files vars q →
      let words := (q.sentence a.action).words
      (∀ withCallback, GoesAs (q.stream a.action withCallback true {}) report.output a.json words
        { streamed := [words] }) ∧
      (a.action = "/print" →
        GoesAs (q.get {}) report.output a.json words { written := [words] }) := by
  intro report
  refine ⟨fun f => output_eq_error_iff, fun text => output_eq_ok_iff, ?_, ?_, ?_, ?_⟩
  · intro path f _ unread
    exact failure_of_ofFile unread
  · intro f failed
    rw [Report.ending, failed]
  · intro text printed
    rw [Report.ending, printed]
  · intro q describes words
    exact ⟨stream_goesAs describes, get_goesAs describes⟩

/-- A run is strict by its argument although a variable says otherwise: it prints what a stream
hands over, and where an operator lacks an operand it fails as the stream does. A missing file comes
before an unknown step. -/
theorem run_prints_sentence_strict :
    let reason : String → String := fun text => "no settings: " ++ text
    let vars : Variables := fun name => if name = "ROSQUERY_STRICT" then some "no" else none
    let files : FileSystem := fun _ => .error .missing
    let a : Arguments :=
      { path := "ip address", steps := ["interface=ether1", "or:disabled=yes"]
        action := "listen", select := some ["id", "address"], strict := true }
    let short := { a with steps := ["interface=ether1", "and-not:disabled=yes", "raw:?#|"] }
    let q := (Chain.on "ip address" { strict := true }).applyAll
      [.select ["id", "address"], .given (.single "interface" (.text "ether1")),
        .orGiven (.single "disabled" (.text "yes"))]
    let words := ["/ip/address/listen", "=.proplist=.id,address", "?interface=ether1",
      "?disabled=yes", "?#|"]
    ((run reason a files vars).output = .ok (String.join (words.map (· ++ "\n"))) ∧
      (q.stream "listen" false true {}).link.streamed = [words]) ∧
    (run reason short files vars).output = .error (.malformed (Shortfall.message ⟨.or, 4, 2, 1⟩)) ∧
    (run reason { short with steps := ["no:step"], config := some "rosq.toml" } files vars).output =
      .error (.io "rosq.toml: No such file or directory (os error 2)") := by
  intro reason vars files a short q words
  have given : readStep "interface=ether1" = .ok (.given (.single "interface" (.text "ether1"))) :=
    by rfl
  have or : readStep "or:disabled=yes" = .ok (.orGiven (.single "disabled" (.text "yes"))) := by rfl
  have andNot : readStep "and-not:disabled=yes" =
      .ok (.andNotGiven (.single "disabled" (.text "yes"))) := by rfl
  have raw : readStep "raw:?#|" = .ok (.raw ["?#|"]) := by rfl
  have describes : Describes reason a files vars q :=
    @Describes.intro reason a files vars {} _ (.unnamed rfl) (.cons given (.cons or .nil))
  have describesShort : Describes reason short files vars _ :=
    @Describes.intro reason short files vars {} _ (.unnamed rfl)
      (.cons given (.cons andNot (.cons raw .nil)))
  obtain ⟨-, prints, -, -, -, agrees⟩ := run_prints_sentence reason a files vars
  have printed := (prints _).mpr ⟨q, describes, fun _ => by rfl, rfl⟩
  have spelled : (q.sentence a.action).words = words := by decide
  rw [spelled] at printed
  obtain ⟨-, left, -⟩ := ((agrees q describes).1 false).sent _ printed
  refine ⟨⟨printed, by rw [left, spelled]⟩, ?_, ?_⟩
  · exact ((run_prints_sentence reason short files vars).1 _).mpr
      (.check describesShort rfl (by rfl))
  · exact ((run_prints_sentence reason _ files vars).1 _).mpr (.file rfl (by rfl))

end DeviceQuery.CommandLine
