import DeviceQuery.Proofs.CommandLine.Run
import DeviceQuery.Proofs.CommandLine.Switches
import DeviceQuery.Proofs.Json.Arrays

/-!
# The two formats of a run

A run does the same in both formats up to what it prints. As JSON the words of the sentence are one
line, which is read back whatever characters the words hold; as plain text each word is ended by a
line feed, so the lines are the words where no word holds a line feed of its own
(`formats_carry_sentence`).
-/

namespace DeviceQuery.CommandLine

variable {reason : String → String} {a : Arguments} {files : FileSystem} {vars : Variables}
  {q : Chain}

/-- These arguments in one of the two formats. -/
def Arguments.inFormat (a : Arguments) (json : Bool) : Arguments := { a with json }

theorem Based.inFormat {base : Settings} (based : Based reason a files base) (json : Bool) :
    Based reason (a.inFormat json) files base := by
  cases based with
  | file named read => exact .file named read
  | unnamed unnamed => exact .unnamed unnamed

/-- The chain of a run has nothing to do with the format. -/
theorem Describes.inFormat (describes : Describes reason a files vars q) (json : Bool) :
    Describes reason (a.inFormat json) files vars q := by
  obtain ⟨based, read⟩ := describes
  exact .intro (a := a.inFormat json) (based.inFormat json) read

/-- The chain of a run that prints passes its check, if it is checked. -/
theorem checked_of_output {text : String} (describes : Describes reason a files vars q)
    (succeeds : (run reason a files vars).output = .ok text) (strict : q.settings.strict = true) :
    q.check = .ok () := by
  cases check : q.check with
  | ok _ => rfl
  | error s =>
    rw [output_of_fails (.check describes strict check)] at succeeds
    cases succeeds

/-- Where a run prints in one format it ends well in both. -/
theorem ending_inFormat {text : String} (describes : Describes reason a files vars q)
    (succeeds : (run reason a files vars).output = .ok text) (json : Bool) :
    (run reason (a.inFormat json) files vars).ending =
      { stdout := printed json (q.sentence a.action).words } := by
  have output := output_of_checked (describes.inFormat json) (checked_of_output describes succeeds)
  rw [Report.ending, output]
  rfl

/-- Where a run succeeds in one format it ends well in both, and prints the sentence of its chain.
As JSON this is one line; the line is read as the array of the words, with its line feed and
without. As plain text it is the words, each with a line feed behind it. Its lines are the decoded
array where no word holds a line feed, and only there.

Arguments can be given the switch for JSON in front, and wherever they have it they can be given
without: they ask for the same in the other format. -/
theorem formats_carry_sentence (reason : String → String) (a : Arguments) (files : FileSystem)
    (vars : Variables) {text : String} (succeeds : (run reason a files vars).output = .ok text) :
    (∃ q, Describes reason a files vars q) ∧
    (∀ q, Describes reason a files vars q →
      let words := (q.sentence a.action).words
      let json := (run reason (a.inFormat true) files vars).ending
      let plain := (run reason (a.inFormat false) files vars).ending
      (∃ line, json = { stdout := line ++ "\n" } ∧ Text.Unbroken line.toList ∧
        ∀ behind ∈ ["", "\n"],
          Json.parse? (line ++ behind) = some (.array (words.map fun w => .string (some w)))) ∧
      plain = { stdout := String.join (words.map (· ++ "\n")) } ∧
      (Json.parse? json.stdout).bind Json.strings? = some words ∧
      (Text.lines plain.stdout = words ↔ ∀ w ∈ words, '\n' ∉ w.toList)) ∧
    (∀ args, Arguments.parse args = .ok a → a.json = false →
      Arguments.parse ("--json" :: args) = .ok (a.inFormat true)) ∧
    ∀ before after, "--" ∉ before → Arguments.parse (before ++ "--json" :: after) = .ok a →
      a.json = true ∧ Arguments.parse (before ++ after) = .ok (a.inFormat false) := by
  refine ⟨?_, ?_, fun args => parse_with_json, fun before after => parse_without_json⟩
  · obtain ⟨q, describes, -⟩ := output_eq_ok_iff.mp succeeds
    exact ⟨q, describes⟩
  · intro q describes words json plain
    have as_json : json = { stdout := Json.writtenArray words ++ "\n" } :=
      ending_inFormat describes succeeds true
    have as_plain : plain = { stdout := Text.ended words } :=
      ending_inFormat describes succeeds false
    refine ⟨⟨_, as_json, Json.unbroken_writtenArray words, ?_⟩, as_plain, ?_, ?_⟩
    · intro behind listed
      have blank : Json.skipBlanks behind.toList = [] := by
        rcases List.mem_pair.mp listed with rfl | rfl <;> rfl
      exact Json.parse?_writtenArray words blank
    · rw [as_json]
      change (Json.parse? (Json.writtenArray words ++ "\n")).bind _ = _
      rw [Json.parse?_writtenArray words rfl]
      exact Json.strings?_ofTexts words
    · rw [as_plain]
      exact Text.lines_ended_iff

/-- A comment of two lines with a quote in it: the JSON is one line and read back, but the plain
text has a line more than the sentence has words. -/
theorem formats_carry_sentence_comment :
    let a : Arguments := { path := "interface", steps := ["comment=a\nb\"c"], json := true }
    let reason : String → String := fun text => "no settings: " ++ text
    let files : FileSystem := fun _ => .error .missing
    let vars : Variables := fun _ => none
    let words := ["/interface/print", "?comment=a\nb\"c"]
    Arguments.parse ["interface", "--json", "comment=a\nb\"c"] = .ok a ∧
      (run reason a files vars).output = .ok "[\"/interface/print\",\"?comment=a\\nb\\\"c\"]\n" ∧
      (Json.parse? (run reason a files vars).ending.stdout).bind Json.strings? = some words ∧
      (run reason (a.inFormat false) files vars).ending.stdout =
        "/interface/print\n?comment=a\nb\"c\n" ∧
      Text.lines (run reason (a.inFormat false) files vars).ending.stdout ≠ words ∧
      Arguments.parse ["interface", "comment=a\nb\"c"] = .ok (a.inFormat false) := by
  intro a reason files vars words
  have given : readStep "comment=a\nb\"c" = .ok (.given (.single "comment" (.text "a\nb\"c"))) := by
    rfl
  let q := (Chain.on "interface" {}).applyAll [.given (.single "comment" (.text "a\nb\"c"))]
  have describes : Describes reason a files vars q :=
    @Describes.intro reason a files vars {} _ (.unnamed rfl) (.cons given .nil)
  have spelled : (q.sentence a.action).words = words := by decide
  have succeeds := output_of_checked describes (by decide)
  have parsed : Arguments.parse ["interface", "--json", "comment=a\nb\"c"] = .ok a := by
    decide +kernel
  obtain ⟨-, formats, -, without⟩ := formats_carry_sentence reason a files vars succeeds
  obtain ⟨-, plain, decoded, lines⟩ := formats q describes
  rw [spelled] at plain decoded lines
  refine ⟨parsed, succeeds.trans ?_, decoded, ?_, ?_, ?_⟩
  · rw [spelled]
    decide +kernel
  · rw [plain]
    decide +kernel
  · exact fun same => absurd (lines.mp same) (by decide +kernel)
  · exact (without ["interface"] _ (by decide) parsed).2

end DeviceQuery.CommandLine
