import DeviceQuery.CommandLine.Step
import Mathlib.Logic.ExistsUnique

/-!
# The grammar of steps

A step is written `[op:]name[=value]`. A colon and an equals sign may stand anywhere in a value or
in a raw word, so what counts is which of them comes first: every step reads in one way only
(`readsAs_iff`, `names_iff`), and that is how it is read (`step_read_by_grammar`).
-/

namespace DeviceQuery.CommandLine

/-- A step reads as the word of an operator and what stands after it. -/
inductive ReadsAs : String → String → String → Prop
  /-- The word stands before the first colon, and no equals sign stands in it. -/
  | marked {word body : String} (first : ':' ∉ word.toList) (unequal : '=' ∉ word.toList) :
      ReadsAs (word ++ ":" ++ body) word body
  /-- Without such a word all of the step is a condition. -/
  | unmarked {step : String}
      (wordless : ∀ word body, step = word ++ ":" ++ body → ':' ∉ word.toList →
        '=' ∈ word.toList) :
      ReadsAs step "where" step

/-- What stands after an operator names an attribute, and gives it a value or none. -/
inductive Names : String → String → String → Prop
  | valued {name value : String} (first : '=' ∉ name.toList) :
      Names (name ++ "=" ++ value) name value
  | bare {name : String} (unequal : '=' ∉ name.toList) : Names name name ""

/-- The words of the operators. -/
def stepWords : List String :=
  ["where", "and", "or", "not", "and-not", "or-not", "gt", "lt", "exists", "empty", "opt", "raw"]

/-- What a step is for each operator: the call, and the terms that the call adds. Three operators
take the name alone, and one takes what stands after it as it is. -/
def readings (name value body : String) : List (String × Call × List Term) :=
  let pair := Criteria.single name (.text value)
  let given := Term.condition ⟨.query, .equal, name, value⟩
  [("where", .given pair, [given]),
    ("and", .andGiven pair, [given, .operator .and]),
    ("or", .orGiven pair, [given, .operator .or]),
    ("not", .notGiven pair, [given, .operator .not]),
    ("and-not", .andNotGiven pair, [given, .operator .not, .operator .and]),
    ("or-not", .orNotGiven pair, [given, .operator .not, .operator .or]),
    ("gt", .above name (.text value), [.condition ⟨.query, .greater, name, value⟩]),
    ("lt", .below name (.text value), [.condition ⟨.query, .less, name, value⟩]),
    ("exists", .present name, [.condition ⟨.query, .greater, name, ""⟩]),
    ("empty", .missing name, [.condition ⟨.query, .absent, name, ""⟩]),
    ("opt", .option name, [.condition ⟨.plain, .equal, name, ""⟩]),
    ("raw", .raw [body], [.raw body])]

/-! ## Reading -/

theorem readsAs_iff {step word body : String} :
    ReadsAs step word body ↔ splitStep step = (word, body) := by
  constructor
  · intro reads
    unfold splitStep
    cases reads with
    | marked first unequal =>
      have found : Text.cut ':' (word ++ ":" ++ body) = some (word, body) :=
        Text.cut_eq_some_iff.mpr ⟨rfl, first⟩
      simp [found, unequal]
    | unmarked wordless =>
      cases found : Text.cut ':' step with
      | none => rfl
      | some parts =>
        obtain ⟨front, back⟩ := parts
        obtain ⟨whole, first⟩ := Text.cut_eq_some_iff.mp found
        simp [wordless front back whole first, StepOperator.word]
  · intro split
    unfold splitStep at split
    cases found : Text.cut ':' step with
    | none =>
      have colonless := Text.cut_eq_none_iff.mp found
      obtain ⟨rfl, rfl⟩ := Prod.mk.inj (by simpa [found, StepOperator.word] using split)
      refine .unmarked fun word body whole _ => absurd ?_ colonless
      simp [whole]
    | some parts =>
      obtain ⟨front, back⟩ := parts
      obtain ⟨whole, first⟩ := Text.cut_eq_some_iff.mp found
      by_cases unequal : '=' ∈ front.toList
      · obtain ⟨rfl, rfl⟩ := Prod.mk.inj (by simpa [found, unequal, StepOperator.word] using split)
        refine .unmarked fun word body whole' first' => ?_
        -- the first colon stands in one place only
        have same : Text.cut ':' step = some (word, body) :=
          Text.cut_eq_some_iff.mpr ⟨whole', first'⟩
        obtain ⟨rfl, rfl⟩ := Prod.mk.inj (Option.some.inj (found.symm.trans same))
        exact unequal
      · obtain ⟨rfl, rfl⟩ := Prod.mk.inj (by simpa [found, unequal] using split)
        rw [whole]
        exact .marked first unequal

/-- Of two separators the one that comes first stands in what is before the other one. -/
theorem mem_of_append_eq {first second : Char} (ne : first ≠ second)
    {front back before after : List Char} (free : second ∉ front)
    (same : front ++ first :: back = before ++ second :: after) : first ∈ before := by
  induction front generalizing before with
  | nil =>
    cases before with
    | nil => exact absurd (List.cons.inj same).1 ne
    | cons c rest => exact (List.cons.inj same).1 ▸ List.mem_cons_self
  | cons c front ih =>
    cases before with
    | nil => exact absurd (List.cons.inj same).1.symm (List.ne_of_not_mem_cons free)
    | cons d rest =>
      have later := ih (List.not_mem_of_not_mem_cons free) (List.cons.inj same).2
      exact List.mem_cons_of_mem d later

/-- A colon after the equals sign belongs to the value. -/
theorem readsAs_pair {name : String} (value : String) (colonless : ':' ∉ name.toList) :
    ReadsAs (name ++ "=" ++ value) "where" (name ++ "=" ++ value) := by
  refine .unmarked fun word body whole _ => ?_
  have same : name.toList ++ '=' :: value.toList = word.toList ++ ':' :: body.toList := by
    simpa using congrArg String.toList whole
  exact mem_of_append_eq (by decide) colonless same

theorem names_iff {body name value : String} :
    Names body name value ↔ (Text.cut '=' body).getD (body, "") = (name, value) := by
  constructor
  · intro names
    cases names with
    | valued first =>
      have found : Text.cut '=' (name ++ "=" ++ value) = some (name, value) :=
        Text.cut_eq_some_iff.mpr ⟨rfl, first⟩
      rw [found, Option.getD_some]
    | bare unequal => rw [Text.cut_eq_none_iff.mpr unequal, Option.getD_none]
  · intro cut
    cases found : Text.cut '=' body with
    | none =>
      rw [found, Option.getD_none] at cut
      obtain ⟨rfl, rfl⟩ := Prod.mk.inj cut
      exact .bare (Text.cut_eq_none_iff.mp found)
    | some parts =>
      rw [found, Option.getD_some] at cut
      subst cut
      obtain ⟨whole, first⟩ := Text.cut_eq_some_iff.mp found
      rw [whole]
      exact .valued first

/-! ## Operators -/

namespace StepOperator

theorem words_all : all.map word = stepWords := rfl

theorem ofWord?_word (op : StepOperator) : ofWord? op.word = some op := by
  cases op <;> decide

theorem ofWord?_eq_none_iff {w : String} : ofWord? w = none ↔ w ∉ stepWords := by
  rw [← words_all, ofWord?, List.find?_eq_none]
  simp

/-- The readings of what stands after an operator are the calls of all operators on it. -/
theorem readings_eq {body name value : String} (names : Names body name value) :
    readings name value body =
      all.map fun op => (op.word, op.call body, (op.call body).terms) := by
  simp only [all, call, names_iff.mp names, List.map_cons, List.map_nil]
  rfl

end StepOperator

/-- No step sets a projection. -/
theorem projection_call (op : StepOperator) (body : String) : (op.call body).projection = none := by
  cases op <;> rfl

theorem readStep_of_reading {step word body name value : String} {call : Call} {terms : List Term}
    (reads : ReadsAs step word body) (names : Names body name value)
    (reading : (word, call, terms) ∈ readings name value body) :
    readStep step = .ok call ∧
      ∀ q : Chain, q.apply call = { q with filter := q.filter ++ terms } := by
  rw [StepOperator.readings_eq names] at reading
  obtain ⟨op, -, parts⟩ := List.mem_map.mp reading
  obtain ⟨rfl, rfl, rfl⟩ := by simpa using parts
  constructor
  · simp [readStep, readsAs_iff.mp reads, StepOperator.ofWord?_word]
  · intro q
    simp [Chain.apply, projection_call, Call.addTo_eq]

theorem exists_reading {word : String} (known : word ∈ stepWords) (name value body : String) :
    ∃ call terms, (word, call, terms) ∈ readings name value body := by
  have words : (readings name value body).map Prod.fst = stepWords := rfl
  rw [← words] at known
  obtain ⟨⟨_, call, terms⟩, reading, rfl⟩ := List.mem_map.mp known
  exact ⟨call, terms, reading⟩

theorem readStep_of_unknown {step word body : String} (reads : ReadsAs step word body)
    (unknown : word ∉ stepWords) :
    readStep step = .error (.settings ("unknown step operator: " ++ word)) := by
  simp [readStep, readsAs_iff.mp reads, StepOperator.ofWord?_eq_none_iff.mpr unknown]

/-- A step stands for a call exactly where its word is that of an operator. -/
theorem exists_call_iff {step : String} :
    (∃ call, readStep step = .ok call) ↔ (splitStep step).1 ∈ stepWords := by
  rcases split : splitStep step with ⟨word, body⟩
  have reads := readsAs_iff.mpr split
  constructor
  · rintro ⟨call, called⟩
    by_cases known : word ∈ stepWords
    · exact known
    · rw [readStep_of_unknown reads known] at called
      cases called
  · intro known
    rcases cut : (Text.cut '=' body).getD (body, "") with ⟨name, value⟩
    obtain ⟨call, terms, reading⟩ := exists_reading known name value body
    exact ⟨call, (readStep_of_reading reads (names_iff.mpr cut) reading).1⟩

/-- Every step reads as one operator's word and one text after it, and every such text as one name
and one value. The step is the call of that operator on them, which adds its terms to the filter and
changes nothing else, or else it fails, exactly where the word is none of an operator. A value may
hold colons and equals signs, and so may all that stands after an operator. -/
theorem step_read_by_grammar :
    (∀ step, ∃! parts : String × String, ReadsAs step parts.1 parts.2) ∧
    (∀ body, ∃! pair : String × String, Names body pair.1 pair.2) ∧
    (∀ step word body name value, ReadsAs step word body → Names body name value →
      ((∃ f, readStep step = .error f) ↔ word ∉ stepWords) ∧
      (word ∉ stepWords →
        readStep step = .error (.settings ("unknown step operator: " ++ word))) ∧
      ∀ call terms, (word, call, terms) ∈ readings name value body →
        readStep step = .ok call ∧
          ∀ q : Chain, q.apply call = { q with filter := q.filter ++ terms }) ∧
    (∀ name value : String, ':' ∉ name.toList → '=' ∉ name.toList →
      let call := Call.given (.single name (.text value))
      let t := Term.condition ⟨.query, .equal, name, value⟩
      readStep (name ++ "=" ++ value) = .ok call ∧
      (∀ q : Chain, q.apply call = { q with filter := q.filter ++ [t] }) ∧
      t.word = if value = "" then "?" ++ name else "?" ++ name ++ "=" ++ value) ∧
    ∀ word ∈ stepWords, ∀ body, ReadsAs (word ++ ":" ++ body) word body := by
  refine ⟨?_, ?_, ?_, ?_, ?_⟩
  · intro step
    rcases split : splitStep step with ⟨word, body⟩
    refine ⟨(word, body), readsAs_iff.mpr split, ?_⟩
    rintro ⟨word', body'⟩ reads
    exact (readsAs_iff.mp reads).symm.trans split
  · intro body
    rcases cut : (Text.cut '=' body).getD (body, "") with ⟨name, value⟩
    refine ⟨(name, value), names_iff.mpr cut, ?_⟩
    rintro ⟨name', value'⟩ names
    exact (names_iff.mp names).symm.trans cut
  · intro step word body name value reads names
    refine ⟨⟨?_, ?_⟩, readStep_of_unknown reads, fun call terms reading =>
      readStep_of_reading reads names reading⟩
    · rintro ⟨f, failed⟩ known
      have known' : (splitStep step).1 ∈ stepWords := by
        rw [readsAs_iff.mp reads]
        exact known
      obtain ⟨call, called⟩ := exists_call_iff.mpr known'
      rw [called] at failed
      cases failed
    · intro unknown
      exact ⟨_, readStep_of_unknown reads unknown⟩
  · intro name value colonless unequal call t
    have reading : ("where", call, [t]) ∈ readings name value (name ++ "=" ++ value) := by
      simp [readings, call, t]
    obtain ⟨read, added⟩ :=
      readStep_of_reading (readsAs_pair value colonless) (.valued unequal) reading
    refine ⟨read, added, ?_⟩
    by_cases empty : value = ""
    · simp [t, Term.word, Condition.word, Marker.sign, Comparison.sign, empty]
    · simp [t, Term.word, Condition.word, Marker.sign, Comparison.sign, empty, String.append_assoc]
  · intro word known body
    have unseparated : ∀ word ∈ stepWords, ':' ∉ word.toList ∧ '=' ∉ word.toList := by decide
    obtain ⟨colonless, unequal⟩ := unseparated word known
    exact .marked colonless unequal

/-- An address with colons is the value of a condition, also after an operator. A raw word keeps
its separators, and before a colon nothing but an operator's word is understood. -/
theorem step_read_by_grammar_address :
    let given := Term.condition ⟨.query, .equal, "address", "fe80::1=1"⟩
    readStep "address=fe80::1=1" = .ok (.given (.single "address" (.text "fe80::1=1"))) ∧
      given.word = "?address=fe80::1=1" ∧
      readStep "or-not:address=fe80::1=1" =
        .ok (.orNotGiven (.single "address" (.text "fe80::1=1"))) ∧
      readStep "raw:?mac=00:1f" = .ok (.raw ["?mac=00:1f"]) ∧
      readStep "mac:00" = .error (.settings "unknown step operator: mac") := by
  intro given
  obtain ⟨-, -, read, pairs, -⟩ := step_read_by_grammar
  obtain ⟨single, -, spelled⟩ := pairs "address" "fe80::1=1" (by decide) (by decide)
  have marked := read "or-not:address=fe80::1=1" "or-not" "address=fe80::1=1" "address" "fe80::1=1"
    (readsAs_iff.mpr (by decide +kernel)) (names_iff.mpr (by decide +kernel))
  have raw := read "raw:?mac=00:1f" "raw" "?mac=00:1f" "?mac" "00:1f"
    (readsAs_iff.mpr (by decide +kernel)) (names_iff.mpr (by decide +kernel))
  have unknown := read "mac:00" "mac" "00" "00" ""
    (readsAs_iff.mpr (by decide +kernel)) (names_iff.mpr (by decide +kernel))
  refine ⟨single, spelled.trans (by decide), ?_, ?_, ?_⟩
  · exact (marked.2.2 _ [given, .operator .not, .operator .or] (by simp [readings, given])).1
  · exact (raw.2.2 _ [.raw "?mac=00:1f"] (by simp [readings])).1
  · simpa using unknown.2.1 (by decide)

end DeviceQuery.CommandLine
