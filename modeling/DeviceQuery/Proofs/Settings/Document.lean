import DeviceQuery.Settings.Text
import Mathlib.Data.List.Nodup

/-!
# The settings of a document

A document that gives each key a value on a line of its own is read line by line, whatever its keys
are (`lines?_document`), and has these entries, unless a key comes twice (`parse?_document`). So the
settings are the values of their two keys, the default for a key that is not there, and a failure
with the reason for the whole text where a value is none for its key (`ofToml_document`).
-/

namespace DeviceQuery.Toml

/-- A value on the line of its key: a text between double quotes, or a truth value. -/
inductive Value where
  | text (s : String)
  | flag (b : Bool)
deriving DecidableEq

namespace Value

/-- The value as it is read. -/
def node : Value → Node
  | text s => .string s
  | flag b => .bool b

/-- The value as it is written. -/
def written : Value → String
  | text s => "\"" ++ s ++ "\""
  | flag true => "true"
  | flag false => "false"

end Value

/-- A key and its value. -/
structure Assignment where
  key : String
  value : Value
deriving DecidableEq

namespace Assignment

/-- The line of a document that gives the key its value. -/
def line (a : Assignment) : String := a.key ++ " = " ++ a.value.written ++ "\n"

/-- What the line defines. -/
def definition (a : Assignment) : Definition := { path := [], key := a.key, node := a.value.node }

/-- The entry that the line makes. -/
def entry (a : Assignment) : String × Node := (a.key, a.value.node)

/-- The key needs no quotes, and a text stands for itself between its quotes. -/
structure Plain (a : Assignment) : Prop where
  named : a.key ≠ ""
  bare : ∀ c ∈ a.key.toList, isKeyChar c
  literal : ∀ s, a.value = .text s → ∀ c ∈ s.toList, isPlain c ∧ c ≠ '"' ∧ c ≠ '\\'

end Assignment

/-- The text of some lines. -/
def document (assignments : List Assignment) : String :=
  String.join (assignments.map Assignment.line)

/-! ## Reading a line -/

theorem ne_of_isKeyChar {c d : Char} (key : isKeyChar c) (other : isKeyChar d = false) : c ≠ d := by
  rintro rfl
  rw [key] at other
  cases other

theorem isBlank_of_isKeyChar {c : Char} (key : isKeyChar c) : isBlank c = false := by
  simp [isBlank, ne_of_isKeyChar key (by decide : isKeyChar ' ' = false),
    ne_of_isKeyChar key (by decide : isKeyChar '\t' = false)]

/-- There is nothing to skip before a key. -/
theorem skipTrivia_of_isKeyChar {c : Char} (key : isKeyChar c) (fuel : Nat) (rest : List Char) :
    skipTrivia fuel (c :: rest) = c :: rest := by
  cases fuel with
  | zero => rfl
  | succ fuel =>
    have comment := ne_of_isKeyChar key (by decide : isKeyChar '#' = false)
    have feed := ne_of_isKeyChar key (by decide : isKeyChar '\n' = false)
    have back := ne_of_isKeyChar key (by decide : isKeyChar '\r' = false)
    have here : skipComment (skipBlanks (c :: rest)) = c :: rest := by
      rw [skipBlanks, List.dropWhile_cons_of_neg (by simp [isBlank_of_isKeyChar key])]
      unfold skipComment
      split
      · next same => exact absurd (List.cons.inj same).1 comment
      · rfl
    unfold skipTrivia
    rw [here]
    split
    · next same => exact absurd (List.cons.inj same).1 feed
    · next same => exact absurd (List.cons.inj same).1 back
    · rfl

variable {key : List Char} (bare : ∀ c ∈ key, isKeyChar c) (named : key ≠ [])
include bare named

theorem key?_append (rest : List Char) :
    key? (key ++ ' ' :: rest) = some (String.ofList key, ' ' :: rest) := by
  obtain ⟨c, tail, rfl⟩ := List.exists_cons_of_ne_nil named
  have first := bare c List.mem_cons_self
  have double := ne_of_isKeyChar first (by decide : isKeyChar '"' = false)
  have single := ne_of_isKeyChar first (by decide : isKeyChar singleQuote = false)
  have taken : (c :: tail ++ ' ' :: rest).takeWhile isKeyChar = c :: tail := by
    rw [List.takeWhile_append_of_pos bare, List.takeWhile_cons_of_neg (by decide), List.append_nil]
  have left : (c :: tail ++ ' ' :: rest).dropWhile isKeyChar = ' ' :: rest := by
    rw [List.dropWhile_append_of_pos bare, List.dropWhile_cons_of_neg (by decide)]
  rw [List.cons_append] at taken left ⊢
  rw [key?, if_neg double, if_neg single, if_pos first, taken, left]

theorem path?_append (rest : List Char) :
    path? (key ++ ' ' :: '=' :: rest) = some ([String.ofList key], '=' :: rest) := by
  have parts (fuel : Nat) :
      parts? (fuel + 1) (key ++ ' ' :: '=' :: rest) = some ([String.ofList key], '=' :: rest) := by
    have here : skipBlanks (key ++ ' ' :: '=' :: rest) = key ++ ' ' :: '=' :: rest := by
      obtain ⟨c, tail, rfl⟩ := List.exists_cons_of_ne_nil named
      have first := isBlank_of_isKeyChar (bare c List.mem_cons_self)
      exact List.dropWhile_cons_of_neg (by simp [first])
    have gap : skipBlanks (' ' :: '=' :: rest) = '=' :: rest := rfl
    simp [parts?, here, key?_append bare named, gap]
  have size : (key ++ ' ' :: '=' :: rest).length = key.length + rest.length + 1 + 1 := by
    simp
    omega
  rw [path?, size, parts]
  rfl

omit bare named

/-- Characters that stand for themselves are read up to the closing quote. -/
theorem basic?_append {body : List Char} (literal : ∀ c ∈ body, isPlain c ∧ c ≠ '"' ∧ c ≠ '\\')
    (rest : List Char) : basic? (body ++ '"' :: rest) = some (body, rest) := by
  induction body with
  | nil => rfl
  | cons c body ih =>
    obtain ⟨⟨plain, quote, back⟩, others⟩ := List.forall_mem_cons.mp literal
    have reads : basic? (c :: (body ++ '"' :: rest)) =
        if c ≠ '\\' ∧ isPlain c then before c (basic? (body ++ '"' :: rest)) else none := by
      rw [basic?.eq_def]
      split <;> simp_all
    rw [List.cons_append, reads, if_pos ⟨back, plain⟩, ih others]
    rfl

/-- The end of the line parts a short text from one over several lines. -/
theorem string?_append {body : List Char} (literal : ∀ c ∈ body, isPlain c ∧ c ≠ '"' ∧ c ≠ '\\')
    (rest : List Char) :
    string? ('"' :: (body ++ '"' :: '\n' :: rest)) = some (body, '\n' :: rest) := by
  have read := basic?_append literal ('\n' :: rest)
  have double : '"' ≠ singleQuote := by decide
  cases body with
  | nil => rfl
  | cons c body =>
    have quote := (literal c List.mem_cons_self).2.1
    cases body with
    | nil => simpa [string?, quote, double] using read
    | cons d body => simpa [string?, quote, double] using read

theorem value?_written {v : Value}
    (literal : ∀ s, v = .text s → ∀ c ∈ s.toList, isPlain c ∧ c ≠ '"' ∧ c ≠ '\\')
    (fuel : Nat) (rest : List Char) :
    value? (fuel + 1) 0 (v.written.toList ++ '\n' :: rest) = some (v.node, '\n' :: rest) := by
  cases v with
  | text s =>
    have chars : (Value.text s).written.toList ++ '\n' :: rest =
        '"' :: (s.toList ++ '"' :: '\n' :: rest) := by simp [Value.written]
    rw [chars]
    simp [value?, string?_append (literal s rfl), Value.node]
  | flag b => cases b <;> rfl

theorem definition?_append {a : Assignment} (plain : a.Plain) (rest : List Char) :
    definition? (a.line.toList ++ rest) = some (a.definition, '\n' :: rest) := by
  have chars : a.line.toList ++ rest =
      a.key.toList ++ ' ' :: '=' :: ' ' :: (a.value.written.toList ++ '\n' :: rest) := by
    simp [Assignment.line]
  have gap : skipBlanks (' ' :: (a.value.written.toList ++ '\n' :: rest)) =
      a.value.written.toList ++ '\n' :: rest := by
    rcases a with ⟨_, s | _ | _⟩ <;> simp [skipBlanks, isBlank, Value.written]
  have named : a.key.toList ≠ [] := by simpa using plain.named
  rw [chars, definition?, path?_append plain.bare named]
  simp [gap, value?_written plain.literal, Definition.ofPath?, Assignment.definition]

/-- A line begins with its key. -/
theorem Assignment.Plain.exists_cons {a : Assignment} (plain : a.Plain) :
    ∃ c tail, a.line.toList = c :: tail ∧ isKeyChar c := by
  have named : a.key.toList ≠ [] := by simpa using plain.named
  obtain ⟨c, tail, key⟩ := List.exists_cons_of_ne_nil named
  refine ⟨c, tail ++ (" = " ++ a.value.written ++ "\n").toList, ?_, ?_⟩
  · simp [Assignment.line, key]
  · exact plain.bare c (key ▸ List.mem_cons_self)

theorem line?_append {a : Assignment} (plain : a.Plain) (rest : List Char) :
    line? (a.line.toList ++ rest) = some (.definition a.definition, rest) := by
  have read := definition?_append plain rest
  have ended : endLine? ('\n' :: rest) = some rest := rfl
  obtain ⟨c, tail, chars, key⟩ := plain.exists_cons
  have bracket := ne_of_isKeyChar key (by decide : isKeyChar '[' = false)
  rw [chars, List.cons_append] at read ⊢
  simp [line?, bracket, read, ended]

/-! ## Reading a document -/

theorem lines?_document {assignments : List Assignment} (plain : ∀ a ∈ assignments, a.Plain)
    (fuel : Nat) :
    lines? (assignments.length + fuel + 1) (document assignments).toList =
      some (assignments.map fun a => .definition a.definition) := by
  induction assignments with
  | nil => rfl
  | cons a rest ih =>
    obtain ⟨first, others⟩ := List.forall_mem_cons.mp plain
    have read := line?_append first (document rest).toList
    have chars : (document (a :: rest)).toList = a.line.toList ++ (document rest).toList := by
      simp [document]
    have fuel' : (a :: rest).length + fuel = rest.length + fuel + 1 := by
      rw [List.length_cons]
      omega
    obtain ⟨c, tail, begins, key⟩ := first.exists_cons
    rw [begins, List.cons_append] at chars read
    rw [chars, fuel', lines?, skipTrivia_of_isKeyChar key]
    simp [read, ih others]

theorem sections_definitions (definitions : List Definition) :
    sections none (definitions.map .definition) = [⟨none, definitions⟩] := by
  induction definitions with
  | nil => rfl
  | cons d rest ih => simp [sections, ih]

namespace Entries

theorem get?_eq_none_iff {entries : Entries} {key : String} :
    entries.get? key = none ↔ key ∉ entries.map Prod.fst := by
  simp only [get?, Option.map_eq_none_iff, List.find?_eq_none, decide_eq_true_eq, List.mem_map,
    not_exists, not_and]

theorem put_of_not_mem {entries : Entries} {key : String} (new : key ∉ entries.map Prod.fst)
    (node : Node) : entries.put key node = entries ++ [(key, node)] := by
  induction entries with
  | nil => rfl
  | cons e rest ih =>
    rw [List.map_cons, List.mem_cons, not_or] at new
    rw [put, if_neg (Ne.symm new.1), ih new.2]
    rfl

end Entries

/-- A key that is there already is not defined again. -/
theorem define_nil (entries : Entries) (key : String) (node : Node) :
    define entries [] key node =
      if key ∈ entries.map Prod.fst then none else some (entries ++ [(key, node)]) := by
  have undotted : decide (Origin.header = .dotted) ≠ ([] : List String).isEmpty := by decide
  rw [define, changeAt, if_neg undotted]
  by_cases known : key ∈ entries.map Prod.fst
  · have found : (entries.get? key).isSome := by
      rw [Option.isSome_iff_ne_none, ne_eq, Entries.get?_eq_none_iff, not_not]
      exact known
    rw [if_pos found, if_pos known]
  · have absent := Entries.get?_eq_none_iff.mpr known
    simp [absent, known, Entries.put_of_not_mem]

theorem defineAll_assignments (entries : Entries) (once : (entries.map Prod.fst).Nodup)
    (assignments : List Assignment) :
    defineAll entries (assignments.map Assignment.definition) =
      if (entries.map Prod.fst ++ assignments.map Assignment.key).Nodup then
        some (entries ++ assignments.map Assignment.entry)
      else none := by
  induction assignments generalizing entries with
  | nil => simp [defineAll, once]
  | cons a rest ih =>
    have first : define entries a.definition.path a.definition.key a.definition.node =
        if a.key ∈ entries.map Prod.fst then none else some (entries ++ [a.entry]) :=
      define_nil entries a.key a.value.node
    rw [List.map_cons, defineAll, List.foldlM_cons, first]
    by_cases known : a.key ∈ entries.map Prod.fst
    · have twice : ¬(entries.map Prod.fst ++ (a :: rest).map Assignment.key).Nodup := by
        intro nodup
        exact (List.nodup_append.mp nodup).2.2 _ known _ List.mem_cons_self rfl
      rw [if_pos known, if_neg twice]
      rfl
    · have keys : (entries ++ [a.entry]).map Prod.fst ++ rest.map Assignment.key =
          entries.map Prod.fst ++ (a :: rest).map Assignment.key := by
        simp [Assignment.entry]
      have more : ((entries ++ [a.entry]).map Prod.fst).Nodup := by
        rw [List.map_append, List.map_singleton, ← List.concat_eq_append, List.nodup_concat]
        exact ⟨known, once⟩
      rw [if_neg known, Option.bind_eq_bind, Option.bind_some, ← defineAll, ih _ more, keys]
      simp

/-- Each line has characters. -/
theorem length_le_length_document {assignments : List Assignment}
    (plain : ∀ a ∈ assignments, a.Plain) :
    assignments.length ≤ (document assignments).toList.length := by
  induction assignments with
  | nil => exact Nat.zero_le _
  | cons a rest ih =>
    obtain ⟨first, others⟩ := List.forall_mem_cons.mp plain
    obtain ⟨c, tail, chars, -⟩ := first.exists_cons
    have shorter := ih others
    simp only [document, List.map_cons, String.join_cons, String.toList_append, List.length_append,
      List.length_cons, chars] at shorter ⊢
    omega

/-- The entries of a document are those of its lines, if no key comes twice. -/
theorem parse?_document {assignments : List Assignment} (plain : ∀ a ∈ assignments, a.Plain) :
    parse? (document assignments) =
      if (assignments.map Assignment.key).Nodup then some (assignments.map Assignment.entry)
      else none := by
  obtain ⟨fuel, size⟩ := Nat.exists_eq_add_of_le (length_le_length_document plain)
  have read := lines?_document plain fuel
  rw [← size] at read
  have unmarked (rest : List Char) : (document assignments).toList ≠ '\uFEFF' :: rest := by
    cases assignments with
    | nil => simp [document]
    | cons a others =>
      obtain ⟨c, tail, chars, key⟩ := (plain a List.mem_cons_self).exists_cons
      have mark := ne_of_isKeyChar key (by decide : isKeyChar '\uFEFF' = false)
      simp [document, chars, mark]
  have definitions : assignments.map (fun a => Line.definition a.definition) =
      (assignments.map Assignment.definition).map Line.definition := by
    rw [List.map_map]
    rfl
  have whole : defineAll [] (assignments.map Assignment.definition) =
      if (assignments.map Assignment.key).Nodup then some (assignments.map Assignment.entry)
      else none :=
    defineAll_assignments [] List.nodup_nil assignments
  unfold parse?
  split
  · next rest marked => exact absurd marked (unmarked rest)
  · dsimp only
    rw [read, Option.bind_eq_bind, Option.bind_some, definitions, sections_definitions]
    simp [ofSections, addSection, whole]

end DeviceQuery.Toml

namespace DeviceQuery.Settings

open Toml

/-- What the lines of a document say: each key is given one value at most, a style is given by its
name and the strictness by a truth value, and what is not given is the default. -/
structure Gives (assignments : List Assignment) (s : Settings) : Prop where
  once : (assignments.map Assignment.key).Nodup
  style : ∀ a ∈ assignments, a.key = styleKey → a.value = .text s.nameStyle.name
  noStyle : (∀ a ∈ assignments, a.key ≠ styleKey) → s.nameStyle = .kebab
  strict : ∀ a ∈ assignments, a.key = strictKey → a.value = .flag s.strict
  noStrict : (∀ a ∈ assignments, a.key ≠ strictKey) → s.strict = false

theorem styleOfNode?_node {v : Toml.Value} {style : NameStyle} :
    styleOfNode? v.node = some style ↔ v = .text style.name := by
  cases v with
  | flag b => simp [styleOfNode?, Toml.Value.node]
  | text s =>
    have named : NameStyle.ofName? s = some style ↔ s = style.name := by
      constructor
      · grind [NameStyle.ofName?]
      · rintro rfl
        cases style <;> rfl
    rw [Toml.Value.text.injEq, ← named]
    rfl

theorem strictOfNode?_node {v : Toml.Value} {b : Bool} :
    strictOfNode? v.node = some b ↔ v = .flag b := by
  cases v <;> simp [strictOfNode?, Toml.Value.node]

theorem entriesInRange_assignments (assignments : List Assignment) :
    entriesInRange (assignments.map Assignment.entry) := by
  induction assignments with
  | nil => rfl
  | cons a rest ih =>
    have small : a.value.node.inRange = true := by cases a.value <;> rfl
    rw [List.map_cons, Assignment.entry, entriesInRange, small, ih]
    rfl

theorem get?_assignments {assignments : List Assignment}
    (once : (assignments.map Assignment.key).Nodup) {a : Assignment} (mem : a ∈ assignments) :
    Entries.get? (assignments.map Assignment.entry) a.key = some a.value.node := by
  induction assignments with
  | nil => cases mem
  | cons first rest ih =>
    rw [List.map_cons, List.nodup_cons] at once
    rcases List.mem_cons.mp mem with rfl | later
    · simp [Entries.get?, Assignment.entry]
    · have other : first.key ≠ a.key := fun same =>
        once.1 (same ▸ List.mem_map_of_mem later)
      have found := ih once.2 later
      simpa [Entries.get?, Assignment.entry, other] using found

/-- A key has the value that it is given, or the default. -/
theorem entry?_assignments {α : Type} {assignments : List Assignment}
    (once : (assignments.map Assignment.key).Nodup) {key : String} {read : Node → Option α}
    {otherwise value : α} :
    entry? (assignments.map Assignment.entry) key read otherwise = some value ↔
      (∀ a ∈ assignments, a.key = key → read a.value.node = some value) ∧
        ((∀ a ∈ assignments, a.key ≠ key) → value = otherwise) := by
  by_cases given : ∃ a ∈ assignments, a.key = key
  · obtain ⟨a, mem, rfl⟩ := given
    unfold entry?
    rw [get?_assignments once mem]
    constructor
    · intro reads
      refine ⟨fun b other same => ?_, fun absent => absurd rfl (absent a mem)⟩
      have found := get?_assignments once other
      rw [same, get?_assignments once mem] at found
      rwa [← Option.some.inj found]
    · exact fun told => told.1 a mem rfl
  · have absent : ∀ a ∈ assignments, a.key ≠ key := fun a mem same => given ⟨a, mem, same⟩
    have missing : Entries.get? (assignments.map Assignment.entry) key = none := by
      rw [Entries.get?_eq_none_iff]
      simpa [Assignment.entry] using absent
    unfold entry?
    rw [missing]
    constructor
    · rintro ⟨⟩
      exact ⟨fun a mem same => absurd same (absent a mem), fun _ => rfl⟩
    · exact fun told => congrArg some (told.2 absent).symm

theorem ofToml?_document {assignments : List Assignment} (plain : ∀ a ∈ assignments, a.Plain)
    {s : Settings} : ofToml? (document assignments) = some s ↔ Gives assignments s := by
  rw [ofToml?, parse?_document plain]
  by_cases once : (assignments.map Assignment.key).Nodup
  · simp only [if_pos once, Option.bind_eq_bind, Option.bind_some, Option.bind_eq_some_iff,
      entriesInRange_assignments, if_true, Option.some.injEq, entry?_assignments once,
      styleOfNode?_node, strictOfNode?_node]
    constructor
    · rintro ⟨style, ⟨styles, noStyle⟩, strict, ⟨stricts, noStrict⟩, rfl⟩
      exact ⟨once, styles, noStyle, stricts, noStrict⟩
    · intro gives
      exact ⟨_, ⟨gives.style, gives.noStyle⟩, _, ⟨gives.strict, gives.noStrict⟩, rfl⟩
  · rw [if_neg once]
    exact ⟨nofun, fun gives => absurd gives.once once⟩

/-- The settings of a document are those that its lines give. If they give none, the failure has the
reason for the text of the document. -/
theorem ofToml_document (reason : String → String) {assignments : List Assignment}
    (plain : ∀ a ∈ assignments, a.Plain) :
    (∀ s, ofToml reason (document assignments) = .ok s ↔ Gives assignments s) ∧
    ∀ f, ofToml reason (document assignments) = .error f ↔
      f = .toml (reason (document assignments)) ∧ ∀ s, ¬Gives assignments s := by
  simp only [← ofToml?_document plain]
  rw [ofToml]
  cases ofToml? (document assignments) with
  | none => simp [eq_comm]
  | some s => simp

/-- A style that is set, a strictness that is not, and a key that stands for no setting. -/
example : ofToml? "case_mode = \"snake\"\nnote = \"lab\"\n" = some { nameStyle := .snake } := by
  decide +kernel

/-- A file that can be named gives the settings of its text. -/
theorem ofFile_toUTF8 (reason : String → String) {path : String}
    (nameable : Files.pathFault? path = none) (text : String) :
    ofFile reason path (.ok text.toUTF8) = ofToml reason text := by
  have read : Files.Found.read path (.ok text.toUTF8) = .ok text := by
    unfold Files.Found.read
    simp [nameable, String.fromUTF8?, String.fromUTF8, text.isValidUTF8]
  rw [ofFile, read]

end DeviceQuery.Settings
