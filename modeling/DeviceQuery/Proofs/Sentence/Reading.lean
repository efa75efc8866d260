import DeviceQuery.Proofs.Chain.Calls
import DeviceQuery.Proofs.Filter.Words
import DeviceQuery.Text.Pieces

/-!
# Reading a sentence back

The words of a sentence come in several shapes: conditions with or without a question mark, a
comparison sign and a value, operators, and a projection. Where no name looks like one of the other
shapes, a word can be read back (`Term.read_word`, `readNames_projection`), and so can all that
stands after the command of a sentence (`Sentence.read_words`). So a sentence tells its menu, its
projection and its filter (`sentence_tells_query`).
-/

namespace DeviceQuery

/-! ## Names that can be told apart -/

/-- The name can be told from what stands around it in a word: there is one, it ends before the
value, and it does not start like something else. -/
structure Condition.Legible (c : Condition) : Prop where
  named : c.name ≠ ""
  ends : '=' ∉ c.name.toList
  starts : ∀ sign ∈ ['>', '<', '-', '#', '?'], c.name.toList.head? ≠ some sign

def Term.Legible : Term → Prop
  | .condition c => c.Legible
  | .operator _ => True
  -- it may look like anything
  | .raw _ => False

/-- The names that are asked for can be told apart in one word. -/
def LegibleNames (names : List String) : Prop := ∀ name ∈ names, name ≠ "" ∧ ',' ∉ name.toList

/-- A query without raw words whose names can all be told apart. -/
structure Chain.Legible (q : Chain) : Prop where
  projection : ∀ names, q.projection = some names → LegibleNames names
  filter : ∀ t ∈ q.filter, t.Legible

instance (c : Condition) : Decidable c.Legible :=
  -- five signs are looked at, and not all characters
  let _ : Decidable (∀ sign ∈ ['>', '<', '-', '#', '?'],
      c.name.toList.head? ≠ some sign) := List.decidableBAll _ _
  decidable_of_iff (c.name ≠ "" ∧ '=' ∉ c.name.toList ∧
      ∀ sign ∈ ['>', '<', '-', '#', '?'], c.name.toList.head? ≠ some sign)
    ⟨fun h => ⟨h.1, h.2.1, h.2.2⟩, fun h => ⟨h.named, h.ends, h.starts⟩⟩

instance : DecidablePred Term.Legible
  | .condition c => inferInstanceAs (Decidable c.Legible)
  | .operator _ => inferInstanceAs (Decidable True)
  | .raw _ => inferInstanceAs (Decidable False)

instance (names : List String) : Decidable (LegibleNames names) :=
  inferInstanceAs (Decidable (∀ name ∈ names, name ≠ "" ∧ ',' ∉ name.toList))

instance (q : Chain) : Decidable q.Legible :=
  decidable_of_iff ((∀ names ∈ q.projection, LegibleNames names) ∧ ∀ t ∈ q.filter, t.Legible)
    ⟨fun h => ⟨h.1, h.2⟩, fun h => ⟨h.projection, h.filter⟩⟩

/-! ## Reading words -/

/-- The marker at the front of a word, and what follows it. -/
def Marker.read : List Char → Marker × List Char
  | '?' :: rest => (query, rest)
  | word => (plain, word)

/-- The comparison at the front of what follows a marker, and the rest. -/
def Comparison.read : List Char → Comparison × List Char
  | '>' :: rest => (greater, rest)
  | '<' :: rest => (less, rest)
  | '-' :: rest => (absent, rest)
  | word => (equal, word)

/-- The name and the value that stand before and after the first `=`; without one there is no
value. -/
def readPair (chars : List Char) : String × String :=
  match Text.cutChars '=' chars with
  | some (name, value) => (String.ofList name, String.ofList value)
  | none => (String.ofList chars, "")

def Condition.read (word : List Char) : Condition :=
  let (marker, marked) := Marker.read word
  let (comparison, compared) := Comparison.read marked
  let (name, value) := readPair compared
  { marker, comparison, name, value }

def Term.read (word : String) : Term :=
  match Operator.ofWord? word with
  | some op => .operator op
  | none => .condition (Condition.read word.toList)

def readNames (word : String) : List String :=
  match word.toList.drop "=.proplist=".length with
  | [] => []
  | list => Text.parts ',' (String.ofList list)

/-- The projection and the filter of the words after a command. Only a projection starts with
`=`. -/
def Sentence.readTail : List String → Option (List String) × Filter
  | [] => (none, [])
  | word :: rest =>
    if word.toList.head? = some '=' then (some (readNames word), rest.map Term.read)
    else (none, (word :: rest).map Term.read)

theorem Marker.read_sign (m : Marker) {rest : List Char}
    (unmarked : rest.head? ≠ some '?') : Marker.read (m.sign.toList ++ rest) = (m, rest) := by
  cases m with
  | query => rfl
  | plain =>
    change Marker.read rest = (plain, rest)
    unfold Marker.read
    split
    · simp at unmarked
    · rfl

theorem Comparison.read_sign (c : Comparison) {rest : List Char}
    (unsigned : ∀ sign ∈ ['>', '<', '-'], rest.head? ≠ some sign) :
    Comparison.read (c.sign.toList ++ rest) = (c, rest) := by
  cases c with
  | greater | less | absent => rfl
  | equal =>
    change Comparison.read rest = (equal, rest)
    unfold Comparison.read
    split
    · simp at unsigned
    · simp at unsigned
    · simp at unsigned
    · rfl

theorem readPair_ending {c : Condition} (ends : '=' ∉ c.name.toList) :
    readPair (c.name.toList ++ c.ending.toList) = (c.name, c.value) := by
  unfold readPair Condition.ending
  by_cases empty : c.value = ""
  · have uncut : Text.cutChars '=' (c.name.toList ++ []) = none :=
      Text.cutChars_eq_none_iff.mpr (by simpa using ends)
    rw [if_pos empty, String.toList_empty, uncut, empty]
    simp
  · have chars : ("=" ++ c.value).toList = '=' :: c.value.toList := by simp
    have cut : Text.cutChars '=' (c.name.toList ++ '=' :: c.value.toList) =
        some (c.name.toList, c.value.toList) := Text.cutChars_eq_some_iff.mpr ⟨rfl, ends⟩
    rw [if_neg empty, chars, cut]
    simp

namespace Condition

variable {c : Condition}

/-- No name that can be told apart makes its word look like something else. -/
theorem Legible.clear (legible : c.Legible) : c.Clear := by
  intro _
  apply legible.starts
  cases c.marker <;> simp [Marker.pitfall]

/-- What follows a comparison sign starts with the name. -/
theorem Legible.head (legible : c.Legible) :
    (c.name.toList ++ c.ending.toList).head? = c.name.toList.head? := by
  cases chars : c.name.toList with
  | nil => exact absurd (String.toList_eq_nil_iff.mp chars) legible.named
  | cons d rest => rfl

theorem Legible.unmarked (legible : c.Legible) :
    (c.comparison.sign.toList ++ (c.name.toList ++ c.ending.toList)).head? ≠ some '?' := by
  cases c.comparison with
  | equal =>
    change (c.name.toList ++ c.ending.toList).head? ≠ some '?'
    rw [legible.head]
    exact legible.starts '?' (by simp)
  | greater | less | absent => simp [Comparison.sign]

/-- Only a projection starts with `=`. -/
theorem Legible.word_head (legible : c.Legible) : c.word.toList.head? ≠ some '=' := by
  have named : (c.name.toList ++ c.ending.toList).head? ≠ some '=' := by
    rw [legible.head]
    intro head
    exact legible.ends (List.mem_of_head? head)
  rw [c.word_toList]
  cases c.marker with
  | query => simp [Marker.sign]
  | plain =>
    cases c.comparison with
    | equal => exact named
    | greater | less | absent => simp [Marker.sign, Comparison.sign]

theorem read_word (legible : c.Legible) : read c.word.toList = c := by
  have unsigned : ∀ sign ∈ ['>', '<', '-'],
      (c.name.toList ++ c.ending.toList).head? ≠ some sign := by
    intro sign member
    rw [legible.head]
    apply legible.starts
    simp only [List.mem_cons, List.not_mem_nil, or_false] at member ⊢
    rcases member with rfl | rfl | rfl <;> simp
  rw [c.word_toList]
  simp only [read, Marker.read_sign _ legible.unmarked, Comparison.read_sign _ unsigned,
    readPair_ending legible.ends]

end Condition

namespace Term

variable {t : Term}

theorem word_head (legible : t.Legible) : t.word.toList.head? ≠ some '=' := by
  cases t with
  | condition c => exact Condition.Legible.word_head legible
  | operator op => cases op <;> decide
  | raw word => exact absurd legible id

/-- The word of a condition is no operator: taken for itself it is what the condition is. -/
theorem ofWord?_condition {c : Condition} (legible : c.Legible) :
    Operator.ofWord? c.word = none := by
  cases read : Operator.ofWord? c.word with
  | none => rfl
  | some op =>
    -- an operator works on the stack, and no condition that can be told apart does
    have same : c.word = op.word := Operator.ofWord?_eq_some_iff.mp read
    have effect : rawEffect c.word = (Term.condition c).effect :=
      (rawEffect_word_iff (.condition c)).mpr legible.clear
    rw [same, rawEffect_operator] at effect
    cases marker : c.marker <;> simp [Term.effect, marker] at effect

theorem read_word (legible : t.Legible) : read t.word = t := by
  cases t with
  | condition c =>
    rw [read, Term.word, ofWord?_condition legible]
    exact congrArg condition (Condition.read_word legible)
  | operator op => rw [read, Term.word, Operator.ofWord?_word]
  | raw word => exact absurd legible id

theorem read_words {f : Filter} (legible : ∀ t ∈ f, t.Legible) : f.words.map read = f := by
  calc f.words.map read
      = f.map (read ∘ word) := by rw [Filter.words, List.map_map]
    _ = f.map id := List.map_congr_left fun t member => read_word (legible t member)
    _ = f := List.map_id f

end Term

theorem readNames_projection {names : List String} (legible : LegibleNames names) :
    readNames (Word.projection names).text = names := by
  have listed : (Word.projection names).text.toList.drop "=.proplist=".length =
      (commaList names).toList := by
    rw [Word.text, String.toList_append]
    exact List.drop_left
  have parted (some : names ≠ []) : Text.parts ',' (commaList names) = names :=
    Text.parts_intercalate some fun name member => (legible name member).2
  unfold readNames
  rw [listed]
  by_cases some : names = []
  · rw [some]
    rfl
  · split
    · next empty =>
      -- the empty text has one part, and it is empty
      have single := parted some
      rw [String.toList_eq_nil_iff.mp empty] at single
      have member : "" ∈ names := by
        rw [← single]
        decide
      exact absurd rfl (legible "" member).1
    · rw [String.ofList_toList]
      exact parted some

namespace Sentence

/-- All that stands after the command of a sentence can be read back. -/
theorem read_words {q : Chain} (legible : q.Legible) :
    readTail ((q.projection.toList.map fun names => (Word.projection names).text) ++
      q.filter.words) = (q.projection, q.filter) := by
  cases projection : q.projection with
  | some names =>
    have head : (Word.projection names).text.toList.head? = some '=' := by
      simp [Word.text]
    have names' := readNames_projection (legible.projection names projection)
    change readTail ((Word.projection names).text :: q.filter.words) = _
    rw [readTail, if_pos head, names', Term.read_words legible.filter]
  | none =>
    change readTail q.filter.words = _
    have read := Term.read_words legible.filter
    cases filter : q.filter with
    | nil => rfl
    | cons t rest =>
      have head := Term.word_head (legible.filter t (by simp [filter]))
      rw [filter] at read
      change readTail (t.word :: Filter.words rest) = _
      rw [readTail, if_neg head]
      exact congrArg (Prod.mk none) read

end Sentence

/-- Two queries whose names can be told apart and whose sentences for some action are the same ask
the same menu for the same attributes with the same filter. -/
theorem sentence_tells_query {q₁ q₂ : Chain} (legible₁ : q₁.Legible) (legible₂ : q₂.Legible)
    (action : String) (same : (q₁.sentence action).words = (q₂.sentence action).words) :
    q₁.path = q₂.path ∧ q₁.projection = q₂.projection ∧ q₁.filter = q₂.filter := by
  rw [Chain.sentence_words, Chain.sentence_words] at same
  obtain ⟨command, tail⟩ := List.cons.inj same
  have path : q₁.path = q₂.path := (String.append_left_inj (Menu.slashed action)).mp command
  have read : (q₁.projection, q₁.filter) = (q₂.projection, q₂.filter) :=
    calc (q₁.projection, q₁.filter)
        = Sentence.readTail _ := (Sentence.read_words legible₁).symm
      _ = Sentence.readTail _ := congrArg Sentence.readTail tail
      _ = (q₂.projection, q₂.filter) := Sentence.read_words legible₂
  exact ⟨path, Prod.mk.inj read⟩

/-- The same sentence from other calls, on another spelling of the menu and under other settings:
the menu, the projection and the filter are the same ones. -/
theorem sentence_tells_query_spellings :
    let q₁ := (Chain.on "interface" {}).applyAll
      [.given (.batch [("type", .text "ether"), ("comment", .text "?up=yes")]),
        .select ["name", "id"], .missing "master"]
    let q₂ := (Chain.on " /interface/" { strict := true }).applyAll
      [.only ["mtu"], .proplist ["name", ".id"], .filter (.single "type" (.text "ether")),
        .query (.single "comment" (.text "?up=yes")), .notPresent "master"]
    q₁.Legible ∧ q₂.Legible ∧ (q₁.sentence "print").words = (q₂.sentence "print").words ∧
      q₁.path = q₂.path ∧ q₁.projection = q₂.projection ∧ q₁.filter = q₂.filter := by
  intro q₁ q₂
  have legible₁ : q₁.Legible := by decide
  have legible₂ : q₂.Legible := by decide
  have same : (q₁.sentence "print").words = (q₂.sentence "print").words := by decide
  exact ⟨legible₁, legible₂, same, sentence_tells_query legible₁ legible₂ "print" same⟩

end DeviceQuery
