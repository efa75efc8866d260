import DeviceQuery.Menu.Path
import Mathlib.Data.List.Chain
import Mathlib.Data.List.TakeWhile

/-!
# Canonical paths

A text is laid out as separators and segments, and in only one way: its segments are the longest
runs of characters that are no separators (`laidOut_iff`). The path of a text puts one slash
before each of its segments. Such a text looks canonical (`canonical_path`), and a text that looks
canonical is its own path (`path_of_canonical`). So the paths of two texts are equal exactly where
the segments are, whatever separates them (`path_tells_segments`).
-/

namespace DeviceQuery

namespace Menu

/-- One or more characters, none of them a separator. -/
def IsSegment (run : List Char) : Prop := run ≠ [] ∧ ∀ c ∈ run, isSeparator c = false

/-- The layout of a text: separators, then a segment that goes on until the next separator or the
end, and so on. -/
inductive LaidOut : List Char → List (List Char) → Prop
  | gap {gap : List Char} (separate : ∀ c ∈ gap, isSeparator c) : LaidOut gap []
  | segment {gap run rest : List Char} {segments : List (List Char)}
      (separate : ∀ c ∈ gap, isSeparator c) (segment : IsSegment run)
      (ends : ∀ c ∈ rest.head?, isSeparator c) (later : LaidOut rest segments) :
      LaidOut (gap ++ run ++ rest) (run :: segments)

/-- The look of a path: it starts with a slash, holds no blank and no two slashes in a row, and
ends with a slash only where that is all of it. -/
structure Canonical (text : String) : Prop where
  rooted : text.toList.head? = some '/'
  unblank : ∀ c ∈ text.toList, Text.isBlank c = false
  single : ¬['/', '/'] <:+: text.toList
  unended : text ≠ "/" → text.toList.getLast? ≠ some '/'

theorem isSeparator_slash : isSeparator '/' = true := rfl

theorem ne_slash_of_not_separator {c : Char} (other : isSeparator c = false) : c ≠ '/' := by
  rintro rfl
  exact Bool.false_ne_true (other.symm.trans isSeparator_slash)

theorem isBlank_of_not_separator {c : Char} (other : isSeparator c = false) :
    Text.isBlank c = false := by
  simp only [isSeparator, Bool.or_eq_false_iff] at other
  exact other.2

theorem eq_slash_of_isSeparator {c : Char} (separator : isSeparator c)
    (unblank : Text.isBlank c = false) : c = '/' := by
  simpa [isSeparator, unblank] using separator

/-! ## The segments of a text -/

/-- What stands before a separator has segments of its own, and so has what stands behind it. -/
theorem runs_append_cons {c : Char} (separator : isSeparator c) (front back : List Char) :
    runs (front ++ c :: back) = runs front ++ runs back := by
  rw [runs, List.splitOnP_append_cons front back separator, List.filter_append, runs, runs]

theorem runs_separators_append {gap : List Char} (separate : ∀ c ∈ gap, isSeparator c)
    (back : List Char) : runs (gap ++ back) = runs back := by
  induction gap with
  | nil => rfl
  | cons c gap ih =>
    have first : runs (c :: (gap ++ back)) = runs (gap ++ back) :=
      runs_append_cons (separate c List.mem_cons_self) [] (gap ++ back)
    rw [List.cons_append, first, ih fun d member => separate d (List.mem_cons_of_mem c member)]

theorem runs_of_separators {gap : List Char} (separate : ∀ c ∈ gap, isSeparator c) :
    runs gap = [] := by
  rw [← List.append_nil gap, runs_separators_append separate]
  rfl

/-- One separator parts two texts as well as many do. -/
theorem runs_append_of_separators {gap : List Char} (some : gap ≠ [])
    (separate : ∀ c ∈ gap, isSeparator c) (front back : List Char) :
    runs (front ++ gap ++ back) = runs front ++ runs back := by
  obtain ⟨c, gap, rfl⟩ := List.exists_cons_of_ne_nil some
  have behind : runs (gap ++ back) = runs back :=
    runs_separators_append (fun d member => separate d (List.mem_cons_of_mem c member)) back
  rw [List.append_assoc, List.cons_append, runs_append_cons (separate c List.mem_cons_self),
    behind]

theorem runs_of_isSegment {run : List Char} (segment : IsSegment run) : runs run = [run] := by
  rw [runs, List.splitOnP_eq_singleton segment.2]
  simp [segment.1]

/-- A segment that cannot be made longer is a segment of the text. -/
theorem runs_isSegment_append {run rest : List Char} (segment : IsSegment run)
    (ends : ∀ c ∈ rest.head?, isSeparator c) : runs (run ++ rest) = run :: runs rest := by
  cases rest with
  | nil => rw [List.append_nil, runs_of_isSegment segment]; rfl
  | cons c rest =>
    have separator : isSeparator c := ends c rfl
    have behind : runs (c :: rest) = runs rest := runs_append_cons separator [] rest
    rw [runs_append_cons separator, runs_of_isSegment segment, behind]
    rfl

theorem LaidOut.eq_runs {cs : List Char} {segments : List (List Char)}
    (laid : LaidOut cs segments) : segments = runs cs := by
  induction laid with
  | gap separate => exact (runs_of_separators separate).symm
  | segment separate segment ends _ ih =>
    rw [List.append_assoc, runs_separators_append separate, runs_isSegment_append segment ends, ih]

/-- A character that is no separator starts a segment, which goes on until the next separator. -/
theorem exists_isSegment_append {c : Char} (other : isSeparator c = false) (more : List Char) :
    ∃ run rest, run ++ rest = c :: more ∧ IsSegment run ∧ ∀ d ∈ rest.head?, isSeparator d := by
  let letter (d : Char) : Bool := !isSeparator d
  refine ⟨c :: more.takeWhile letter, more.dropWhile letter, ?_, ⟨List.cons_ne_nil _ _, ?_⟩, ?_⟩
  · rw [List.cons_append, List.takeWhile_append_dropWhile]
  · intro d member
    rcases List.mem_cons.mp member with rfl | member
    · exact other
    · simpa [letter] using List.mem_takeWhile_imp member
  · intro d head
    have stops := List.head?_dropWhile_not letter more
    rw [Option.mem_def.mp head] at stops
    simpa [letter] using stops

/-- Every text has a layout. -/
theorem exists_laidOut (cs : List Char) : ∃ segments, LaidOut cs segments := by
  induction size : cs.length using Nat.strong_induction_on generalizing cs with
  | _ n ih =>
    let gap := cs.takeWhile isSeparator
    have separate : ∀ c ∈ gap, isSeparator c := fun c member => List.mem_takeWhile_imp member
    have whole : gap ++ cs.dropWhile isSeparator = cs := List.takeWhile_append_dropWhile
    cases behind : cs.dropWhile isSeparator with
    | nil =>
      rw [behind, List.append_nil] at whole
      exact ⟨[], whole ▸ .gap separate⟩
    | cons c more =>
      -- the first segment is taken off, and what is left is shorter
      have other : isSeparator c = false := by
        have head := List.head?_dropWhile_not isSeparator cs
        rwa [behind] at head
      obtain ⟨run, rest, parts, segment, ends⟩ := exists_isSegment_append other more
      have split : gap ++ run ++ rest = cs := by
        rw [List.append_assoc, parts, ← behind, whole]
      have shorter : rest.length < n := by
        have some : 0 < run.length := List.length_pos_of_ne_nil segment.1
        rw [← size, ← split]
        simp only [List.length_append]
        omega
      obtain ⟨segments, later⟩ := ih rest.length shorter rest rfl
      exact ⟨run :: segments, split ▸ .segment separate segment ends later⟩

/-- The longest runs of characters that are no separators are the segments of the layout. -/
theorem laidOut_iff {cs : List Char} {segments : List (List Char)} :
    LaidOut cs segments ↔ segments = runs cs := by
  refine ⟨LaidOut.eq_runs, ?_⟩
  rintro rfl
  obtain ⟨segments, laid⟩ := exists_laidOut cs
  exact laid.eq_runs ▸ laid

theorem LaidOut.isSegment {cs : List Char} {segments : List (List Char)}
    (laid : LaidOut cs segments) : ∀ run ∈ segments, IsSegment run := by
  induction laid with
  | gap separate => simp
  | segment separate segment ends _ ih =>
    intro run member
    rcases List.mem_cons.mp member with rfl | member
    · exact segment
    · exact ih run member

theorem isSegment_of_mem_runs {cs run : List Char} (member : run ∈ runs cs) : IsSegment run :=
  (laidOut_iff.mpr rfl).isSegment run member

/-! ## Segments with slashes before them -/

/-- The text of a path: a slash before each segment. -/
def slashes (segments : List (List Char)) : List Char := segments.flatMap fun run => '/' :: run

theorem slashes_cons (run : List Char) (segments : List (List Char)) :
    slashes (run :: segments) = '/' :: run ++ slashes segments := rfl

theorem slashes_append (segments more : List (List Char)) :
    slashes (segments ++ more) = slashes segments ++ slashes more := List.flatMap_append

theorem head?_slashes {segments : List (List Char)} :
    ∀ c ∈ (slashes segments).head?, c = '/' := by
  cases segments with
  | nil => simp [slashes]
  | cons run segments => simp [slashes_cons]

theorem cons_intercalate {segments : List (List Char)} (some : segments ≠ []) :
    '/' :: ['/'].intercalate segments = slashes segments := by
  induction segments with
  | nil => exact absurd rfl some
  | cons run segments ih =>
    cases segments with
    | nil => simp [slashes]
    | cons next segments =>
      rw [List.intercalate_cons_cons, slashes_cons, ← ih (List.cons_ne_nil next segments)]
      simp

/-- Segments with slashes before them are told apart again. -/
theorem runs_slashes {segments : List (List Char)} (proper : ∀ run ∈ segments, IsSegment run) :
    runs (slashes segments) = segments := by
  induction segments with
  | nil => rfl
  | cons run segments ih =>
    have ends : ∀ c ∈ (slashes segments).head?, isSeparator c := fun c head =>
      head?_slashes c head ▸ isSeparator_slash
    have behind : runs ('/' :: (run ++ slashes segments)) = runs (run ++ slashes segments) :=
      runs_append_cons isSeparator_slash [] _
    rw [slashes_cons, List.cons_append, behind,
      runs_isSegment_append (proper run List.mem_cons_self) ends,
      ih fun other member => proper other (List.mem_cons_of_mem run member)]

theorem toList_path (text : String) :
    (path text).toList = '/' :: ['/'].intercalate (runs text.toList) := by
  simp [path, String.toList_intercalate, Function.comp_def]

theorem toList_path_of_ne_nil {text : String} (some : runs text.toList ≠ []) :
    (path text).toList = slashes (runs text.toList) := by
  rw [toList_path, cons_intercalate some]

theorem path_of_nil {text : String} (none : runs text.toList = []) : path text = "/" := by
  rw [path, none]
  rfl

/-- A path has the segments of the text it was made from. -/
theorem runs_path (text : String) : runs (path text).toList = runs text.toList := by
  by_cases none : runs text.toList = []
  · rw [path_of_nil none, none]
    rfl
  · rw [toList_path_of_ne_nil none, runs_slashes fun run => isSegment_of_mem_runs]

theorem path_eq_iff {text other : String} :
    path text = path other ↔ runs text.toList = runs other.toList := by
  constructor
  · intro same
    rw [← runs_path text, same, runs_path]
  · intro same
    rw [path, same, path]

/-! ## Texts that look canonical -/

/-- No two slashes in a row. -/
def Unslashed (c d : Char) : Prop := ¬(c = '/' ∧ d = '/')

theorem isChain_unslashed_iff {cs : List Char} :
    cs.IsChain Unslashed ↔ ¬['/', '/'] <:+: cs := by
  constructor
  · intro chain slashes
    have pair : ['/', '/'].IsChain Unslashed := chain.infix slashes
    exact (List.isChain_cons_cons.mp pair).1 ⟨rfl, rfl⟩
  · intro single
    refine (List.isChain_isInfix cs).imp fun c d within both => single ?_
    obtain ⟨rfl, rfl⟩ := both
    exact within

theorem isChain_slash_cons {run : List Char} (segment : IsSegment run) :
    ('/' :: run).IsChain Unslashed := by
  refine List.Pairwise.isChain (List.pairwise_cons.mpr ⟨fun d member both => ?_, ?_⟩)
  · exact ne_slash_of_not_separator (segment.2 d member) both.2
  · refine List.pairwise_of_forall_mem_list fun c _ d member both => ?_
    exact ne_slash_of_not_separator (segment.2 d member) both.2

/-- A segment ends in a character of its own. -/
theorem getLast?_slash_cons {run : List Char} (segment : IsSegment run) :
    ∀ c ∈ ('/' :: run).getLast?, c ≠ '/' := by
  intro c last
  rw [List.getLast?_cons_of_ne_nil segment.1] at last
  exact ne_slash_of_not_separator (segment.2 c (List.mem_of_getLast? last))

theorem slashes_single {segments : List (List Char)} (proper : ∀ run ∈ segments, IsSegment run) :
    (slashes segments).IsChain Unslashed ∧ ∀ c ∈ (slashes segments).getLast?, c ≠ '/' := by
  induction segments with
  | nil => simp [slashes]
  | cons run segments ih =>
    have segment : IsSegment run := proper run List.mem_cons_self
    obtain ⟨chain, unended⟩ := ih fun other member => proper other (List.mem_cons_of_mem run member)
    rw [slashes_cons]
    refine ⟨List.isChain_append.mpr ⟨isChain_slash_cons segment, chain, ?_⟩, ?_⟩
    · exact fun c last _ _ both => getLast?_slash_cons segment c last both.1
    · intro c last
      rw [List.getLast?_append, Option.mem_def, Option.or_eq_some_iff] at last
      rcases last with last | ⟨-, last⟩
      · exact unended c last
      · exact getLast?_slash_cons segment c last

theorem unblank_slashes {segments : List (List Char)} (proper : ∀ run ∈ segments, IsSegment run) :
    ∀ c ∈ slashes segments, Text.isBlank c = false := by
  intro c member
  obtain ⟨run, among, within⟩ := List.mem_flatMap.mp member
  rcases List.mem_cons.mp within with rfl | within
  · rfl
  · exact isBlank_of_not_separator ((proper run among).2 c within)

theorem canonical_path (text : String) : Canonical (path text) := by
  by_cases none : runs text.toList = []
  · rw [path_of_nil none]
    exact ⟨rfl, List.forall_mem_singleton.mpr rfl, by decide, fun other => absurd rfl other⟩
  · have proper : ∀ run ∈ runs text.toList, IsSegment run := fun run => isSegment_of_mem_runs
    obtain ⟨chain, unended⟩ := slashes_single proper
    rw [← toList_path_of_ne_nil none] at chain unended
    refine ⟨by rw [toList_path, List.head?_cons], ?_, isChain_unslashed_iff.mp chain,
      fun _ last => unended '/' last rfl⟩
    rw [toList_path_of_ne_nil none]
    exact unblank_slashes proper

/-- Without blanks and without slashes in a row, a segment has no separator but one slash before
it. -/
theorem eq_slash_of_gap {gap run rest : List Char} (separate : ∀ c ∈ gap, isSeparator c)
    (segment : IsSegment run) (unblank : ∀ c ∈ gap ++ run ++ rest, Text.isBlank c = false)
    (chain : (gap ++ run ++ rest).IsChain Unslashed)
    (rooted : ∀ c ∈ (gap ++ run ++ rest).head?, c = '/') : gap = ['/'] := by
  cases gap with
  | nil =>
    obtain ⟨c, more, rfl⟩ := List.exists_cons_of_ne_nil segment.1
    exact absurd (rooted c rfl) (ne_slash_of_not_separator (segment.2 c List.mem_cons_self))
  | cons c gap =>
    have first : c = '/' := rooted c rfl
    cases gap with
    | nil => rw [first]
    | cons d gap =>
      have second : d = '/' := eq_slash_of_isSeparator (separate d (by simp)) (unblank d (by simp))
      exact absurd ⟨first, second⟩ (List.isChain_cons_cons.mp chain).1

/-- Where no separator but a single slash stands between segments, and none behind the last one,
the layout is that of a path. -/
theorem LaidOut.eq_slashes {cs : List Char} {segments : List (List Char)}
    (laid : LaidOut cs segments) (unblank : ∀ c ∈ cs, Text.isBlank c = false)
    (chain : cs.IsChain Unslashed) (rooted : ∀ c ∈ cs.head?, c = '/')
    (unended : ∀ c ∈ cs.getLast?, c ≠ '/') : cs = slashes segments := by
  induction laid with
  | @gap gap separate =>
    cases last : gap.getLast? with
    | none => exact List.getLast?_eq_none_iff.mp last
    | some c =>
      have member : c ∈ gap := List.mem_of_getLast? last
      exact absurd (eq_slash_of_isSeparator (separate c member) (unblank c member))
        (unended c last)
  | @segment gap run rest segments separate segment ends later ih =>
    have opening : gap = ['/'] := eq_slash_of_gap separate segment unblank chain rooted
    have tail : rest = slashes segments := by
      apply ih (fun c member => unblank c (List.mem_append_right _ member))
        (chain.right_of_append)
      · intro c head
        exact eq_slash_of_isSeparator (ends c head)
          (unblank c (List.mem_append_right _ (List.mem_of_mem_head? head)))
      · intro c last
        apply unended c
        rw [List.getLast?_append, last, Option.some_or, Option.mem_some]
    rw [opening, tail, slashes_cons]
    rfl

/-- What looks canonical is a path. -/
theorem path_of_canonical {text : String} (canonical : Canonical text) : path text = text := by
  by_cases root : text = "/"
  · rw [root]
    rfl
  · have laid : text.toList = slashes (runs text.toList) := by
      apply (laidOut_iff.mpr rfl).eq_slashes canonical.unblank
        (isChain_unslashed_iff.mpr canonical.single)
      · intro c head
        rw [canonical.rooted] at head
        exact (Option.some.inj head).symm
      · rintro c last rfl
        exact canonical.unended root last
    have some : runs text.toList ≠ [] := by
      intro none
      have rooted := canonical.rooted
      rw [laid, none] at rooted
      cases rooted
    rw [← String.toList_inj, toList_path_of_ne_nil some, ← laid]

theorem canonical_iff {text : String} : Canonical text ↔ path text = text :=
  ⟨path_of_canonical, fun same => same ▸ canonical_path text⟩

end Menu

/-- The path of a text looks canonical, and is laid out in the segments of the text, unaltered and
in order. So a path is its own path, and nothing else is. The segments tell the path, and the path
tells the segments: it is the same however they are separated. -/
theorem path_tells_segments (text : String) :
    Menu.Canonical (Menu.path text) ∧
    (∃ segments, (∀ others, Menu.LaidOut text.toList others ↔ others = segments) ∧
      ∀ others, Menu.LaidOut (Menu.path text).toList others ↔ others = segments) ∧
    Menu.path (Menu.path text) = Menu.path text ∧
    (Menu.Canonical text ↔ Menu.path text = text) ∧
    (∀ other : String, Menu.path text = Menu.path other ↔
      ∃ segments, Menu.LaidOut text.toList segments ∧ Menu.LaidOut other.toList segments) ∧
    ∀ gap rest : String, gap ≠ "" → (∀ c ∈ gap.toList, Menu.isSeparator c) →
      Menu.path (text ++ gap ++ rest) = Menu.path (text ++ "/" ++ rest) := by
  refine ⟨Menu.canonical_path text, ⟨Menu.runs text.toList, fun _ => Menu.laidOut_iff, ?_⟩,
    Menu.path_of_canonical (Menu.canonical_path text), Menu.canonical_iff, ?_, ?_⟩
  · intro others
    rw [Menu.laidOut_iff, Menu.runs_path]
  · intro other
    simp only [Menu.path_eq_iff, Menu.laidOut_iff]
    constructor
    · exact fun same => ⟨Menu.runs text.toList, rfl, same⟩
    · rintro ⟨segments, own, others⟩
      exact own.symm.trans others
  · intro gap rest some separate
    have slash : ∀ c ∈ ['/'], Menu.isSeparator c := by simp [Menu.isSeparator_slash]
    rw [Menu.path_eq_iff]
    simp only [String.toList_append]
    rw [Menu.runs_append_of_separators (mt String.toList_eq_nil_iff.mp some) separate]
    exact (Menu.runs_append_of_separators (List.cons_ne_nil '/' []) slash _ _).symm

/-- Blanks and slashes in a row part two segments as one slash does, and a slash at the end does
not count. -/
theorem path_tells_segments_blank :
    Menu.path ("ip" ++ " /\u00a0" ++ "address/") = Menu.path ("ip" ++ "/" ++ "address/") ∧
      Menu.path "ip/address/" = "/ip/address" ∧ Menu.Canonical "/ip/address" := by
  obtain ⟨-, -, -, -, -, parted⟩ := path_tells_segments "ip"
  obtain ⟨-, -, -, fixed, -⟩ := path_tells_segments "/ip/address"
  have separate : ∀ c ∈ " /\u00a0".toList, Menu.isSeparator c := List.all_eq_true.mp rfl
  exact ⟨parted " /\u00a0" "address/" (by decide) separate, by decide, fixed.mpr (by decide)⟩

end DeviceQuery
