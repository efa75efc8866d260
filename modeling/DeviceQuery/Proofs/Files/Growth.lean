import DeviceQuery.Files.Growth
import Mathlib.Data.List.Infix
import Mathlib.Data.List.Induction

/-!
# What growing a tree adds

A path of plain names leads to the place of these names, if all places before it are directories
(`walk_eq_ok_iff`). To make the directory there and those above it works exactly if no file stands
on the way and no name is too long, and whether it works or not, nothing else is added
(`made_makeDirectories`).
-/

namespace DeviceQuery.Files

/-- No name is one of the two that stand for another place. -/
def Plain (path : List String) : Prop := ∀ name ∈ path, name ≠ "." ∧ name ≠ ".."

/-- No name has more than 255 bytes. -/
def Short (path : List String) : Prop := ∀ name ∈ path, name.utf8ByteSize ≤ 255

instance (path : List String) : Decidable (Plain path) := List.decidableBAll _ path

instance (path : List String) : Decidable (Short path) := List.decidableBAll _ path

theorem plain_append_iff {path more : List String} :
    Plain (path ++ more) ↔ Plain path ∧ Plain more := List.forall_mem_append

theorem short_append_iff {path more : List String} :
    Short (path ++ more) ↔ Short path ∧ Short more := List.forall_mem_append

theorem not_concat_prefix {α : Type} {l : List α} {a : α} : ¬l ++ [a] <+: l := fun start => by
  have shorter := start.length_le
  simp only [List.length_append, List.length_singleton] at shorter
  omega

namespace Tree

/-! ## From one tree to another -/

/-- The second tree has all that the first one has, and what it has besides lies where it may. -/
structure Grows (t u : Tree) (may : Place → Prop) : Prop where
  kept : ∀ {p : Place} {k : Kind}, t.kind? p = some k → u.kind? p = some k
  added : ∀ {p : Place}, t.kind? p = none → u.kind? p ≠ none → may p

/-- Every place up to this one is a directory. -/
def Paved (t : Tree) (path : Place) : Prop := ∀ p, p <+: path → t.kind? p = some .directory

/-- No place up to this one is a file. -/
def Passable (t : Tree) (path : Place) : Prop := ∀ p, p <+: path → t.kind? p ≠ some .file

variable {t u v : Tree} {may other : Place → Prop} {path p : Place}

theorem Grows.refl (t : Tree) (may : Place → Prop) : t.Grows t may :=
  ⟨id, fun none some => absurd none some⟩

theorem Grows.mono (grows : t.Grows u may) (wider : ∀ p, may p → other p) : t.Grows u other :=
  ⟨grows.kept, fun none some => wider _ (grows.added none some)⟩

theorem Grows.trans (first : t.Grows u may) (second : u.Grows v may) : t.Grows v may where
  kept := fun there => second.kept (first.kept there)
  added := by
    intro p none some
    cases between : u.kind? p with
    | none => exact second.added between some
    | some k => exact first.added none (by simp [between])

/-- What leads to a place leads to the places right below it. -/
theorem Grows.concat (grows : t.Grows u (· <+: path)) (name : String) :
    t.Grows u (· <+: path ++ [name]) :=
  grows.mono fun _ start => List.prefix_concat_iff.mpr (.inr start)

/-- Nothing changes where nothing may be added. -/
theorem Grows.kind?_eq (grows : t.Grows u may) (outside : ¬may p) : u.kind? p = t.kind? p := by
  cases before : t.kind? p with
  | some k => exact grows.kept before
  | none => exact Classical.not_not.mp fun some => outside (grows.added before some)

theorem grows_add (t : Tree) (path : Place) (k : Kind) : t.Grows (t.add path k) (· = path) where
  kept := by
    intro p kind there
    rw [kind?_add, if_neg (by rintro ⟨rfl, none⟩; simp [none] at there), there]
  added := by
    intro p none some
    by_contra apart
    rw [kind?_add, if_neg (fun same => apart same.1)] at some
    exact some none

/-- A place is of the kind that it is added as, if it was of no other kind before. -/
theorem kind?_add_self {k : Kind} (fits : ∀ other ≠ k, t.kind? path ≠ some other) :
    (t.add path k).kind? path = some k := by
  rw [kind?_add]
  cases there : t.kind? path with
  | none => simp
  | some before =>
    have same : before = k := by_contra fun other => fits before other there
    simp [same]

theorem settled_eq_ok_iff {result : Except Fault Tree} :
    (t.settled result).1 = .ok () ↔ ∃ u, result = .ok u := by
  cases result <;> simp [settled]

/-- An operation that fails adds nothing more. -/
theorem Grows.settled {result : Except Fault Tree} (grows : t.Grows u may)
    (more : ∀ {v : Tree}, result = .ok v → u.Grows v may) : t.Grows (u.settled result).2 may := by
  cases result with
  | ok v => exact grows.trans (more rfl)
  | error f => exact grows

theorem kind?_nil (t : Tree) : t.kind? [] = some .directory := rfl

theorem paved_nil (t : Tree) : t.Paved [] := fun p start => by
  rw [List.prefix_nil.mp start, kind?_nil]

/-! ## Walks along plain names -/

theorem directory_of_kind? (there : t.kind? p = some .directory) : t.directory p = .ok p := by
  rw [directory, there]

theorem directory_of_none (none : t.kind? p = none) : t.directory p = .error .missing := by
  rw [directory, none]

theorem kind?_of_directory {q : Place} (found : t.directory p = .ok q) :
    q = p ∧ t.kind? p = some .directory := by
  unfold directory at found
  split at found
  · next there => exact ⟨(Except.ok.inj found).symm, there⟩
  · cases found
  · cases found

theorem next_of_plain (here : Place) {name : String} (plain : name ≠ "." ∧ name ≠ "..") :
    next here name =
      if 255 < name.utf8ByteSize then .error .tooLong else .ok (here ++ [name]) := by
  rw [next, if_neg plain.1, if_neg plain.2]

/-- Plain names lead to the place below that they spell, if they are short and every place on the
way is a directory. -/
theorem walk_eq_ok_iff {here place : Place} {names : List String} (plain : Plain names) :
    t.walk here names = .ok place ↔
      place = here ++ names ∧ Short names ∧
        ∀ p, p <+: names → p ≠ names → t.kind? (here ++ p) = some .directory := by
  induction names generalizing here with
  | nil =>
    have only (p : List String) (start : p <+: []) (apart : p ≠ []) :
        t.kind? (here ++ p) = some .directory := absurd (List.prefix_nil.mp start) apart
    rw [walk, Except.ok.injEq, List.append_nil, eq_comm]
    exact ⟨fun same => ⟨same, List.forall_mem_nil _, only⟩, And.left⟩
  | cons name rest ih =>
    obtain ⟨first, later⟩ := List.forall_mem_cons.mp plain
    have rejoin (p : List String) : here ++ [name] ++ p = here ++ name :: p := by simp
    constructor
    · intro led
      rw [walk] at led
      cases found : t.directory here with
      | error f => rw [found] at led; cases led
      | ok q =>
        obtain ⟨rfl, there⟩ := kind?_of_directory found
        rw [found] at led
        change next q name >>= _ = _ at led
        rw [next_of_plain q first] at led
        split at led
        · cases led
        · next fits =>
          obtain ⟨rfl, short, paved⟩ := (ih later).mp led
          refine ⟨rejoin rest, List.forall_mem_cons.mpr ⟨Nat.not_lt.mp fits, short⟩, ?_⟩
          intro p start apart
          rcases List.prefix_cons_iff.mp start with rfl | ⟨q, rfl, inner⟩
          · rwa [List.append_nil]
          · rw [← rejoin]
            exact paved q inner fun same => apart (by rw [same])
    · rintro ⟨rfl, short, paved⟩
      obtain ⟨fits, shortLater⟩ := List.forall_mem_cons.mp short
      have there : t.kind? here = some .directory := by
        simpa using paved [] List.nil_prefix (List.cons_ne_nil name rest).symm
      rw [walk, directory_of_kind? there]
      change next here name >>= _ = _
      rw [next_of_plain here first, if_neg (Nat.not_lt.mpr fits)]
      refine (ih later).mpr ⟨(rejoin rest).symm, shortLater, fun p start apart => ?_⟩
      rw [rejoin]
      exact paved (name :: p) (List.prefix_cons_iff.mpr (.inr ⟨p, rfl, start⟩))
        fun same => apart (List.cons_injective same)

/-- Where no file stands on the way and no name is too long, all that can be wrong is that something
is not there yet. -/
theorem walk_of_passable {here : Place} {names : List String} (plain : Plain names)
    (short : Short names) (passable : ∀ p, p <+: names → t.kind? (here ++ p) ≠ some .file) :
    (∃ place, t.walk here names = .ok place) ∨ t.walk here names = .error .missing := by
  induction names generalizing here with
  | nil => exact .inl ⟨here, rfl⟩
  | cons name rest ih =>
    obtain ⟨first, later⟩ := List.forall_mem_cons.mp plain
    obtain ⟨fits, shortLater⟩ := List.forall_mem_cons.mp short
    have clear : t.kind? here ≠ some .file := by simpa using passable [] List.nil_prefix
    rw [walk]
    cases there : t.kind? here with
    | none =>
      rw [directory_of_none there]
      exact .inr rfl
    | some k =>
      cases k with
      | file => exact absurd there clear
      | directory =>
        rw [directory_of_kind? there]
        change (∃ place, next here name >>= _ = _) ∨ next here name >>= _ = _
        rw [next_of_plain here first, if_neg (Nat.not_lt.mpr fits)]
        refine ih later shortLater fun p start => ?_
        have rejoin : here ++ [name] ++ p = here ++ name :: p := by simp
        rw [rejoin]
        exact passable (name :: p) (List.prefix_cons_iff.mpr (.inr ⟨p, rfl, start⟩))

/-- From the root, plain names lead to where they say. -/
theorem walk_root_iff {place : Place} (plain : Plain path) :
    t.walk [] path = .ok place ↔ place = path ∧ Short path ∧ t.Paved path.dropLast := by
  rw [walk_eq_ok_iff plain]
  refine and_congr_right fun _ => and_congr_right fun _ => ?_
  rcases List.eq_nil_or_concat' path with rfl | ⟨above, name, rfl⟩
  · refine iff_of_true (fun p start apart => ?_) (t.paved_nil)
    exact absurd (List.prefix_nil.mp start) apart
  · rw [List.dropLast_concat]
    constructor
    · intro paved p start
      refine paved p (List.prefix_concat_iff.mpr (.inr start)) ?_
      rintro rfl
      exact not_concat_prefix start
    · intro paved p start apart
      exact paved p ((List.prefix_concat_iff.mp start).resolve_left apart)

theorem stuck_of_walk_error {f : Fault} (plain : Plain path) (stopped : t.walk [] path = .error f) :
    ¬(Short path ∧ t.Paved path.dropLast) := fun fits => by
  rw [(walk_root_iff plain).mpr ⟨rfl, fits⟩] at stopped
  cases stopped

/-! ## Single directories and files -/

theorem add_of_kind? {k other : Kind} (there : t.kind? p = some other) : t.add p k = t := by
  rw [add, there]
  rfl

theorem ensureDirectory_of_error {f : Fault} (stopped : t.walk [] path = .error f) :
    t.ensureDirectory path = .error f := by
  have unmade : t.makeDirectory path = .error f := by rw [makeDirectory, stopped]; rfl
  have elsewhere : t.isDirectory path = false := by rw [isDirectory, stopped]
  rw [ensureDirectory, unmade]
  simp [elsewhere]

theorem ensureDirectory_of_ok (led : t.walk [] path = .ok path) :
    t.ensureDirectory path =
      if t.kind? path = some .file then .error .exists else .ok (t.add path .directory) := by
  have made : t.makeDirectory path =
      if (t.kind? path).isSome then .error .exists else .ok (t.add path .directory) := by
    rw [makeDirectory, led]
    rfl
  have found : t.isDirectory path = decide (t.kind? path = some .directory) := by
    rw [isDirectory, led]
  rw [ensureDirectory, made, found]
  cases there : t.kind? path with
  | none => rfl
  | some k =>
    cases k with
    | file => rfl
    | directory => rw [add_of_kind? there]; rfl

theorem ensureDirectory_eq_ok_iff (plain : Plain path) :
    t.ensureDirectory path = .ok u ↔
      u = t.add path .directory ∧ Short path ∧ t.Paved path.dropLast ∧
        t.kind? path ≠ some .file := by
  cases led : t.walk [] path with
  | error f =>
    rw [ensureDirectory_of_error led]
    exact iff_of_false (by simp) fun made =>
      stuck_of_walk_error plain led ⟨made.2.1, made.2.2.1⟩
  | ok place =>
    obtain ⟨rfl, short, paved⟩ := (walk_root_iff plain).mp led
    rw [ensureDirectory_of_ok led]
    split
    · next file => simp [file]
    · next other => simp [short, paved, other, eq_comm]

theorem ensureDirectory_of_passable (plain : Plain path) (short : Short path)
    (passable : t.Passable path) :
    (∃ u, t.ensureDirectory path = .ok u) ∨ t.ensureDirectory path = .error .missing := by
  rcases @walk_of_passable t [] path plain short passable with ⟨place, led⟩ | stopped
  · obtain ⟨rfl, -, -⟩ := (walk_root_iff plain).mp led
    rw [ensureDirectory_of_ok led, if_neg (passable place List.prefix_rfl)]
    exact .inl ⟨_, rfl⟩
  · exact .inr (ensureDirectory_of_error stopped)

/-- A directory that is made, or there already, has only directories above it. -/
theorem paved_of_ensureDirectory (plain : Plain path) (made : t.ensureDirectory path = .ok u) :
    u.Paved path := by
  obtain ⟨rfl, -, paved, notFile⟩ := (ensureDirectory_eq_ok_iff plain).mp made
  have here : (t.add path .directory).kind? path = some .directory := by
    refine kind?_add_self fun other apart => ?_
    cases other with
    | file => exact notFile
    | directory => exact absurd rfl apart
  intro p start
  rcases List.eq_nil_or_concat' path with rfl | ⟨above, name, rfl⟩
  · rwa [List.prefix_nil.mp start]
  · rw [List.dropLast_concat] at paved
    rcases List.prefix_concat_iff.mp start with rfl | start
    · exact here
    · exact (t.grows_add _ _).kept (paved p start)

theorem openFile_eq_ok_iff (plain : Plain path) :
    t.openFile path = .ok u ↔
      u = t.add path .file ∧ Short path ∧ t.Paved path.dropLast ∧
        t.kind? path ≠ some .directory := by
  cases led : t.walk [] path with
  | error f =>
    have failed : t.openFile path = .error f := by rw [openFile, led]; rfl
    rw [failed]
    exact iff_of_false (by simp) fun opened =>
      stuck_of_walk_error plain led ⟨opened.2.1, opened.2.2.1⟩
  | ok place =>
    obtain ⟨rfl, short, paved⟩ := (walk_root_iff plain).mp led
    have looked : t.openFile place =
        if t.kind? place = some .directory then .error .isDirectory
        else .ok (t.add place .file) := by
      rw [openFile, led]
      rcases there : t.kind? place with _ | _ | _ <;> simp [bind, Except.bind, there]
    rw [looked]
    split
    · next directory => simp [directory]
    · next other => simp [short, paved, other, eq_comm]

/-- Nothing but the file is added. -/
theorem grows_of_openFile (plain : Plain path) (opened : t.openFile path = .ok u) :
    t.Grows u (· = path) := by
  obtain ⟨rfl, -⟩ := (openFile_eq_ok_iff plain).mp opened
  exact t.grows_add path .file

theorem kind?_of_openFile (plain : Plain path) (opened : t.openFile path = .ok u) :
    u.kind? path = some .file := by
  obtain ⟨rfl, -, -, notDirectory⟩ := (openFile_eq_ok_iff plain).mp opened
  refine kind?_add_self fun other apart => ?_
  cases other with
  | file => exact absurd rfl apart
  | directory => exact notDirectory

/-! ## A directory with those above it -/

/-- What it comes to where a directory is made with those above it: whether it works, and what is
there then. -/
structure Made (t : Tree) (path : Place) (result : Except Fault Unit × Tree) : Prop where
  grows : t.Grows result.2 (· <+: path)
  works : result.1 = .ok () ↔ t.Passable path ∧ Short path
  paved : result.1 = .ok () → result.2.Paved path

theorem Paved.passable (paved : t.Paved path) : t.Passable path := fun p start => by
  simp [paved p start]

theorem passable_concat_iff {name : String} :
    t.Passable (path ++ [name]) ↔ t.Passable path ∧ t.kind? (path ++ [name]) ≠ some .file := by
  simp only [Passable, List.prefix_concat_iff, forall_eq_or_imp]
  exact and_comm

/-- The directory can be made at once. -/
theorem made_of_ensureDirectory (plain : Plain path) (made : t.ensureDirectory path = .ok u) :
    t.Made path (.ok (), u) := by
  have paved := paved_of_ensureDirectory plain made
  obtain ⟨rfl, short, before, notFile⟩ := (ensureDirectory_eq_ok_iff plain).mp made
  have passable : t.Passable path := by
    rcases List.eq_nil_or_concat' path with rfl | ⟨above, name, rfl⟩
    · exact t.paved_nil.passable
    · rw [List.dropLast_concat] at before
      exact passable_concat_iff.mpr ⟨before.passable, notFile⟩
  refine ⟨?_, by simp [passable, short], fun _ => paved⟩
  exact (t.grows_add _ _).mono fun p same => same ▸ List.prefix_rfl

/-- The directory can be made at no time, for another reason than that nothing leads there. -/
theorem made_of_fault {f : Fault} (plain : Plain path)
    (failed : t.ensureDirectory path = .error f) (other : f ≠ .missing) :
    t.Made path (.error f, t) := by
  have stuck : ¬(t.Passable path ∧ Short path) := by
    rintro ⟨passable, short⟩
    rcases ensureDirectory_of_passable plain short passable with ⟨u, made⟩ | missing
    · rw [failed] at made
      cases made
    · exact other (Except.error.inj (failed.symm.trans missing))
  exact ⟨Grows.refl t _, iff_of_false (by simp) stuck, by simp⟩

/-- Where one of the directories above cannot be made, the directory cannot be made either. -/
theorem made_of_above_error {above : Place} (name : String) {f : Fault}
    (made : t.Made above (.error f, u)) : t.Made (above ++ [name]) (.error f, u) where
  grows := made.grows.concat name
  works := by
    refine iff_of_false (by simp) ?_
    rintro ⟨passable, short⟩
    have works := made.works.mpr
      ⟨(passable_concat_iff.mp passable).1, (short_append_iff.mp short).1⟩
    cases works
  paved := by simp

/-- Once the directories above have been made, all depends on the last place. -/
theorem made_of_above_ok {above : Place} {name : String} (plain : Plain (above ++ [name]))
    (made : t.Made above (.ok (), u)) :
    t.Made (above ++ [name]) (u.settled (u.ensureDirectory (above ++ [name]))) := by
  have paved : u.Paved above := made.paved rfl
  have fits := made.works.mp rfl
  -- the last place itself is none of those made so far
  have same : u.kind? (above ++ [name]) = t.kind? (above ++ [name]) :=
    made.grows.kind?_eq not_concat_prefix
  have works : (∃ v, u.ensureDirectory (above ++ [name]) = .ok v) ↔
      t.Passable (above ++ [name]) ∧ Short (above ++ [name]) := by
    simp only [ensureDirectory_eq_ok_iff plain, List.dropLast_concat, exists_eq_left, same,
      passable_concat_iff, paved, fits.1, true_and]
    exact and_comm
  refine ⟨(made.grows.concat name).settled fun last => (made_of_ensureDirectory plain last).grows,
    settled_eq_ok_iff.trans works, fun worked => ?_⟩
  obtain ⟨v, last⟩ := settled_eq_ok_iff.mp worked
  rw [last]
  exact paved_of_ensureDirectory plain last

theorem made_ensureAll (t : Tree) (plain : Plain path) :
    t.Made path (t.ensureAll path.reverse) := by
  induction path using List.reverseRecOn generalizing t with
  | nil =>
    refine ⟨Grows.refl t _, iff_of_true rfl ⟨t.paved_nil.passable, List.forall_mem_nil _⟩, ?_⟩
    exact fun _ => t.paved_nil
  | append_singleton above name ih =>
    have inner := ih t (plain_append_iff.mp plain).1
    rw [List.reverse_concat, ensureAll, List.reverse_reverse, ensureAfter]
    cases first : t.ensureDirectory (above ++ [name]) with
    | ok u => exact made_of_ensureDirectory plain first
    | error f =>
      cases f with
      | missing =>
        dsimp only
        generalize t.ensureAll above.reverse = made at inner ⊢
        obtain ⟨result, u⟩ := made
        cases result with
        | error g => exact made_of_above_error name inner
        | ok => exact made_of_above_ok plain inner
      | _ => exact made_of_fault plain first (by simp)

/-- Directories are made along plain names. -/
theorem made_makeDirectories (t : Tree) (plain : Plain path) :
    t.Made path (t.makeDirectories path) := by
  have whole : path.filter (· ≠ ".") = path :=
    List.filter_eq_self.mpr fun name member => decide_eq_true (plain name member).1
  have last : path.getLast? ≠ some "." := fun dot =>
    (plain "." (List.mem_of_getLast? dot)).1 rfl
  rw [makeDirectories, whole, if_neg last]
  exact made_ensureAll t plain

end Tree

end DeviceQuery.Files
