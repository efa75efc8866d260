import DeviceQuery.Log.Configuration
import DeviceQuery.Proofs.Files.Growth
import DeviceQuery.Proofs.Files.Paths

/-!
# What setting up the logs touches

In a directory of plain names that mentions no variables, a log file is opened at the place that
its path spells (`opened_openLog`). So a set-up works exactly where nothing stands in its way and
the system can name the files, and however it ends, all that it adds is the directory, those above
it and the two files (`setting_setUp`). To configure the logs comes to the same, whoever names the
directory (`configure_keeps_to_own_places`).
-/

namespace DeviceQuery.Log

open Files

/-- The path mentions no variable. -/
def Literal (path : String) : Prop := ¬opening <:+: path.toList

instance (path : String) : Decidable (Literal path) := inferInstanceAs (Decidable (¬_))

theorem mentioned_of_literal {cs : List Char} (literal : ¬opening <:+: cs) : mentioned cs = [] := by
  induction cs with
  | nil => rfl
  | cons c rest ih =>
    have here : opening.isPrefixOf (c :: rest) = false :=
      Bool.eq_false_iff.mpr fun starts => literal (List.isPrefixOf_iff_prefix.mp starts).isInfix
    have later : mentioned rest = [] :=
      ih fun inside => literal (List.infix_cons_iff.mpr (.inr inside))
    rw [mentioned, here, later]
    rfl

theorem expandedPath_of_literal {path : String} (literal : Literal path) (vars : Variables) :
    expandedPath vars path = path := by
  rw [expandedPath, mentioned_of_literal literal, List.foldl_nil, String.ofList_toList]

/-- What ends in a character that the back does not hold stands in the front. -/
theorem infix_of_infix_append {α : Type} {init front back : List α} {last : α} (free : last ∉ back)
    (inside : init ++ [last] <:+: front ++ back) : init ++ [last] <:+: front := by
  obtain ⟨before, after, whole⟩ := inside
  rcases List.append_eq_append_iff.mp whole with ⟨rest, cut, -⟩ | ⟨rest, cut, behind⟩
  · exact ⟨before, rest, cut.symm⟩
  · rcases List.eq_nil_or_concat' rest with rfl | ⟨rest, other, rfl⟩
    · exact ⟨before, [], by rw [← List.append_nil front, ← cut, List.append_nil]⟩
    · -- otherwise the last one would stand in the back
      have ends : (before ++ init) ++ [last] = (front ++ rest) ++ [other] := by
        rw [List.append_assoc, cut, List.append_assoc]
      cases (List.append_inj' ends rfl).2
      exact absurd (by simp [behind]) free

theorem literal_joined {directory file : String} (literal : Literal directory)
    (free : '\x7b' ∉ file.toList) : Literal (joined directory file) := by
  intro inside
  obtain ⟨gap, chars, slashes⟩ := toList_joined directory file
  rw [chars] at inside
  have behind : '\x7b' ∉ gap ++ file.toList := fun member =>
    (List.mem_append.mp member).elim (fun inGap => absurd (slashes _ inGap) (by decide)) free
  exact literal (@infix_of_infix_append _ ['$', 'E', 'N', 'V'] _ _ '\x7b' behind inside)

variable {t u : Tree} {place p : Place}

/-! ## A log file -/

/-- What it comes to where a file is opened in a directory, by a path that leads there. -/
structure Opened (t : Tree) (place : Place) (file path : String)
    (result : Except Fault Unit × Tree) : Prop where
  grows : t.Grows result.2 (· <+: place ++ [file])
  works : result.1 = .ok () ↔
    (t.Passable place ∧ t.kind? (place ++ [file]) ≠ some .directory) ∧
      Short (place ++ [file]) ∧ pathFault? path = none
  paved : result.1 = .ok () → result.2.Paved place
  opened : result.1 = .ok () → result.2.kind? (place ++ [file]) = some .file

/-- A file is opened once its directory is there. -/
theorem opened_of_made {file path : String} (plain : Plain (place ++ [file]))
    (named : pathFault? path = none) (made : t.Made place (.ok (), u)) :
    Opened t place file path (u.settled (u.openFile (place ++ [file]))) := by
  have fits := made.works.mp rfl
  have same : u.kind? (place ++ [file]) = t.kind? (place ++ [file]) :=
    made.grows.kind?_eq not_concat_prefix
  have works : (∃ v, u.openFile (place ++ [file]) = .ok v) ↔
      (t.Passable place ∧ t.kind? (place ++ [file]) ≠ some .directory) ∧
        Short (place ++ [file]) ∧ pathFault? path = none := by
    simp only [Tree.openFile_eq_ok_iff plain, List.dropLast_concat, exists_eq_left, same,
      made.paved rfl, fits.1, named, true_and, and_true]
    exact and_comm
  refine ⟨(made.grows.concat file).settled fun last => ?_, Tree.settled_eq_ok_iff.trans works,
    fun worked => ?_, fun worked => ?_⟩
  · exact (Tree.grows_of_openFile plain last).mono fun p same => same ▸ List.prefix_rfl
  · obtain ⟨v, last⟩ := Tree.settled_eq_ok_iff.mp worked
    rw [last]
    exact fun p start => (Tree.grows_of_openFile plain last).kept (made.paved rfl p start)
  · obtain ⟨v, last⟩ := Tree.settled_eq_ok_iff.mp worked
    rw [last]
    exact Tree.kind?_of_openFile plain last

theorem opened_openLog (vars : Variables) (t : Tree) {file path : String} (literal : Literal path)
    (leads : names path = place ++ [file]) (plain : Plain (place ++ [file])) :
    Opened t place file path (openLog vars t path) := by
  have whole : (place ++ [file]).filter (· ≠ ".") = place ++ [file] :=
    List.filter_eq_self.mpr fun name member => decide_eq_true (plain name member).1
  rw [openLog, expandedPath_of_literal literal]
  dsimp only
  rw [leads, whole, List.dropLast_concat]
  cases named : pathFault? path with
  | some f =>
    refine ⟨Tree.Grows.refl t _, iff_of_false (by simp) fun passes => ?_, by simp, by simp⟩
    rw [passes.2.2] at named
    cases named
  | none =>
    dsimp only
    have made := t.made_makeDirectories (plain_append_iff.mp plain).1
    generalize t.makeDirectories place = result at made ⊢
    obtain ⟨result, u⟩ := result
    cases result with
    | ok => exact opened_of_made plain named made
    | error f =>
      refine ⟨made.grows.concat file, iff_of_false (by simp) fun passes => ?_, by simp, by simp⟩
      have works := made.works.mpr ⟨passes.1.1, (short_append_iff.mp passes.2.1).1⟩
      cases works

/-! ## Both of them -/

/-- The places of the logs in a directory: the directory, those above it, and the two files. -/
def Own (place p : Place) : Prop :=
  p <+: place ∨ p = place ++ ["app.log"] ∨ p = place ++ ["sentences.log"]

/-- Nothing stands in the way of the logs: no file where a directory is needed, and no directory in
place of a file. -/
structure Unobstructed (t : Tree) (place : Place) : Prop where
  passable : ∀ p, p <+: place → t.kind? p ≠ some .file
  app : t.kind? (place ++ ["app.log"]) ≠ some .directory
  sentences : t.kind? (place ++ ["sentences.log"]) ≠ some .directory

/-- The system can name the directory and the files in it. -/
structure Nameable (directory : String) : Prop where
  names : ∀ name ∈ names directory, name.utf8ByteSize ≤ 255
  path : (joined directory "sentences.log").utf8ByteSize ≤ 4095
  text : '\x00' ∉ directory.toList

/-- The logs are there. -/
structure InPlace (t : Tree) (place : Place) : Prop where
  directories : ∀ p, p <+: place → t.kind? p = some .directory
  app : t.kind? (place ++ ["app.log"]) = some .file
  sentences : t.kind? (place ++ ["sentences.log"]) = some .file

theorem Nameable.pathFault? {directory : String} (nameable : Nameable directory) :
    Files.pathFault? directory = none ∧ Files.pathFault? (joined directory appFile) = none ∧
      Files.pathFault? (joined directory sentenceFile) = none := by
  have app : (joined directory appFile).utf8ByteSize ≤ 4095 :=
    (utf8ByteSize_joined_le (by decide) directory).trans nameable.path
  have itself : directory.utf8ByteSize ≤ 4095 :=
    (utf8ByteSize_le_joined directory _).trans nameable.path
  have text {file : String} (free : '\x00' ∉ file.toList) :
      '\x00' ∉ (joined directory file).toList :=
    fun member => nameable.text ((mem_joined_iff (by decide) free).mp member)
  simp only [pathFault?_eq_none_iff]
  exact ⟨⟨nameable.text, itself⟩, ⟨text (by decide), app⟩, ⟨text (by decide), nameable.path⟩⟩

/-- What a set-up comes to: whether it works, and what is there then. -/
structure Setting (t : Tree) (directory : String) (result : Except Fault Unit × Tree) : Prop where
  grows : t.Grows result.2 (Own (names directory))
  works : result.1 = .ok () ↔ Unobstructed t (names directory) ∧ Nameable directory
  inPlace : result.1 = .ok () → InPlace result.2 (names directory)

theorem own_of_prefix (start : p <+: place) : Own place p := .inl start

theorem own_of_app (start : p <+: place ++ [appFile]) : Own place p :=
  (List.prefix_concat_iff.mp start).elim (fun same => .inr (.inl same)) .inl

theorem own_of_sentences (start : p <+: place ++ [sentenceFile]) : Own place p :=
  (List.prefix_concat_iff.mp start).elim (fun same => .inr (.inr same)) .inl

theorem setting_of_stuck {directory : String} {f : Fault}
    (grows : t.Grows u (Own (names directory)))
    (stuck : Unobstructed t (names directory) → ¬Nameable directory) :
    Setting t directory (.error f, u) :=
  ⟨grows, iff_of_false (by simp) fun passes => stuck passes.1 passes.2, by simp⟩

/-- Once the directory and the application log are there, all depends on the sentence log. -/
theorem setting_of_opened {directory : String} {v : Tree} {result : Except Fault Unit × Tree}
    (named : Files.pathFault? directory = none) (made : t.Made (names directory) (.ok (), u))
    (app : Opened u (names directory) appFile (joined directory appFile) (.ok (), v))
    (sentences : Opened v (names directory) sentenceFile (joined directory sentenceFile) result) :
    Setting t directory result := by
  have appKind : u.kind? (names directory ++ [appFile]) =
      t.kind? (names directory ++ [appFile]) := made.grows.kind?_eq not_concat_prefix
  have sentenceKind : v.kind? (names directory ++ [sentenceFile]) =
      t.kind? (names directory ++ [sentenceFile]) := by
    have apart : ¬names directory ++ [sentenceFile] <+: names directory ++ [appFile] := by
      intro start
      rcases List.prefix_concat_iff.mp start with same | start
      · exact absurd (List.append_cancel_left same) (by decide)
      · exact not_concat_prefix start
    rw [app.grows.kind?_eq apart, made.grows.kind?_eq not_concat_prefix]
  refine ⟨?_, ?_, fun worked => ⟨sentences.paved worked, ?_, sentences.opened worked⟩⟩
  · have first : t.Grows u (Own (names directory)) := made.grows.mono fun p => own_of_prefix
    have second : u.Grows v (Own (names directory)) := app.grows.mono fun p => own_of_app
    exact (first.trans second).trans (sentences.grows.mono fun p => own_of_sentences)
  · have fits := made.works.mp rfl
    rw [sentences.works, sentenceKind]
    constructor
    · rintro ⟨⟨-, notDirectory⟩, -, path⟩
      refine ⟨⟨fits.1, ?_, notDirectory⟩, fits.2, (pathFault?_eq_none_iff.mp path).2,
        (pathFault?_eq_none_iff.mp named).1⟩
      exact appKind ▸ (app.works.mp rfl).1.2
    · rintro ⟨clear, nameable⟩
      exact ⟨⟨(app.paved rfl).passable, clear.sentences⟩,
        short_append_iff.mpr ⟨nameable.names, by decide⟩, nameable.pathFault?.2.2⟩
  · exact sentences.grows.kept (app.opened rfl)

theorem setting_setUp (vars : Variables) (t : Tree) {directory : String}
    (literal : Literal directory) (plain : Plain (names directory)) :
    Setting t directory (setUp vars t directory) := by
  have opens (u : Tree) {file : String} (named : file ≠ "") (free : '/' ∉ file.toList)
      (unbraced : '\x7b' ∉ file.toList) (undotted : file ≠ "." ∧ file ≠ "..") :
      Opened u (names directory) file (joined directory file)
        (openLog vars u (joined directory file)) :=
    opened_openLog vars u (literal_joined literal unbraced) (names_joined directory named free)
      (plain_append_iff.mpr ⟨plain, List.forall_mem_singleton.mpr undotted⟩)
  rw [setUp]
  cases named : Files.pathFault? directory with
  | some f =>
    refine setting_of_stuck (Tree.Grows.refl t _) fun _ nameable => ?_
    rw [nameable.pathFault?.1] at named
    cases named
  | none =>
    dsimp only
    have made := t.made_makeDirectories plain
    generalize t.makeDirectories (names directory) = result at made ⊢
    obtain ⟨result, u⟩ := result
    cases result with
    | error f =>
      refine setting_of_stuck (made.grows.mono fun p => own_of_prefix) fun clear nameable => ?_
      cases made.works.mpr ⟨clear.passable, nameable.names⟩
    | ok =>
      dsimp only
      have app := opens u (by decide : appFile ≠ "") (by decide) (by decide) (by decide)
      generalize openLog vars u (joined directory appFile) = result at app ⊢
      obtain ⟨result, v⟩ := result
      cases result with
      | error f =>
        have first : t.Grows u (Own (names directory)) := made.grows.mono fun p => own_of_prefix
        refine setting_of_stuck (first.trans (app.grows.mono fun p => own_of_app))
          fun clear nameable => ?_
        have notDirectory : u.kind? (names directory ++ [appFile]) ≠ some .directory := by
          rw [made.grows.kind?_eq not_concat_prefix]
          exact clear.app
        cases app.works.mpr ⟨⟨(made.paved rfl).passable, notDirectory⟩,
          short_append_iff.mpr ⟨nameable.names, by decide⟩, nameable.pathFault?.2.1⟩
      | ok =>
        exact setting_of_opened named made app
          (opens v (by decide : sentenceFile ≠ "") (by decide) (by decide) (by decide))

/-- A directory that mentions no variables is set up alike whatever they are. -/
theorem setUp_congr (vars others : Variables) (t : Tree) {directory : String}
    (literal : Literal directory) : setUp vars t directory = setUp others t directory := by
  have opens (u : Tree) {file : String} (unbraced : '\x7b' ∉ file.toList) :
      openLog vars u (joined directory file) = openLog others u (joined directory file) := by
    simp only [openLog, expandedPath_of_literal (literal_joined literal unbraced)]
  have app (u : Tree) := opens u (by decide : '\x7b' ∉ appFile.toList)
  have sentences (u : Tree) := opens u (by decide : '\x7b' ∉ sentenceFile.toList)
  simp only [setUp, app, sentences]

/-! ## Configurations -/

theorem configure_snd (vars : Variables) (t : Tree) (here directory : String)
    (level : Option String) (retention : Option Nat) :
    (configure vars t here (some directory) level retention).2 = (setUp vars t directory).2 := by
  unfold configure
  dsimp only [Option.getD_some]
  split <;> next worked => rw [worked]

theorem configure_eq_ok_iff {vars : Variables} {here directory : String} {level : Option String}
    {retention : Option Nat} {c : Configuration} :
    (configure vars t here (some directory) level retention).1 = .ok c ↔
      (setUp vars t directory).1 = .ok () ∧
        c = configuration directory (Threshold.ofText? level) (keptFiles retention) := by
  unfold configure
  dsimp only [Option.getD_some]
  split <;> next worked => simp [worked, eq_comm]

/-- A name of 256 letters is a plain name without variables, and in the empty tree nothing stands in
the way of the logs below it, but no directory can have it. -/
theorem long_name_refused :
    let directory := String.ofList (List.replicate 256 'n')
    Plain (names directory) ∧ Literal directory ∧ Unobstructed [] (names directory) ∧
      ¬∃ c, (configure (fun _ => none) [] "/" (some directory) none none).1 = .ok c := by
  intro directory
  have letters {c : Char} (member : c ∈ directory.toList) : c = 'n' := by
    rw [String.toList_ofList] at member
    exact List.eq_of_mem_replicate member
  have size : directory.utf8ByteSize = 256 := by decide +kernel
  have other {name : String} (shorter : name.utf8ByteSize ≠ 256) : directory ≠ name := by
    rintro rfl
    exact shorter size
  have leads : names directory = [directory] :=
    names_of_free (other (by decide)) fun member => absurd (letters member) (by decide)
  have plain : Plain (names directory) := by
    rw [leads]
    exact List.forall_mem_singleton.mpr ⟨other (by decide), other (by decide)⟩
  have literal : Literal directory := fun inside =>
    absurd (letters (inside.subset (by decide : '$' ∈ opening))) (by decide)
  have bare (p : Place) (k : Kind) : Tree.kind? [] p = some k → p = [] ∧ k = .directory := by
    unfold Tree.kind?
    split
    · next root => exact fun same => ⟨root, (Option.some.inj same).symm⟩
    · intro found
      cases found
  have clear : Unobstructed [] (names directory) :=
    ⟨fun p _ file => absurd (bare p _ file).2 (by decide),
      fun found => absurd (bare _ _ found).1 (by simp),
      fun found => absurd (bare _ _ found).1 (by simp)⟩
  refine ⟨plain, literal, clear, ?_⟩
  rintro ⟨c, configured⟩
  have setting := setting_setUp (fun _ => none) [] literal plain
  have nameable := (setting.works.mp (configure_eq_ok_iff.mp configured).1).2
  have short := nameable.names directory (by rw [leads]; exact List.mem_singleton_self _)
  omega

/-- To set up the logs in a directory of plain names that mentions no variables works exactly if
nothing stands in the way and the system can name the files, whatever the level and the number of
older files are. Whether it works or not, all that was there before is there still, and nothing is
added but the directory, those above it and the two files. If it works, all of them are there. The
variables do the same by naming the directory, whatever else they say. -/
theorem configure_keeps_to_own_places (vars : Variables) (t : Tree) (here directory : String)
    (level : Option String) (retention : Option Nat) (plain : Plain (names directory))
    (literal : Literal directory) :
    let place := names directory
    let outcome := configure vars t here (some directory) level retention
    ((∃ c, outcome.1 = .ok c) ↔ Unobstructed t place ∧ Nameable directory) ∧
    (∀ p k, t.kind? p = some k → outcome.2.kind? p = some k) ∧
    (∀ p, t.kind? p = none → outcome.2.kind? p ≠ none → Own place p) ∧
    ((∃ c, outcome.1 = .ok c) → InPlace outcome.2 place) ∧
    ∀ others : Variables, others directoryVariable = some directory →
      ((∃ c, (configureFromVariables others t here).1 = .ok c) ↔ ∃ c, outcome.1 = .ok c) ∧
      (configureFromVariables others t here).2 = outcome.2 := by
  intro place outcome
  have setting := setting_setUp vars t literal plain
  have works : (∃ c, outcome.1 = .ok c) ↔ (setUp vars t directory).1 = .ok () := by
    simp only [outcome, configure_eq_ok_iff, exists_and_left, exists_eq, and_true]
  have after : outcome.2 = (setUp vars t directory).2 :=
    configure_snd vars t here directory level retention
  refine ⟨works.trans setting.works, ?_, ?_, ?_, ?_⟩
  · rw [after]
    exact fun p k => setting.grows.kept
  · rw [after]
    exact fun p => setting.grows.added
  · rw [works, after]
    exact setting.inPlace
  · intro others named
    have same := setUp_congr others vars t literal
    rw [works, after, configureFromVariables, named, configure_snd, same]
    refine ⟨?_, rfl⟩
    simp only [configure_eq_ok_iff, exists_and_left, exists_eq, and_true, same]

/-- A directory in place of the sentence log is found only after the application log has been made;
elsewhere in the same tree the set-up works, and makes what leads there. -/
theorem configure_keeps_to_own_places_half_way :
    let t : Tree := [(["srv"], .directory), (["srv", "sentences.log"], .directory)]
    let vars : Variables := fun name =>
      if name = "ROSQUERY_LOG_DIR" then some "/srv" else some "$ENV\x7bROSQUERY_LOG_DIR\x7d"
    (Plain (names "/srv") ∧ Literal "/srv") ∧ vars directoryVariable = some "/srv" ∧
      (¬∃ c, (configureFromVariables vars t "/").1 = .ok c) ∧
      (configureFromVariables vars t "/").2 = t ++ [(["srv", "app.log"], .file)] ∧
      (Plain (names "/srv//a/b/") ∧ Literal "/srv//a/b/") ∧
      InPlace (configure vars t "/" (some "/srv//a/b/") (some "off") (some 0)).2
        ["srv", "a", "b"] := by
  intro t vars
  have plain : Plain (names "/srv") ∧ Literal "/srv" := by decide +kernel
  have deep : Plain (names "/srv//a/b/") ∧ Literal "/srv//a/b/" := by decide +kernel
  obtain ⟨works, -, -, -, byVariables⟩ :=
    configure_keeps_to_own_places vars t "/" "/srv" none none plain.1 plain.2
  obtain ⟨same, left⟩ := byVariables vars rfl
  obtain ⟨worksDeep, -, -, made, -⟩ :=
    configure_keeps_to_own_places vars t "/" "/srv//a/b/" (some "off") (some 0) deep.1 deep.2
  have blocked : ¬Unobstructed t (names "/srv") := fun clear =>
    clear.sentences (by decide +kernel)
  have clear : Unobstructed t (names "/srv//a/b/") := by
    refine ⟨fun p start => ?_, by decide +kernel, by decide +kernel⟩
    have noFile : ∀ e ∈ t, e.2 = .directory := by decide
    unfold Tree.kind?
    split
    · simp
    · cases found : t.find? fun e => e.1 = p with
      | none => simp
      | some e => simp [noFile e (List.mem_of_find?_eq_some found)]
  have nameable : Nameable "/srv//a/b/" :=
    ⟨by decide +kernel, by decide +kernel, by decide +kernel⟩
  refine ⟨plain, rfl, ?_, left.trans (by decide +kernel), deep, ?_⟩
  · rw [same, works]
    exact fun passes => blocked passes.1
  · have place : names "/srv//a/b/" = ["srv", "a", "b"] := by decide +kernel
    exact place ▸ made (worksDeep.mpr ⟨clear, nameable⟩)

end DeviceQuery.Log
