import DeviceQuery.Proofs.Menu.Path
import DeviceQuery.Proofs.Request.Purge

/-!
# Command words

A command word is a path with an action behind it. On every menu but the root this is the path of
the two together; at the root, whose path is a slash already, an action brings one slash too many
(`command_path`). So the command words of a chain, of its reading requests and of its purge are
canonical exactly where the menu has a segment or nothing is put behind it
(`command_canonical_off_root`).
-/

namespace DeviceQuery

namespace Menu

/-- An action with segments that looks canonical, once it has its slash. -/
def Proper (action : String) : Prop := Canonical (slashed action) ∧ slashed action ≠ "/"

theorem all_isSeparator_iff {cs : List Char} : cs.all isSeparator ↔ runs cs = [] := by
  rw [List.all_eq_true]
  constructor
  · exact runs_of_separators
  · intro none
    cases laidOut_iff.mpr none.symm with
    | gap separate => exact separate

theorem exists_slashed {action : String} (some : action ≠ "") :
    ∃ rest, (slashed action).toList = '/' :: rest ∧ runs rest = runs action.toList := by
  unfold slashed
  split
  · next none => exact absurd (String.toList_eq_nil_iff.mp none) some
  · next rest chars =>
    refine ⟨rest, chars, ?_⟩
    rw [chars]
    exact (runs_append_cons isSeparator_slash [] rest).symm
  · exact ⟨action.toList, by simp, rfl⟩

theorem runs_append_slash (text action : String) :
    runs (text ++ "/" ++ action).toList = runs text.toList ++ runs action.toList := by
  simp only [String.toList_append]
  rw [List.append_assoc]
  exact runs_append_cons isSeparator_slash text.toList action.toList

/-- The slash that an action may lack makes no difference to the path. -/
theorem path_append_slashed {action : String} (some : action ≠ "") (text : String) :
    path (text ++ slashed action) = path (text ++ "/" ++ action) := by
  obtain ⟨rest, opening, same⟩ := exists_slashed some
  rw [path_eq_iff, runs_append_slash, String.toList_append, opening,
    runs_append_cons isSeparator_slash, same]

/-- A proper action is the path of its own segments, and it has some. -/
theorem Proper.slashes {action : String} (proper : Proper action) :
    runs action.toList ≠ [] ∧ (slashed action).toList = slashes (runs action.toList) := by
  obtain ⟨canonical, named⟩ := proper
  have some : action ≠ "" := by
    rintro rfl
    exact absurd canonical.rooted (by decide)
  have own : slashed action = path action := by
    have both := path_append_slashed some ""
    rw [String.empty_append] at both
    have lead : path ("" ++ "/" ++ action) = path action := by
      rw [path_eq_iff, runs_append_slash]
      rfl
    rw [← lead, ← both, path_of_canonical canonical]
  have segments : runs action.toList ≠ [] := fun none => named (own.trans (path_of_nil none))
  exact ⟨segments, own ▸ toList_path_of_ne_nil segments⟩

theorem Proper.ne_empty {action : String} (proper : Proper action) : action ≠ "" := by
  rintro rfl
  exact proper.slashes.1 rfl

/-- On a menu with segments the command is the path of the menu and the action together. At the
root it has a slash before that. -/
theorem command_path {action : String} (proper : Proper action) (text : String) :
    command (path text) action =
      (if text.toList.all isSeparator then "/" else "") ++ path (text ++ "/" ++ action) := by
  obtain ⟨named, spelled⟩ := proper.slashes
  have joined := runs_append_slash text action
  have some : runs (text ++ "/" ++ action).toList ≠ [] := by
    rw [joined]
    exact List.append_ne_nil_of_right_ne_nil _ named
  rw [← String.toList_inj, command, String.toList_append, String.toList_append,
    toList_path_of_ne_nil some, joined, slashes_append, ← spelled]
  by_cases root : runs text.toList = []
  · rw [path_of_nil root, if_pos (all_isSeparator_iff.mpr root), root]
    rfl
  · rw [toList_path_of_ne_nil root, if_neg (mt all_isSeparator_iff.mp root)]
    rfl

theorem command_path_empty (text : String) :
    command (path text) "" = path (text ++ "/" ++ "") := by
  have same : path text = path (text ++ "/" ++ "") := by
    rw [path_eq_iff, runs_append_slash]
    exact (List.append_nil _).symm
  rw [← same, command]
  exact String.append_empty

/-- Two slashes in a row are found exactly behind a slash too many. -/
theorem double_slash_iff (root : Bool) (text : String) :
    ['/', '/'] <:+: ((if root then "/" else "") ++ path text).toList ↔ root := by
  have canonical := canonical_path text
  cases root with
  | false => simpa using canonical.single
  | true =>
    obtain ⟨rest, opening⟩ := List.head?_eq_some_iff.mp canonical.rooted
    have found : ['/', '/'] <:+: '/' :: '/' :: rest := ⟨[], rest, rfl⟩
    simpa [opening] using found

end Menu

/-- The command words of the sentences that were written from one state of a link to another. -/
def Link.Commands (before after : Link) (commands : List String) : Prop :=
  ∃ sent, after.written = before.written ++ sent ∧ sent.map List.head? = commands.map some

theorem Link.commands_sent {words : List String} {command : String}
    (first : words.head? = some command) (l : Link) : l.Commands (l.sent words) [command] :=
  ⟨[words], rfl, by rw [List.map_singleton, first]; rfl⟩

theorem Link.Commands.trans {first second third : Link} {commands more : List String}
    (early : first.Commands second commands) (late : second.Commands third more) :
    first.Commands third (commands ++ more) := by
  obtain ⟨sent, written, heads⟩ := early
  obtain ⟨later, writtenLater, headsLater⟩ := late
  refine ⟨sent ++ later, by rw [writtenLater, written, List.append_assoc], ?_⟩
  rw [List.map_append, List.map_append, heads, headsLater]

namespace Chain

theorem proper_printAction : Menu.Proper printAction :=
  ⟨Menu.canonical_iff.mpr (by decide), by decide⟩

theorem proper_removeAction : Menu.Proper removeAction :=
  ⟨Menu.canonical_iff.mpr (by decide), by decide⟩

theorem commands_get (q : Chain) (link : Link) :
    link.Commands (q.get link).link
      (if (q.assemble printAction).isOk then [Menu.command q.path printAction] else []) := by
  unfold get
  cases assembled : q.assemble printAction with
  | error failure => exact ⟨[], (List.append_nil _).symm, rfl⟩
  | ok s =>
    have first : s.words.head? = some (Menu.command q.path printAction) := by
      rw [eq_sentence_of_assemble assembled]
      rfl
    dsimp only
    rw [send_link]
    exact link.commands_sent first

theorem commands_purge (q : Chain) (link : Link) :
    link.Commands (q.purge link).link
      (Menu.command q.path printAction ::
        if link.nextReply.isOk then [Menu.command q.path removeAction] else []) := by
  have asked : link.Commands (link.sent q.idSentence.words) [Menu.command q.path printAction] :=
    link.commands_sent rfl
  cases replied : link.nextReply with
  | error failure =>
    rw [(purge_of_error replied).2]
    exact asked
  | ok rows =>
    rw [(purge_of_ok replied).2]
    exact asked.trans (Link.commands_sent rfl _)

end Chain

/-- The command word of a chain is the path of its text and the action together, and so are those
that a reading request and a purge write. Only at the root, where the text has nothing but
separators, an action brings one slash too many: the command word is then not canonical and holds
two slashes in a row, which it holds nowhere else. -/
theorem command_canonical_off_root (text : String) (settings : Settings) (calls : List Call) :
    let q := (Chain.on text settings).applyAll calls
    let root := text.toList.all Menu.isSeparator
    let word (joined : String) := (if root then "/" else "") ++ Menu.path joined
    (q.sentence "").words.head? = some (Menu.path (text ++ "/" ++ "")) ∧
    (∀ action, Menu.Proper action →
      (q.sentence action).words.head? = some (word (text ++ "/" ++ action))) ∧
    (∀ link : Link, link.Commands (q.get link).link
      (if (q.assemble Chain.printAction).isOk then [word (text ++ "/print")] else [])) ∧
    (∀ link : Link, link.Commands (q.purge link).link
      (word (text ++ "/print") ::
        if link.nextReply.isOk then [word (text ++ "/remove")] else [])) ∧
    ∀ joined, ¬['/', '/'] <:+: (Menu.path joined).toList ∧
      (['/', '/'] <:+: (word joined).toList ↔ root) ∧ (word joined = Menu.path joined ↔ ¬root) := by
  intro q root word
  have path : q.path = Menu.path text := Chain.applyAll_path _ calls
  have spelled {action : String} (proper : Menu.Proper action) :
      Menu.command q.path action = word (text ++ "/" ++ action) := by
    rw [path, Menu.command_path proper]
  -- an action that has its slash already needs no other one
  have put {action : String} (proper : Menu.Proper action) (led : Menu.slashed action = action) :
      Menu.command q.path action = word (text ++ action) := by
    have same := Menu.path_append_slashed proper.ne_empty text
    rw [led] at same
    rw [spelled proper]
    exact congrArg (fun joined => (if root then "/" else "") ++ joined) same.symm
  have printed := put Chain.proper_printAction rfl
  have removed := put Chain.proper_removeAction rfl
  refine ⟨?_, ?_, ?_, ?_, ?_⟩
  · rw [Chain.sentence_words, path, Menu.command_path_empty]
    rfl
  · intro action proper
    rw [Chain.sentence_words, spelled proper]
    rfl
  · exact fun link => printed ▸ q.commands_get link
  · exact fun link => printed ▸ removed ▸ q.commands_purge link
  · intro joined
    have single := (Menu.canonical_path joined).single
    have double := Menu.double_slash_iff root joined
    refine ⟨single, double, ?_, ?_⟩
    · intro same atRoot
      exact single (same ▸ double.mpr atRoot)
    · intro elsewhere
      simp [word, elsewhere]

/-- A menu with segments, however its text is spelled, has canonical command words. -/
theorem command_canonical_off_root_spaced :
    let q := (Chain.on " ip address/" {}).applyAll [.given (.key "disabled")]
    (q.sentence "").words.head? = some "/ip/address" ∧
    (q.sentence "set/now").words.head? = some "/ip/address/set/now" ∧
    ({} : Link).Commands (q.purge {}).link ["/ip/address/print", "/ip/address/remove"] := by
  intro q
  obtain ⟨bare, spelled, -, removing, -⟩ :=
    command_canonical_off_root " ip address/" {} [.given (.key "disabled")]
  have proper : Menu.Proper "set/now" := ⟨Menu.canonical_iff.mpr (by decide), by decide⟩
  refine ⟨bare.trans (by decide), (spelled "set/now" proper).trans (by decide), ?_⟩
  exact removing {}

/-- At the root the command word of a print is not the path of the root and the print. -/
theorem command_doubled_at_root :
    ((Chain.on "/" {}).sentence "/print").words.head? = some "//print" ∧
      Menu.path ("/" ++ "/" ++ "/print") = "/print" ∧ Menu.Proper "/print" := by
  exact ⟨by decide, by decide, Chain.proper_printAction⟩

end DeviceQuery
