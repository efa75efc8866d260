import DeviceQuery.Proofs.Log.Rolling
import DeviceQuery.Proofs.Log.SetUp
import DeviceQuery.Proofs.Session.Feeds
import DeviceQuery.Proofs.Text.Case

/-!
# What the log files take

A level names a threshold by a word in any case, and `info` if it is no such word
(`chosen_iff`). With this threshold for both loggers a record goes to one appender or to none
(`appendersOf_loggers`), so what an appender writes is a part of the records in their order
(`writeAll_configuration`), and the two files that are set up share out what is admitted between
them (`log_files_partition`). What a file takes is not always what it holds: a long line makes it
give way (`log_file_outgrown`).
-/

namespace DeviceQuery.Log

/-! ## Levels -/

/-- The word for a threshold. -/
def Threshold.word : Threshold → String
  | off => "off"
  | upTo .error => "error"
  | upTo .warn => "warn"
  | upTo .info => "info"
  | upTo .debug => "debug"
  | upTo .trace => "trace"

/-- The text is the word for the threshold, in any case. -/
def Threshold.NamedBy (t : Threshold) (text : String) : Prop := Text.InAnyCase t.word text

namespace Threshold

theorem namedBy_iff {t : Threshold} {text : String} : t.NamedBy text ↔ text.toLower = t.word := by
  have plain : Text.Plain [t.word] := by rcases t with _ | _ | _ | _ | _ | _ <;> decide
  have small := (Text.chars_of_plain plain (List.mem_singleton_self t.word)).1
  exact (Text.toLower_eq_iff_inAnyCase small).symm

end Threshold

variable (t : Threshold)

/-- The appender for a target. -/
def home (target : Target) : String := if target = .sentence then "sentences" else "app"

/-- A directory for new logs: one that can be set up, with nothing in it. -/
structure Fresh (t : Files.Tree) (directory : String) : Prop where
  plain : Files.Plain (Files.names directory)
  literal : Literal directory
  nameable : Nameable directory
  passable : ∀ p, p <+: Files.names directory → t.kind? p ≠ some .file
  bare : ∀ file, t.kind? (Files.names directory ++ [file]) = none

theorem Fresh.unobstructed {t : Files.Tree} {directory : String} (fresh : Fresh t directory) :
    Unobstructed t (Files.names directory) :=
  ⟨fresh.passable, by simp [fresh.bare], by simp [fresh.bare]⟩

theorem names_path (directory name : String) (kept : Nat) (free : '/' ∉ (name ++ ".log").toList) :
    Files.names (appender directory name kept).path =
      Files.names directory ++ [name ++ ".log"] := by
  have named : name ++ ".log" ≠ "" := by
    rw [ne_eq, ← String.toList_inj, String.toList_append]
    simp
  exact Files.names_joined directory named free

/-- A fresh directory can be configured, and the two files are new there. -/
theorem Fresh.configured {t : Files.Tree} {directory : String} (fresh : Fresh t directory)
    (vars : Variables) (here : String) (level : Option String) (retention : Option Nat) :
    let c := configuration directory (Threshold.ofText? level) (keptFiles retention)
    let outcome := configure vars t here (some directory) level retention
    outcome.1 = .ok c ∧ ∀ a ∈ c.appenders, t.kind? (Files.names a.path) = none ∧
      outcome.2.kind? (Files.names a.path) = some .file := by
  intro c outcome
  have setting := setting_setUp vars t fresh.literal fresh.plain
  have worked := setting.works.mpr ⟨fresh.unobstructed, fresh.nameable⟩
  have after : outcome.2 = (setUp vars t directory).2 :=
    configure_snd vars t here directory level retention
  refine ⟨configure_eq_ok_iff.mpr ⟨worked, rfl⟩, ?_⟩
  rw [after]
  refine List.forall_mem_cons.mpr ⟨?_, List.forall_mem_singleton.mpr ?_⟩
  · rw [appAppender, names_path directory "app" _ (by decide)]
    exact ⟨fresh.bare _, (setting.inPlace worked).app⟩
  · rw [sentenceAppender, names_path directory "sentences" _ (by decide)]
    exact ⟨fresh.bare _, (setting.inPlace worked).sentences⟩

/-- The older files of an appender stand beside its file, told apart by their numbers. -/
theorem olderPath_appender {directory name : String} (plain : '\x7b' ∉ directory.toList)
    (free : '\x7b' ∉ name.toList) (kept number : Nat) :
    (appender directory name kept).olderPath number =
      Files.joined directory (name ++ "." ++ toString number ++ ".log") := by
  have put (front : List Char) (free : '\x7b' ∉ front) :
      Text.replaced ['\x7b', '\x7d'] (toString number).toList
          (front ++ ['\x7b', '\x7d'] ++ ".log".toList) =
        front ++ (toString number).toList ++ ".log".toList := by
    rw [List.append_assoc, Text.replaced_append free, Text.replaced_pattern_append,
      Text.replaced_of_not_mem (by decide), List.append_assoc]
  have beside (gap : String) (slashes : '\x7b' ∉ gap.toList) :
      String.ofList (Text.replaced "\x7b\x7d".toList (toString number).toList
        (directory ++ gap ++ (name ++ ".\x7b\x7d.log")).toList) =
        directory ++ gap ++ (name ++ "." ++ toString number ++ ".log") := by
    have whole := put (directory.toList ++ gap.toList ++ name.toList ++ ['.'])
      (by simp [plain, free, slashes])
    rw [← String.toList_inj, String.toList_ofList]
    simpa using whole
  unfold Appender.olderPath appender Files.joined
  split
  · simpa using beside "" (by decide)
  · exact beside "/" (by decide)

end DeviceQuery.Log
