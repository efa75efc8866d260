import DeviceQuery.Text.Pieces

/-!
# Files that give way

An appender writes lines at the end of a file. When a line brings the file over the appender's
limit, the file becomes the latest of the older files beside it, and the next line goes to a new
file. Of the older files some are kept.
-/

namespace DeviceQuery.Log

/-- What writes a log file. -/
structure Appender where
  name : String
  path : String
  /-- The path of the older files, with a pair of braces where their numbers stand. -/
  pattern : String
  /-- The bytes that a file may have. -/
  limit : Nat
  /-- How many older files are kept. -/
  kept : Nat
deriving DecidableEq

namespace Appender

/-- The path of an older file. The latest one has the number zero. -/
def olderPath (a : Appender) (number : Nat) : String :=
  String.ofList (Text.replaced "\x7b\x7d".toList (toString number).toList a.pattern.toList)

/-- A file of so many bytes gives way to a new one. -/
def outgrown (a : Appender) (bytes : Nat) : Bool := a.limit < bytes

end Appender

/-- A log file, and the older files beside it. -/
structure LogFile where
  /-- The text of the file. There is none between a file that gave way and the next line. -/
  text? : Option String := none
  /-- The texts of the older files, the latest one first. -/
  older : List String := []
deriving DecidableEq

namespace LogFile

/-- The file is opened for writing at its end, and made if it is not there. -/
def opened (f : LogFile) : LogFile := { f with text? := some (f.text?.getD "") }

/-- A file with this text gives way: it takes the place of the latest of the older files, each of
which takes the next place. A file that has no place among those that are kept is lost. -/
def roll (a : Appender) (f : LogFile) (text : String) : LogFile :=
  { text? := none, older := (text :: f.older).take a.kept ++ f.older.drop a.kept }

/-- The file after one more line. -/
def append (a : Appender) (f : LogFile) (line : String) : LogFile :=
  let text := f.text?.getD "" ++ line
  if a.outgrown text.utf8ByteSize then f.roll a text else { f with text? := some text }

end LogFile

end DeviceQuery.Log
