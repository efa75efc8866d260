/-!
# Faults of the file system

The reasons for which nothing can be read or written at a path, with the system's words for them,
and what is found where a file is to be read.
-/

namespace DeviceQuery.Files

/-- Why an operation on a path fails. -/
inductive Fault where
  | missing
  | denied
  | exists
  | notDirectory
  | isDirectory
  /-- A name in the path has more than 255 bytes, or the whole path more than 4095. -/
  | tooLong
  /-- The path holds the character U+0000, so it names nothing. -/
  | unnamable
deriving DecidableEq

/-- The system's text for a fault, with its number. -/
def Fault.text : Fault → String
  | missing => "No such file or directory (os error 2)"
  | denied => "Permission denied (os error 13)"
  | .exists => "File exists (os error 17)"
  | notDirectory => "Not a directory (os error 20)"
  | isDirectory => "Is a directory (os error 21)"
  | tooLong => "File name too long (os error 36)"
  | unnamable => "file name contained an unexpected NUL byte"

/-- The fault that lies in a path itself, whatever stands where. -/
def pathFault? (path : String) : Option Fault :=
  if path.toList.contains '\x00' then some .unnamable
  else if 4095 < path.utf8ByteSize then some .tooLong
  else none

/-- What is found where a file is to be read: its bytes, or a fault. -/
abbrev Found := Except Fault ByteArray

/-- Why the text of a file cannot be read. -/
inductive ReadFault where
  | system (f : Fault)
  /-- The bytes are not UTF-8. -/
  | encoding
deriving DecidableEq

/-- The fault in words. -/
def ReadFault.text : ReadFault → String
  | system f => f.text
  | encoding => "stream did not contain valid UTF-8"

/-- The text of what is found at a path. -/
def Found.read (path : String) (found : Found) : Except ReadFault String :=
  match pathFault? path, found with
  | some f, _ | none, .error f => .error (.system f)
  | none, .ok bytes =>
    match String.fromUTF8? bytes with
    | some text => .ok text
    | none => .error .encoding

end DeviceQuery.Files
