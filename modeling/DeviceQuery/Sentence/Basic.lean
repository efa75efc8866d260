import DeviceQuery.Filter.Basic

/-!
# Sentences

A sentence is the ordered list of words that make up one request to the device.
-/

namespace DeviceQuery

/-- A word of a sentence before it is spelled out. -/
inductive Word where
  /-- A menu path with an action; the first word of every sentence. -/
  | command (text : String)
  /-- The attributes that the reply is to carry. -/
  | projection (names : List String)
  | term (t : Term)
  /-- The ids of the items that the request is about. -/
  | numbers (ids : List String)
deriving DecidableEq

/-- A list in one word: its members with commas between. -/
def commaList (members : List String) : String := ",".intercalate members

/-- A word as it is sent. -/
def Word.text : Word → String
  | command text => text
  | projection names => "=.proplist=" ++ commaList names
  | term t => t.word
  | numbers ids => "=numbers=" ++ commaList ids

/-- The words of one request, in order. -/
abbrev Sentence := List Word

namespace Sentence

/-- The words as they are sent. -/
def words (s : Sentence) : List String := s.map Word.text

/-- The words on one line with spaces between. -/
def line (s : Sentence) : String := " ".intercalate s.words

end Sentence

end DeviceQuery
