/-!
# Failures

Why a request, a stream or a set-up did not come about.
-/

namespace DeviceQuery

/-- The causes of failure. -/
inductive Failure where
  /-- A file could not be read. -/
  | io (text : String)
  /-- A text is not TOML, or not TOML for what it should hold. -/
  | toml (text : String)
  /-- A text is not JSON, or not JSON for what it should hold. -/
  | json (text : String)
  /-- A setting or a step that nothing answers to. -/
  | settings (text : String)
  /-- The device rejected the sentence; the text is the device's own. -/
  | device (text : String)
  | transport (text : String)
  /-- An operator of the filter lacks operands. -/
  | malformed (text : String)
  /-- The stream has been stopped. -/
  | closed
deriving DecidableEq

/-- The failure in words. -/
def Failure.message : Failure → String
  | io text => "I/O error: " ++ text
  | toml text => "TOML: " ++ text
  | json text => "Serde JSON: " ++ text
  | settings text => "Configuration error: " ++ text
  | device text => "Device error: " ++ text
  | transport text => "Transport error: " ++ text
  | malformed text => "Malformed filter expression: " ++ text
  | closed => "Stream closed"

end DeviceQuery
