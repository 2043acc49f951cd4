import LogView.Config.Viewer
import LogView.Files
import LogView.Rule.List
import LogView.Toml.Document

/-!
# Configuration files

A configuration file is a TOML text that sets the viewer up, with no more rules than a session
takes.
-/

namespace LogView

inductive ConfigTextFault where
  | malformed
  | setting (fault : SettingFault)
  deriving Repr, DecidableEq

def ConfigTextFault.message : ConfigTextFault → String
  | malformed => "TOML parse error: malformed text"
  | setting fault => "TOML parse error: " ++ fault.message

inductive ConfigFault where
  | unread (path : String) (fault : FileFault)
  | unfit (path : String) (fault : ConfigTextFault)
  | tooManyRules (path : String) (count : Nat)
  deriving Repr, DecidableEq

namespace ConfigFault

def message : ConfigFault → String
  | unread path fault => "Failed to read config file '" ++ path ++ "': " ++ fault.message
  | unfit path fault => "Failed to parse config file '" ++ path ++ "': " ++ fault.message
  | tooManyRules path count =>
    "Invalid config file '" ++ path ++
      s!"': {count} rules defined, at most {maxRules} are allowed"

def chain (fault : ConfigFault) : List String :=
  match fault with
  | unread _ cause => [fault.message, cause.message]
  | unfit _ cause => [fault.message, cause.message]
  | tooManyRules _ _ => [fault.message]

end ConfigFault

namespace ViewerConfig

def ofText (text : String) : Except ConfigTextFault ViewerConfig :=
  match Toml.read text with
  | none => .error .malformed
  | some setting => (schema .toml setting).mapError .setting

def ofContent (path : String) (content : Except FileFault ByteArray) :
    Except ConfigFault ViewerConfig := do
  let bytes ← content.mapError (.unread path)
  match String.fromUTF8? bytes with
  | none => .error (.unread path .notText)
  | some text =>
    let config ← (ofText text).mapError (.unfit path)
    if maxRules < config.rules.length then .error (.tooManyRules path config.rules.length)
    else .ok config

def read (files : Files) (path : String) : Except ConfigFault ViewerConfig :=
  ofContent path (files.read path)

end ViewerConfig

end LogView
