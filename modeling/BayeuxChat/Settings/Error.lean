import BayeuxChat.Json.Fault

/-!
# What can be wrong with settings

Settings are refused because their file cannot be read, because the file does
not hold a settings record, or because an override is not acceptable.
-/

namespace BayeuxChat

/-- Why a file could not be read as a text. -/
inductive FileFault where
  | noSuchFile
  | isDirectory
  | notDirectory
  | nameTooLong
  | denied
  | nulInName
  | notText
  /-- Any other fault that the system reports. -/
  | other (message : String)
  deriving DecidableEq

/-- The words for a fault, as the system reports it. -/
def FileFault.message : FileFault → String
  | .noSuchFile => "No such file or directory (os error 2)"
  | .isDirectory => "Is a directory (os error 21)"
  | .notDirectory => "Not a directory (os error 20)"
  | .nameTooLong => "File name too long (os error 36)"
  | .denied => "Permission denied (os error 13)"
  | .nulInName => "file name contained an unexpected NUL byte"
  | .notText => "stream did not contain valid UTF-8"
  | .other message => message

inductive SettingsError where
  | unreadable (path : String) (fault : FileFault)
  | malformed (error : Json.ReadError)
  | unknownFlavor (word : String)
  | badRoom (name : String)
  deriving DecidableEq

/-- What is said when settings are refused. -/
def SettingsError.message (e : SettingsError) : String :=
  "configuration error: " ++
    match e with
    | .unreadable path fault => "unable to read " ++ Text.quote path ++ ": " ++ fault.message
    | .malformed error => error.message
    | .unknownFlavor word => "unknown variant " ++ Text.quote word
    | .badRoom name => "bad room name " ++ Text.quote name

end BayeuxChat
