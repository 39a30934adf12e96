import Shorthand.EnvFile
import Shorthand.Files
import Shorthand.Settings.CommandLine
import Shorthand.Text.Charset
import Shorthand.Text.Blank

/-!
Looking settings up. Each is taken from the first of these that has it: the words of a command line,
what is given directly, the environment, the files of variables, the directories of secrets, and its
default. Names that are no setting's are passed over. Options, which are given together with the
settings, change where and how it is looked; case does not matter in the names of variables unless an
option says so.
-/

namespace Shorthand.Settings

open Schema

/-- Why there are no settings. -/
inductive SettingsError where
  | invalid (details : List Detail)
  /-- A file of variables is no text. -/
  | undecodable (flaw : Text.CharsetFlaw)
  | unknownCharset (name : String)
  /-- The name is that of a coding, but not of a character set. -/
  | noCharset (name : String)
  /-- An option has a value of the wrong kind. -/
  | optionType
  /-- A word of the command line has no meaning. -/
  | meaninglessWord
  /-- What should be a directory of secrets is a file. -/
  | secretsInFile
  /-- The secret of this name is no text. -/
  | unreadableSecret (name : String)
deriving DecidableEq, Repr

/-- The message of an error, if it has one of its own. -/
def SettingsError.message? : SettingsError → Option String
  | .undecodable flaw => some flaw.message
  | .unknownCharset name => some ("unknown encoding: " ++ name)
  | .noCharset name =>
    some ("'" ++ name ++ "' is not a text encoding; use codecs.open() to handle arbitrary codecs")
  | .meaninglessWord => some "2"
  | .secretsInFile => some "secrets_dir must reference a directory, not a file"
  | .unreadableSecret name =>
    some ("error getting value for field \"" ++ name ++ "\" from source \"SecretsSettingsSource\"")
  | .invalid _ | .optionType => none

/-! ### Options -/

/-- How names and values of variables are understood. -/
structure Convention where
  /-- What variables have in front of the name of a setting. -/
  lead : String := ""
  caseMatters : Bool := false
  /-- Whether an empty variable is as good as none. -/
  emptyIsNone : Bool := false
  /-- The text that stands for null. -/
  nullText : Option String := none
deriving DecidableEq, Repr

/-- The value of an option; null leaves it as it is. -/
def option? (given : Entries) (key : String) : Option Value :=
  match given.get? key with
  | some .null | none => none
  | some v => some v

/-- Whether an option is switched on. -/
def isOn (given : Entries) (key : String) : Bool := (option? given key).any Value.isTruthy

/-- The convention that the options ask for. -/
def Convention.ofOptions (given : Entries) : Except SettingsError Convention := do
  let lead ←
    match option? given "_env_prefix" with
    | none => .ok ""
    | some (.text s) => .ok s
    | some _ => .error .optionType
  pure
    { lead
      caseMatters := isOn given "_case_sensitive"
      emptyIsNone := isOn given "_env_ignore_empty"
      nullText := (option? given "_env_parse_none_str").bind Value.text? }

namespace Convention

/-- A name as it is compared with others. -/
def respell (c : Convention) (name : String) : String :=
  if c.caseMatters then name else Text.lower name

/-- The name of the variable of a setting, as it is compared. -/
def variableName (c : Convention) (name : String) : String := c.respell (c.lead ++ name)

/-- The value of a setting among variables; the last of several counts, and one without a value is
as good as none. -/
def find? (c : Convention) (vars : Variables (Option String)) (name : String) : Option Value :=
  let usable : Variables (Option String) :=
    vars.filter fun v => !(c.emptyIsNone && v.2 = some "")
  (usable.lastAs? c.respell (c.variableName name)).join.map fun s =>
    if c.nullText = some s then .null else .text s

end Convention

/-- The texts that an option lists; a text alone is a list of its own. -/
def listed : Value → Except SettingsError (List String)
  | .text s => .ok [s]
  | v =>
    match v.elements?.bind fun items => items.mapM Value.text? with
    | some ss => .ok ss
    | none => .error .optionType

/-- What the words of a command line give. -/
def typed (given : Entries) : Except SettingsError Entries :=
  match (option? given "_cli_parse_args").bind Value.items? with
  | none => .ok []
  | some items =>
    match (items.mapM Value.text?).bind CommandLine.read with
    | some es => .ok es
    | none => .error .meaninglessWord

/-! ### Files of variables -/

/-- The name of the file of variables. -/
def fileName : String := ".env"

/-- The paths of the files of variables. Null as an option means no file. -/
def filePaths (given : Entries) : Except SettingsError (List String) :=
  match given.get? "_env_file" with
  | none => .ok [fileName]
  | some .null => .ok []
  | some v => listed v

/-- The character set of the files of variables. -/
def charset (given : Entries) : Except SettingsError Text.Charset :=
  match (option? given "_env_file_encoding").filter Value.isTruthy with
  | none => .ok (.utf8 false)
  | some (.text name) =>
    match Text.Charset.ofName? name with
    | some c => .ok c
    | none =>
      .error (if Text.Charset.isOtherCoding name then .noCharset name else .unknownCharset name)
  | some _ => .error .optionType

/-- The variables in a file, if it is there. -/
def readFile (files : Files) (environment : Variables String) (given : Entries) (path : String) :
    Except SettingsError (Variables (Option String)) :=
  match files.read (Path.ofText path) with
  | .error _ => .ok []
  | .ok bytes => do
    let c ← charset given
    let text ← (c.decode bytes).mapError .undecodable
    pure (EnvFile.read environment (Text.unifyNewlines text.toList))

/-- The variables in all files, in order. -/
def readFiles (files : Files) (environment : Variables String) (given : Entries) :
    Except SettingsError (Variables (Option String)) := do
  let paths ← filePaths given
  let read ← paths.mapM (readFile files environment given)
  pure read.flatten

/-! ### Directories of secrets -/

/-- The files in a directory of secrets, if it is there. -/
def secretsIn (files : Files) (path : String) : Except SettingsError (List (String × ByteArray)) :=
  match files.find (Path.ofText path) with
  | .ok (_, .file _) => .error .secretsInFile
  | .ok (place, .directory) => .ok (files.filesIn place)
  | .error _ => .ok []

/-- The files in all directories of secrets. Those of the last directory come first. -/
def secrets (files : Files) (given : Entries) : Except SettingsError (List (String × ByteArray)) :=
  match option? given "_secrets_dir" with
  | none => .ok []
  | some v => do
    let found ← (← listed v).mapM (secretsIn files)
    pure found.reverse.flatten

/-- The secret of a setting: a text without the white space at its ends. -/
def secret? (c : Convention) (found : List (String × ByteArray)) (name : String) :
    Except SettingsError (Option Value) :=
  match Variables.firstAs? c.respell found (c.variableName name) with
  | none => .ok none
  | some bytes =>
    match Text.Utf8.decode bytes with
    | .ok s =>
      .ok (some (.text (String.ofList (Text.trim (Text.unifyNewlines s.toList)))))
    | .error _ => .error (.unreadableSecret name)

/-! ### All sources -/

/-- The value given directly for a setting. Case never matters here, and of several spellings the
first counts. -/
def given? (given : Entries) (name : String) : Option Value :=
  Variables.firstAs? Text.lower given name

/-- The value of a setting, from the first source that has one. -/
def gather? (c : Convention) (given : Entries) (environment file : Variables (Option String))
    (found : List (String × ByteArray)) (name : String) : Except SettingsError (Option Value) := do
  let secret ← secret? c found name
  pure ((given? given name <|> c.find? environment name) <|> (c.find? file name <|> secret))

/-- The values of all settings that have one. -/
def gather (c : Convention) (given : Entries) (environment file : Variables (Option String))
    (found : List (String × ByteArray)) : Except SettingsError Entries := do
  let values ← names.mapM fun name => do
    pure (name, ← gather? c given environment file found name)
  pure (values.filterMap fun (name, v) => v.map (name, ·))

/-- The settings in force. -/
def load (files : Files) (environment : Variables String) (given : Entries) :
    Except SettingsError Settings := do
  let c ← Convention.ofOptions given
  let file ← readFiles files environment given
  let typed ← typed given
  let found ← secrets files given
  let gathered ← gather c (typed ++ given) (environment.map fun (name, s) => (name, some s)) file found
  (check gathered).mapError .invalid

/-- Settings that are loaded once and then kept, until they are dropped. A failure is not kept. -/
def loadOnce (kept : Option Settings) (files : Files) (environment : Variables String) :
    Except SettingsError Settings :=
  match kept with
  | some s => .ok s
  | none => load files environment []

end Shorthand.Settings
