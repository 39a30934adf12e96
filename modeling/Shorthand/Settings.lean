import Shorthand.Schema.Rule

/-!
The settings of the service: their names, the rules for their values, and their defaults.
-/

namespace Shorthand

open Schema

/-- What an installation is used for. -/
inductive Stage where
  | development
  | testing
  | production
deriving DecidableEq, Repr

def Stage.name : Stage → String
  | .development => "development"
  | .testing => "testing"
  | .production => "production"

/-- The stages by their names. -/
def Stage.all : List (String × Stage) :=
  [Stage.development, .testing, .production].map fun s => (s.name, s)

structure Settings where
  appName : String := "macrokit"
  appVersion : String := "0.1.0"
  debug : Bool := false
  stage : Stage := .development
  logLevel : String := "INFO"
  /-- The catalogue that is loaded at the start. -/
  catalogue : Option Path := none
  /-- Whether a reference has to end where a word ends. -/
  bounded : Bool := false
deriving DecidableEq, Repr

namespace Settings

def isTesting (s : Settings) : Bool := s.stage = .testing

/-- The names of the settings. -/
def names : List String :=
  ["app_name", "app_version", "debug", "environment", "log_level", "macros_file",
    "macro_word_boundary"]

/-- Checks settings that have been gathered, with the defaults for those that are missing. -/
def check (es : Entries) : Checked Settings := do
  let standard : Settings := {}
  let (appName, appVersion, debug, stage, logLevel, catalogue, bounded) ←
    both (field es "app_name" (some standard.appName) text) <|
    both (field es "app_version" (some standard.appVersion) text) <|
    both (field es "debug" (some standard.debug) flag) <|
    both (field es "environment" (some standard.stage) (choice Stage.all)) <|
    both (field es "log_level" (some standard.logLevel) text) <|
    both (field es "macros_file" (some standard.catalogue) (optional path))
      (field es "macro_word_boundary" (some standard.bounded) flag)
  pure { appName, appVersion, debug, stage, logLevel, catalogue, bounded }

/-- The settings as a table, as they are shown. -/
def toEntries (s : Settings) : Entries :=
  [("app_name", .text s.appName), ("app_version", .text s.appVersion), ("debug", .bool s.debug),
    ("environment", .text s.stage.name), ("log_level", .text s.logLevel),
    ("macros_file", ((s.catalogue.map fun p => Value.text p.text).getD .null)),
    ("macro_word_boundary", .bool s.bounded), ("is_testing", .bool s.isTesting)]

end Settings

end Shorthand
