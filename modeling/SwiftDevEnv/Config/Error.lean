/-!
# Why settings could not be had

Loading settings fails when a file is missing, when the commented default file cannot be
written, when a text is not a well-formed settings file or does not fit the settings, when a
setting is out of its range, or when a file cannot be read. Each failure has a kind and a
message that starts with what went wrong.
-/

namespace SwiftDevEnv.Config

/-- Why settings could not be had. -/
inductive ConfigError where
  | notFound (path : String)
  | createDefault (reason : String)
  | parse (reason : String)
  | validation (field : String) (problem : String)
  | io (reason : String)
  deriving DecidableEq, Repr, Inhabited

namespace ConfigError

/-- The kind of a failure, as callers name it. -/
def kind : ConfigError → String
  | .notFound _ => "NotFound"
  | .createDefault _ => "CreateDefault"
  | .parse _ => "Parse"
  | .validation .. => "Validation"
  | .io _ => "Io"

/-- The message of a failure. -/
def message : ConfigError → String
  | .notFound p => "config file not found: " ++ p
  | .createDefault r => "failed to create default config: " ++ r
  | .parse r => "TOML parse error: " ++ r
  | .validation field problem => "validation error: " ++ field ++ ": " ++ problem
  | .io r => "I/O error: " ++ r

end ConfigError

end SwiftDevEnv.Config
