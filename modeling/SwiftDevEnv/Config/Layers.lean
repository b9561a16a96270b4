import SwiftDevEnv.Config.Decode
import SwiftDevEnv.Config.Validate
import SwiftDevEnv.Toml.Document

/-!
# Settings from texts and layers of texts

A settings text is read as a document and its settings read out of it, keeping its order of
keys and pointing errors at the text. A layer is laid over settings already had: both become
plain values, the layer's tables are merged into the settings' key by key while anything else
in the layer replaces what was there, and the settings are read out of the result, errors then
naming the keys that led to them.
-/

namespace SwiftDevEnv.Config

open SwiftDevEnv.Toml

/-- The settings a text holds, or the message of why it holds none. -/
def readSettings (text : String) : Except String Settings := do
  let root ← (parse text).mapError TomlError.text
  (readConfig .document root).mapError fun e => (e.toError (some text)).text

/-- The settings a text holds, checked to be in range; the first violation is reported. -/
def loadFromText (text : String) : Except ConfigError Settings := do
  let c ← (readSettings text).mapError ConfigError.parse
  match c.problems with
  | [] => pure c
  | e :: _ => .error e

/-- Lays a settings text over settings. -/
def Settings.overlay (base : Settings) (layer : String) : Except ConfigError Settings := do
  let root ← (parse layer).mapError fun e => ConfigError.parse e.text
  let merged := base.toNode.overlay root.plain
  (readConfig .plain merged).mapError fun e => ConfigError.parse (e.toError none).text

end SwiftDevEnv.Config
