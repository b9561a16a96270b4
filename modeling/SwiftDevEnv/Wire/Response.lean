import SwiftDevEnv.Yaml.ToJson
import SwiftDevEnv.Backend.Error

/-!
# Response payloads

The backend answers in a relaxed JSON: keys and enumeration values may stand bare, as in
`key.kind: source.lang.swift.decl.function.free`. Such text is valid YAML, so a payload is
read as a single YAML document and turned into a JSON value. A payload that is not valid YAML
is a malformed response.
-/

namespace SwiftDevEnv.Wire

open SwiftDevEnv.Backend

/-- The value of a response payload. -/
def decodeResponse (raw : String) : Except Error Json.Value :=
  (Yaml.decodeJson raw).mapError fun e => .malformedResponse e.text

end SwiftDevEnv.Wire
