import SwiftDevEnv.Config.Basic
import SwiftDevEnv.Config.Error
import SwiftDevEnv.Text.Blank

/-!
# Settings in range

Settings that were read can still be unusable: the backend command may not be blank, nor the
container image when the backend runs in a container; the backend may be restarted at most
twenty times; widths lie from one to sixteen; and a declared target needs a name that is not
blank. Every violation is reported, in this order, naming the setting.
-/

namespace SwiftDevEnv.Config

/-- The most restarts of the backend a setting may ask for. -/
def maxRetriesLimit : Nat := 20

/-- The violations of the settings, in order. -/
def Settings.problems (c : Settings) : List ConfigError :=
  let b := c.backend
  let path := if Text.isAllBlank b.path then [.validation "sourcekite.path" "must not be empty"] else []
  let image :=
    if b.dockerMode && Text.isAllBlank b.dockerImage then
      [.validation "sourcekite.docker_image" "must not be empty when docker_mode is on"]
    else []
  let retries :=
    if b.maxRetries.toNat > maxRetriesLimit then
      [.validation "sourcekite.max_retries" s!"must be at most {maxRetriesLimit}, got {b.maxRetries}"]
    else []
  let width (field : String) (w : Nat) : List ConfigError :=
    if w = 0 || w > 16 then [.validation field s!"must be 1-16, got {w}"] else []
  let targets := c.targets.zipIdx.filterMap fun (t, i) =>
    if Text.isAllBlank t.name then some (.validation s!"targets[{i}].name" "must not be empty") else none
  path ++ image ++ retries ++ width "format.indent_width" c.format.indentWidth.toNat ++
    width "format.tab_width" c.format.tabWidth.toNat ++ targets

/-- The default settings are in range. -/
theorem problems_default : ({} : Settings).problems = [] := by decide

end SwiftDevEnv.Config
