import SwiftDevEnv.Host
import SwiftDevEnv.Target.Basic
import SwiftDevEnv.Text.Search

/-!
# Compiler arguments for a request

A request carries the compiler arguments of the file's target, then the target's sources (or
the file alone when the target has none), then a `-target` triple and SDK unless the target's
own arguments already name one. The triple comes from the first framework import found in the
text, UIKit before WatchKit before AppKit; without one, Linux hosts get a Linux triple for
their architecture and every other host the macOS one with its SDK.
-/

namespace SwiftDevEnv.Compiler

/-- The SDK directory of an Xcode platform. -/
def sdkPath (platform : String) : String :=
  "/Applications/Xcode.app/Contents/Developer/Platforms/" ++ platform ++ ".platform/Developer/SDKs/" ++
    platform ++ ".sdk"

/-- Frameworks whose import fixes the platform: framework, platform, triple, in priority
order. -/
def importTargets : List (String × String × String) :=
  [("UIKit", "iPhoneOS", "arm64-apple-ios11.0"),
    ("WatchKit", "WatchOS", "armv7k-apple-watchos4.0"),
    ("AppKit", "MacOSX", "x86_64-apple-macosx10.10")]

/-- The `-target` and `-sdk` arguments implied by the text and host, or none when the explicit
arguments already have `-target`. -/
def inferTargetArguments (explicit : List String) (text : String) (host : Host) : List String :=
  if explicit.contains "-target" then []
  else
    match importTargets.find? (fun (framework, _, _) => Text.containsText text ("import " ++ framework)) with
    | some (_, platform, triple) => ["-target", triple, "-sdk", sdkPath platform]
    | none =>
      if host.os = .linux then
        ["-target", (if host.arch = .aarch64 then "aarch64" else "x86_64") ++ "-unknown-linux"]
      else ["-target", "x86_64-apple-macosx10.10", "-sdk", sdkPath "MacOSX"]

/-- The full argument list for a request on `path` within `target`. -/
def resolveCompilerArguments (target : Target) (path : Path) (text : String) (host : Host) :
    List String :=
  let files := if target.sources.isEmpty then [path.text] else target.sources.toList.map (·.text)
  target.compilerArguments ++ files ++ inferTargetArguments target.compilerArguments text host

end SwiftDevEnv.Compiler
