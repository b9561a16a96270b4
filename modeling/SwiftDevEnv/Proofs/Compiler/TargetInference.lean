import Mathlib
import SwiftDevEnv.Compiler.Arguments

/-!
# The inferred compile target

The arguments of a request are the target's own, then its sources in the path order (or the
file alone when it has none), then the inferred `-target` arguments. A set of sources is kept
strictly ascending, and an ascending list of given paths is unique, so the sources stand in
the one order the path order allows. Inference is written here
as a chain of conditions over the contiguous-part relation of character lists, independent of
the table search the library runs. The target's own `-target` suppresses it. Otherwise the first
framework of UIKit, WatchKit and AppKit whose import occurs anywhere in the text decides,
whatever the order of the imports in the text. Failing those, the host decides: Linux by its
architecture, every other system the macOS triple and SDK.

`resolveCompilerArguments_eq` states this equation. It also states that inference adds nothing
exactly when the target names a `-target` itself and that the arguments outside the sources
always hold one, so inference never adds a second one beside an explicit one.
-/

namespace SwiftDevEnv.Compiler

/-- The framework table searched by import: the first of UIKit, WatchKit and AppKit whose import
the text holds, in the table's order and wherever the imports stand in the text. -/
theorem find?_importTargets (text : String) :
    importTargets.find? (fun (framework, _, _) => Text.containsText text ("import " ++ framework)) =
      if "import UIKit".toList <:+: text.toList then some ("UIKit", "iPhoneOS", "arm64-apple-ios11.0")
      else if "import WatchKit".toList <:+: text.toList then
        some ("WatchKit", "WatchOS", "armv7k-apple-watchos4.0")
      else if "import AppKit".toList <:+: text.toList then
        some ("AppKit", "MacOSX", "x86_64-apple-macosx10.10")
      else none := by
  simp only [importTargets, List.find?_cons, List.find?_nil, ← Text.containsText_iff_infix]
  split_ifs <;> simp_all

/-- Every inferred argument list names a target: the framework's triple or the host's. -/
theorem target_mem_inferTargetArguments {explicit : List String} (h : "-target" ∉ explicit)
    (text : String) (host : Host) : "-target" ∈ inferTargetArguments explicit text host := by
  unfold inferTargetArguments
  rw [if_neg (by simpa using h)]
  split
  · simp
  · split <;> simp

/-- Inference adds nothing exactly when the target's own arguments name a target. -/
theorem inferTargetArguments_eq_nil_iff (explicit : List String) (text : String) (host : Host) :
    inferTargetArguments explicit text host = [] ↔ "-target" ∈ explicit := by
  by_cases h : "-target" ∈ explicit
  · simp [inferTargetArguments, h]
  · have hmem := target_mem_inferTargetArguments h text host
    exact ⟨fun hnil => absurd (hnil ▸ hmem) List.not_mem_nil, fun h' => absurd h' h⟩

/-- The resolved arguments are the target's own, the sources, and the `-target` arguments that
the first framework import or the host implies unless the target names one itself. The sources
are listed in strictly ascending path order, the only such order of them. Inference adds nothing
exactly when the target names a `-target`, and the arguments outside the sources always hold
one. -/
theorem resolveCompilerArguments_eq (target : Target) (path : Path) (text : String)
    (host : Host) :
    resolveCompilerArguments target path text host =
        target.compilerArguments ++
          (if target.sources.toList = [] then [path.text]
            else target.sources.toList.map Path.text) ++
          (if "-target" ∈ target.compilerArguments then []
            else if "import UIKit".toList <:+: text.toList then
              ["-target", "arm64-apple-ios11.0", "-sdk", sdkPath "iPhoneOS"]
            else if "import WatchKit".toList <:+: text.toList then
              ["-target", "armv7k-apple-watchos4.0", "-sdk", sdkPath "WatchOS"]
            else if "import AppKit".toList <:+: text.toList then
              ["-target", "x86_64-apple-macosx10.10", "-sdk", sdkPath "MacOSX"]
            else if host.os = .linux then
              (if host.arch = .aarch64 then ["-target", "aarch64-unknown-linux"]
                else ["-target", "x86_64-unknown-linux"])
            else ["-target", "x86_64-apple-macosx10.10", "-sdk", sdkPath "MacOSX"]) ∧
      Path.Ascending target.sources.toList ∧
      (∀ l, Path.Ascending l → (∀ p, p ∈ l ↔ p ∈ target.sources.toList) →
        l = target.sources.toList) ∧
      (inferTargetArguments target.compilerArguments text host = [] ↔
        "-target" ∈ target.compilerArguments) ∧
      "-target" ∈ target.compilerArguments ++
        inferTargetArguments target.compilerArguments text host := by
  refine ⟨?_, target.sources.ascending, fun l hl hmem => target.sources.toList_eq_of_ascending hl hmem,
    inferTargetArguments_eq_nil_iff _ _ _, ?_⟩
  · simp only [resolveCompilerArguments, inferTargetArguments, find?_importTargets,
      SourceSet.isEmpty, List.isEmpty_iff, List.contains_iff_mem]
    split_ifs <;> rfl
  · by_cases hexplicit : "-target" ∈ target.compilerArguments
    · exact List.mem_append_left _ hexplicit
    · exact List.mem_append_right _ (target_mem_inferTargetArguments hexplicit text host)

/-- Two sources given out of order are listed in path order. -/
theorem sources_listed_in_path_order :
    Path.Ascending [⟨"/w/a.swift"⟩, ⟨"/w/b.swift"⟩] ∧
      (∀ p, p ∈ ([⟨"/w/a.swift"⟩, ⟨"/w/b.swift"⟩] : List Path) ↔
        p ∈ (SourceSet.ofList [⟨"/w/b.swift"⟩, ⟨"/w/a.swift"⟩]).toList) ∧
      [⟨"/w/a.swift"⟩, ⟨"/w/b.swift"⟩] =
        (SourceSet.ofList [⟨"/w/b.swift"⟩, ⟨"/w/a.swift"⟩]).toList := by
  have hset : (SourceSet.ofList [⟨"/w/b.swift"⟩, ⟨"/w/a.swift"⟩]).toList =
      [⟨"/w/a.swift"⟩, ⟨"/w/b.swift"⟩] := by decide +kernel
  have hasc : Path.Ascending [⟨"/w/a.swift"⟩, ⟨"/w/b.swift"⟩] := hset ▸ SourceSet.ascending _
  have hmem : ∀ p, p ∈ ([⟨"/w/a.swift"⟩, ⟨"/w/b.swift"⟩] : List Path) ↔
      p ∈ (SourceSet.ofList [⟨"/w/b.swift"⟩, ⟨"/w/a.swift"⟩]).toList := by
    simp only [hset, implies_true]
  exact ⟨hasc, hmem, (resolveCompilerArguments_eq
    ⟨"App", ⟨"/w"⟩, SourceSet.ofList [⟨"/w/b.swift"⟩, ⟨"/w/a.swift"⟩], []⟩ ⟨"/w/a.swift"⟩ ""
    ⟨.linux, .x86_64⟩).2.2.1 _ hasc hmem⟩

end SwiftDevEnv.Compiler
