import SwiftDevEnv.Backend.Launch
import SwiftDevEnv.Shell.CommandLine

/-!
# What the shell runs in container mode

In container mode the backend is started as `<shell> -c S`, with `S = dockerRun c`. Read by a
POSIX shell, `S` gives `docker run --rm`, then `-v` and `p:p` for each workspace path `p`, then
`-i`, and after them exactly the tokens the shell reads from the image text on its own.

Each path is put between single quotes and nothing more, so the volumes come out as written for
paths without a single quote in them. The image is spliced in unquoted, as the `-i <image>` of
the command line shows: an image that is one plain word is one argument, but an image with a blank
or an operator in it is read as several words or commands, and a single quote in a path ends the
quoting early.
-/

namespace SwiftDevEnv.Backend

open SwiftDevEnv.FileSystem SwiftDevEnv.Platform SwiftDevEnv.Shell

/-- The words the shell reads before the image: `docker run --rm`, a volume `-v p:p` for each
workspace path, then `-i`. -/
def dockerWords (paths : List Path) : List Token :=
  [.word "docker", .word "run", .word "--rm"] ++
    paths.flatMap (fun p => [.word "-v", .word (p.text ++ ":" ++ p.text)]) ++ [.word "-i"]

/-- The volume option of one workspace path, as the command text holds it. -/
def volumeText (p : Path) : String := s!"-v '{p.text}:{p.text}' "

theorem dockerRun_toList (c : ServerConfig) :
    (dockerRun c).toList = "docker run --rm ".toList ++
      (c.workspacePaths.flatMap fun p => (volumeText p).toList) ++ "-i ".toList ++
        c.dockerImage.toList := by
  have hjoin : dockerRun c =
      "docker run --rm " ++ String.join (c.workspacePaths.map volumeText) ++ "-i " ++
        c.dockerImage := rfl
  rw [hjoin]
  simp only [String.toList_append, String.toList_join, List.flatMap_map]

/-- A volume of a path without a single quote is read as `-v` and `p:p`. -/
theorem foldlM_volume {p : Path} (hp : '\'' ∉ p.text.toList) (ts : List Token) :
    (volumeText p).toList.foldlM step ⟨.between, [], ts⟩ =
      some ⟨.between, [], ts ++ [.word "-v", .word (p.text ++ ":" ++ p.text)]⟩ := by
  have htext : (volumeText p).toList =
      ("-v".toList ++ [' ']) ++ '\'' :: ((p.text ++ ":" ++ p.text).toList ++ ['\'', ' ']) := by
    simp [volumeText, toString, String.toList_append]
  have hvolume : '\'' ∉ (p.text ++ ":" ++ p.text).toList := by
    simp [String.toList_append, hp]
  rw [htext, List.foldlM_append, @foldlM_plainWord_blank "-v".toList (by decide) ts]
  simp only [Option.bind_eq_bind, Option.bind_some]
  rw [foldlM_quoted hvolume]
  simp [String.ofList_toList, String.append_assoc]

/-- The volumes of paths without a single quote are read one after another. -/
theorem foldlM_volumes {paths : List Path} (hpaths : ∀ p ∈ paths, '\'' ∉ p.text.toList)
    (ts : List Token) :
    (paths.flatMap fun p => (volumeText p).toList).foldlM step ⟨.between, [], ts⟩ =
      some ⟨.between, [], ts ++ paths.flatMap
        (fun p => [.word "-v", .word (p.text ++ ":" ++ p.text)])⟩ := by
  induction paths generalizing ts with
  | nil => simp
  | cons p rest ih =>
    have hrest : ∀ q ∈ rest, '\'' ∉ q.text.toList := fun q hq => hpaths q (by simp [hq])
    simp [List.foldlM_append, foldlM_volume (hpaths p (by simp)), ih hrest]

/-- With paths free of single quotes, the fixed words leave the reader between tokens. -/
theorem foldlM_dockerWords {paths : List Path} (hpaths : ∀ p ∈ paths, '\'' ∉ p.text.toList) :
    ("docker run --rm ".toList ++ (paths.flatMap fun p => (volumeText p).toList) ++
      "-i ".toList).foldlM step Reader.start = some (Reader.start.after (dockerWords paths)) := by
  have hcommand : "docker run --rm ".toList.foldlM step Reader.start =
      some ⟨.between, [], [.word "docker", .word "run", .word "--rm"]⟩ := by decide
  have hinput : "-i ".toList = "-i".toList ++ [' '] := by simp
  rw [List.foldlM_append, List.foldlM_append, hcommand]
  simp only [Option.bind_eq_bind, Option.bind_some]
  rw [foldlM_volumes hpaths]
  simp only [Option.bind_some]
  rw [hinput, @foldlM_plainWord_blank "-i".toList (by decide)]
  simp [dockerWords, Reader.after, Reader.start]

/-- With paths free of single quotes, the shell reads the container command as the fixed words
followed by what it reads from the image text alone. After `-i ` nothing is left open, so the image
is read as from the start. -/
theorem read_dockerRun (c : ServerConfig) (hpaths : ∀ p ∈ c.workspacePaths, '\'' ∉ p.text.toList) :
    readCommandLine (dockerRun c).toList =
      (readCommandLine c.dockerImage.toList).map (dockerWords c.workspacePaths ++ ·) := by
  rw [readCommandLine, dockerRun_toList, List.foldlM_append, foldlM_dockerWords hpaths]
  simp only [Option.bind_eq_bind, Option.bind_some]
  exact read_after _ _

/-- In container mode the backend runs as `<shell> -c S`. The shell is the configured one when it
exists, a relative one looked up from the working directory, and the fallback shell otherwise; `TOOLCHAIN_DIR` is set exactly when a toolchain is
configured. With workspace paths free of single quotes the shell reads `S` as `docker run --rm`,
`-v p:p` for each path and `-i`, followed by what it reads from the image text alone, so an image
that is one plain word is the last argument as it is written. -/
theorem container_launch_mounts_each_workspace (t : Tree) (cwd : List String) (c : ServerConfig)
    (hdocker : c.dockerMode = true) (hpaths : ∀ p ∈ c.workspacePaths, '\'' ∉ p.text.toList) :
    (c.commandLine t cwd).program =
        (if t.pathExists cwd c.shellPath.text then c.shellPath else fallbackShell).text ∧
      (c.commandLine t cwd).args = ["-c", dockerRun c] ∧
      (c.commandLine t cwd).env = c.toolchainPath.toList.map (fun dir => ("TOOLCHAIN_DIR", dir)) ∧
      readCommandLine (dockerRun c).toList =
        (readCommandLine c.dockerImage.toList).map (dockerWords c.workspacePaths ++ ·) ∧
      (isPlainWord c.dockerImage.toList →
        readCommandLine (dockerRun c).toList =
          some (dockerWords c.workspacePaths ++ [.word c.dockerImage])) := by
  have hread := read_dockerRun c hpaths
  refine ⟨?_, ?_, ?_, hread, fun himage => ?_⟩
  · simp [ServerConfig.commandLine, ServerConfig.program, hdocker, resolveShell]
  · simp [ServerConfig.commandLine, hdocker]
  · cases h : c.toolchainPath <;> simp [ServerConfig.commandLine, hdocker, h]
  · rw [hread, readCommandLine_plainWord himage, String.ofList_toList]
    rfl

/-- A workspace path with a blank in it is mounted as one word. -/
theorem blank_in_workspace_stays_one_word :
    readCommandLine (dockerRun
        { dockerMode := true, toolchainPath := some "/tc", workspacePaths := [⟨"/w s"⟩, ⟨"/x"⟩] }).toList =
      some [.word "docker", .word "run", .word "--rm", .word "-v", .word "/w s:/w s",
        .word "-v", .word "/x:/x", .word "-i", .word "jinmingjian/docker-sourcekite"] := by
  have h := (container_launch_mounts_each_workspace Tree.empty []
    { dockerMode := true, toolchainPath := some "/tc", workspacePaths := [⟨"/w s"⟩, ⟨"/x"⟩] }
    rfl (by decide +kernel)).2.2.2.2 (by decide +kernel)
  rw [h]
  rfl

/-- A single quote in a workspace path ends its quoting early and an image with a blank is read
as two words, so the shell does not read the volume `-v /it's:/it's` and the image `busybox sh`. -/
theorem quote_in_path_and_blank_in_image_change_the_words :
    readCommandLine (dockerRun
        { dockerMode := true, dockerImage := "busybox sh", workspacePaths := [⟨"/it's"⟩] }).toList =
      some [.word "docker", .word "run", .word "--rm", .word "-v", .word "/its:/its", .word "-i",
        .word "busybox", .word "sh"] ∧
    readCommandLine (dockerRun
        { dockerMode := true, dockerImage := "busybox sh", workspacePaths := [⟨"/it's"⟩] }).toList ≠
      some (dockerWords [⟨"/it's"⟩] ++ [.word "busybox sh"]) := by
  decide +kernel

end SwiftDevEnv.Backend
