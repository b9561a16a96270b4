import SwiftDevEnv.Glob.Match

/-!
# Sets of glob patterns

A set of patterns matches a path when one of its patterns does. Each pattern is tested by the
first test of this list that its shape allows:

* a pattern of plain characters only: the path is exactly that text;
* a leading `**/` and then plain characters without `/`: the path's last component is that
  text;
* `**/*.` and then plain characters without `.` or `/`: the path's extension is that text;
* plain characters and a final `/**`: the path starts with those characters and `/`;
* a leading `**/` and then plain characters: the path ends with `/` and those characters, or
  is those characters;
* a pattern ending in `.` and plain characters without `/`: the path's extension is that text
  and the whole pattern matches;
* otherwise the whole pattern matches.

The last component of a path is its text after the last `/`, and a path that is empty or ends
in `.` has none. The extension is the last component's text from its last `.`, and a last
component without `.` has none. So a path ending in `.` is never matched by a test of its last
component or extension. Those tests, and the tests by leading or trailing text, also accept
line breaks anywhere, which the runs of a whole match do not cross.
-/

namespace SwiftDevEnv.Glob

/-- How a set tests one of its patterns against the bytes of a path. -/
inductive Test where
  /-- The path is exactly this text. -/
  | whole (text : List UInt8)
  /-- The path's last component is exactly this text. -/
  | lastComponent (text : List UInt8)
  /-- The path's extension is exactly this text. -/
  | extension (text : List UInt8)
  /-- The path starts with this text. -/
  | leading (text : List UInt8)
  /-- The path ends with this text, which starts with `/`; with `bare`, it may also be this
  text without its `/`. -/
  | trailing (text : List UInt8) (bare : Bool)
  /-- The path's extension is this text and the whole pattern matches. -/
  | extensionAndWhole (text : List UInt8)
  /-- The whole pattern matches. -/
  | pattern
  deriving DecidableEq, Repr

/-- The byte `.`. -/
def dot : UInt8 := 0x2E

/-- The UTF-8 bytes of characters. -/
def textBytes (cs : List Char) : List UInt8 := cs.flatMap charBytes

/-- The characters of tokens that are all plain characters. -/
def plainChars : List Token → Option (List Char)
  | [] => some []
  | .piece (.literal c) :: ts => (plainChars ts).map (c :: ·)
  | _ => none

/-- The plain characters of tokens, when there is at least one and none is excluded. -/
def plainWithout (excluded : List Char) (ts : List Token) : Option (List Char) :=
  (plainChars ts).bind fun cs =>
    if cs.isEmpty || cs.any (excluded.contains ·) then none else some cs

/-- Whether a token is the plain character `.`. -/
def Token.isDot : Token → Bool
  | .piece (.literal '.') => true
  | _ => false

/-- The extension that a pattern ends with: a `.` and plain characters after it, with no
`/` in them. -/
def endingExtension (ts : List Token) : Option (List Char) :=
  let tail := (ts.reverse.takeWhile fun t => !t.isDot).reverse
  if ts.length == tail.length then none
  else (plainWithout ['/'] tail).map ('.' :: ·) <|> if tail.isEmpty then some ['.'] else none

/-- The test of a pattern's tokens. -/
def Test.ofTokens (ts : List Token) : Test :=
  match plainWithout [] ts with
  | some cs => .whole (textBytes cs)
  | none =>
    match ts with
    | .piece .leadingComponents :: rest =>
      match plainWithout ['/'] rest, rest with
      | some cs, _ => .lastComponent (textBytes cs)
      | none, .piece .anyRun :: .piece (.literal '.') :: ext =>
        match plainChars ext with
        | some cs =>
          if cs.contains '.' || cs.contains '/' then trailingOrRest ts rest
          else .extension (textBytes ('.' :: cs))
        | none => trailingOrRest ts rest
      | none, _ => trailingOrRest ts rest
    | _ => leadingOrRest ts
where
  /-- A leading `**/` and plain characters, or the tests after it. -/
  trailingOrRest (ts rest : List Token) : Test :=
    match plainWithout [] rest with
    | some cs => .trailing (textBytes ('/' :: cs)) true
    | none => extensionOrPattern ts
  /-- Plain characters and a final `/**`, or the tests after it. -/
  leadingOrRest (ts : List Token) : Test :=
    match ts.getLast? with
    | some (.piece .trailingComponents) =>
      match plainChars ts.dropLast with
      | some cs => .leading (textBytes (cs ++ ['/']))
      | none => extensionOrPattern ts
    | _ => extensionOrPattern ts
  /-- A final extension, or the whole pattern. -/
  extensionOrPattern (ts : List Token) : Test :=
    match endingExtension ts with
    | some cs => .extensionAndWhole (textBytes cs)
    | none => .pattern

/-- The last component of a path's bytes; empty when the path is empty or ends in `.`. -/
def lastComponentOf (path : List UInt8) : List UInt8 :=
  if path.isEmpty || path.getLast? == some dot then []
  else (path.reverse.takeWhile (· != slash)).reverse

/-- The extension of a last component: its bytes from the last `.`, or empty without one. -/
def extensionOf (name : List UInt8) : List UInt8 :=
  if name.contains dot then dot :: (name.reverse.takeWhile (· != dot)).reverse else []

/-- Whether a pattern passes its test on the bytes of a path. -/
def Test.passes (t : Test) (p : Pattern) (path : List UInt8) : Bool :=
  let ext := extensionOf (lastComponentOf path)
  match t with
  | .whole text => path == text
  | .lastComponent text => lastComponentOf path == text
  | .extension text => ext == text
  | .leading text => text.isPrefixOf path
  | .trailing text bare => (bare && path == text.tail) || text.isSuffixOf path
  | .extensionAndWhole text => ext == text && p.matchesBytes path
  | .pattern => p.matchesBytes path

/-- A set of patterns. -/
structure PatternSet where
  patterns : List Pattern

/-- Reads every pattern of a list; the first malformed one is refused, with its text. -/
def PatternSet.parse (texts : List String) : Except (String × Error) PatternSet := do
  let patterns ← texts.mapM fun t => (Pattern.parse t).mapError (t, ·)
  pure ⟨patterns⟩

/-- Whether some pattern of the set passes its test on a path. -/
def PatternSet.matches (s : PatternSet) (path : String) : Bool :=
  let bytes := path.toUTF8.toList
  s.patterns.any fun p => (Test.ofTokens p.tokens).passes p bytes

end SwiftDevEnv.Glob
