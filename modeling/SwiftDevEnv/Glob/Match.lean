import SwiftDevEnv.Glob.Pattern

/-!
# Matching paths against glob patterns

A pattern matches a path when the whole of the path's UTF-8 bytes can be split among its
pieces in order. Matching works on bytes: `?` takes one byte, so it does not match a
character of several bytes, and a class takes one byte too. A class is read as a set of bytes:
a single character stands for each of its bytes, and a range from `a` to `b` for the bytes of
`a` but its last, the bytes from the last of `a` to the first of `b`, and the bytes of `b` but
its first. For characters of one byte this is the plain range.

The runs of `*`, `**/`, `/**` and `/**/` that may cross components never cross a line
break, and a pattern that is only `**` matches every path without one.
-/

namespace SwiftDevEnv.Glob

/-- The byte `/`. -/
def slash : UInt8 := 0x2F

/-- The byte of a line break. -/
def lineBreak : UInt8 := 0x0A

/-- The bytes of a character. -/
def charBytes (c : Char) : List UInt8 := c.toString.toUTF8.toList

/-- The byte ranges of a class range. -/
def byteRanges (r : Char × Char) : List (UInt8 × UInt8) :=
  let lo := charBytes r.1
  let hi := charBytes r.2
  if r.1 = r.2 then lo.map fun b => (b, b)
  else
    lo.dropLast.map (fun b => (b, b)) ++ [(lo.getLast?.getD 0, hi.head?.getD 0)] ++
      hi.tail.map fun b => (b, b)

/-- Whether a byte belongs to the class of the given character ranges. -/
def inClass (ranges : List (Char × Char)) (b : UInt8) : Bool :=
  (ranges.flatMap byteRanges).any fun (lo, hi) => lo ≤ b && b ≤ hi

/-- The ways to split off a run of bytes for which `ok` holds: each prefix that satisfies it,
with the rest. -/
def runs (ok : UInt8 → Bool) (s : List UInt8) : List (List UInt8) :=
  (List.range (s.length + 1)).filterMap fun n =>
    if (s.take n).all ok then some (s.drop n) else none

/-- The rests after a run of bytes without a line break and then a `/`. -/
def runsToSlash (s : List UInt8) : List (List UInt8) :=
  (List.range s.length).filterMap fun n =>
    if (s.take n).all (· != lineBreak) && s[n]? == some slash then some (s.drop (n + 1)) else none

/-- Whether pieces match a prefix of the bytes with the rest accepted by `k`. -/
def matchPieces : List Piece → List UInt8 → (List UInt8 → Bool) → Bool
  | [], s, k => k s
  | .literal c :: ps, s, k =>
    let bs := charBytes c
    s.take bs.length == bs && matchPieces ps (s.drop bs.length) k
  | .anyByte :: ps, s, k =>
    match s with
    | b :: rest => b != slash && matchPieces ps rest k
    | [] => false
  | .anyRun :: ps, s, k => (runs (· != slash) s).any fun rest => matchPieces ps rest k
  | .leadingComponents :: ps, s, k =>
    matchPieces ps s k || (s.head? == some slash && matchPieces ps s.tail k) ||
      (runsToSlash s).any fun rest => matchPieces ps rest k
  | .trailingComponents :: ps, s, k =>
    s.head? == some slash && (runs (· != lineBreak) s.tail).any fun rest => matchPieces ps rest k
  | .innerComponents :: ps, s, k =>
    s.head? == some slash &&
      (matchPieces ps s.tail k || (runsToSlash s.tail).any fun rest => matchPieces ps rest k)
  | .charClass negated ranges :: ps, s, k =>
    match s with
    | b :: rest => inClass ranges b != negated && matchPieces ps rest k
    | [] => false

mutual
/-- Whether a token stands for no text at all: a group all of whose branches do. -/
def Token.isVoid : Token → Bool
  | .piece _ => false
  | .group branches => branchesVoid branches
/-- Whether every branch of a group stands for no text at all. -/
def branchesVoid : List (List Token) → Bool
  | [] => true
  | b :: bs => branchVoid b && branchesVoid bs
/-- Whether a branch stands for no text at all: each of its tokens does, so an empty branch
does. -/
def branchVoid : List Token → Bool
  | [] => true
  | t :: ts => t.isVoid && branchVoid ts
end

mutual
/-- Whether a token matches a prefix of the bytes with the rest accepted by `k`. A group whose
branches all stand for no text matches the empty text; otherwise it matches by one of its
branches that stands for some text. -/
def matchToken : Token → List UInt8 → (List UInt8 → Bool) → Bool
  | .piece p, s, k => matchPieces [p] s k
  | .group branches, s, k => if branchesVoid branches then k s else matchBranches branches s k
/-- Whether tokens match a prefix of the bytes, one after the other, with the rest accepted by
`k`. -/
def matchTokens : List Token → List UInt8 → (List UInt8 → Bool) → Bool
  | [], s, k => k s
  | t :: ts, s, k => matchToken t s fun rest => matchTokens ts rest k
/-- Whether one of the branches that stand for some text matches a prefix of the bytes with the
rest accepted by `k`. -/
def matchBranches : List (List Token) → List UInt8 → (List UInt8 → Bool) → Bool
  | [], _, _ => false
  | b :: bs, s, k => (!branchVoid b && matchTokens b s k) || matchBranches bs s k
end

/-- Whether a pattern matches the bytes of a path. -/
def Pattern.matchesBytes (p : Pattern) (bytes : List UInt8) : Bool :=
  match p.tokens with
  | [.piece .leadingComponents] => bytes.all (· != lineBreak)
  | tokens => matchTokens tokens bytes List.isEmpty

end SwiftDevEnv.Glob
