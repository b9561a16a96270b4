/-!
# Blank characters and trimming

The white space that editors and the code-intelligence backend agree on is the Unicode
`White_Space` property: the ASCII controls from tab to carriage return, the space, next line,
no-break space, the ogham space mark, the typographic spaces of the general punctuation block,
the line and paragraph separators, the narrow no-break space, the medium mathematical space and
the ideographic space. Trimming removes such characters from both ends of a text and keeps
everything between them.

The lemma here says that core's ASCII notion of white space is part of this one.
-/

namespace SwiftDevEnv.Text

/-- A character is blank when it has the Unicode `White_Space` property. -/
def isBlank (c : Char) : Bool :=
  let n := c.toNat
  (0x09 ≤ n && n ≤ 0x0D) || n == 0x20 || n == 0x85 || n == 0xA0 || n == 0x1680 ||
    (0x2000 ≤ n && n ≤ 0x200A) || n == 0x2028 || n == 0x2029 || n == 0x202F ||
    n == 0x205F || n == 0x3000

/-- Core's notion of white space is contained in the Unicode one. -/
theorem isBlank_of_isWhitespace (c : Char) (h : c.isWhitespace = true) : isBlank c = true := by
  simp only [Char.isWhitespace, Bool.or_eq_true, decide_eq_true_eq] at h
  simp only [isBlank, Bool.or_eq_true, Bool.and_eq_true, beq_iff_eq, decide_eq_true_eq]
  rcases h with ((h | h) | h) | h <;> simp [Char.toNat, h]

/-- Drops the blank characters at both ends of a character list. -/
def trimChars (cs : List Char) : List Char :=
  ((cs.dropWhile isBlank).reverse.dropWhile isBlank).reverse

/-- Drops the blank characters at both ends of a text. -/
def trim (s : String) : String :=
  String.ofList (trimChars s.toList)

/-- Whether a text consists of blank characters only. -/
def isAllBlank (s : String) : Bool :=
  s.toList.all isBlank

end SwiftDevEnv.Text
