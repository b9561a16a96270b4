/-!
# How a shell reads a command line

A POSIX shell cuts a command line into tokens (XCU 2.3, token recognition) and removes the
quotes from its words (2.6.7). Outside quotes a blank ends a word, a newline or one of
`; & | < > ( )` starts an operator, and `#` at the start of a token opens a comment; single
quotes keep every character up to the next single quote; double quotes keep every character but
let a backslash escape `$`, `` ` ``, `"` and `\`; an unquoted backslash keeps the next character.
An operator is the longest run of operator characters that still begins some operator.

The reader here follows those rules left to right, one character at a time. It does not expand:
a command line whose unquoted text holds `$`, `` ` ``, `*`, `?` or `[`, a word that starts with
`~`, a double-quoted `$` or `` ` ``, a line continuation or a here-document has no reading here.
-/

namespace SwiftDevEnv.Shell

/-- A token of a command line: a word, with its quotes removed, or an operator. -/
inductive Token where
  | word (text : String)
  | op (text : String)
  deriving DecidableEq, Repr

/-- The operators of the shell language. -/
def operators : List (List Char) :=
  ["&&", "||", ";;", "<<", ">>", "<&", ">&", "<>", "<<-", ">|", "&", "|", ";", "<", ">", "(",
    ")"].map String.toList

/-- Whether a character separates words. -/
def isBlank (c : Char) : Bool := c == ' ' || c == '\t'

/-- Whether a character starts an operator. -/
def isOperatorChar (c : Char) : Bool := [';', '&', '|', '<', '>', '(', ')'].contains c

/-- Whether an unquoted character starts an expansion. -/
def expands (c : Char) : Bool := ['$', '\x60', '*', '?', '['].contains c

/-- Where the reader is within the current token. -/
inductive Mode where
  | between
  | plain
  | single
  | double
  | escaped
  | doubleEscaped
  | operator
  | comment
  deriving DecidableEq, Repr

/-- The reader: where it is, the characters of the current token, and the tokens read. -/
structure Reader where
  mode : Mode
  acc : List Char
  tokens : List Token
  deriving DecidableEq, Repr

/-- The reader before the first character. -/
def Reader.start : Reader := ⟨.between, [], []⟩

/-- An operator ends; a here-document has no reading. -/
def endOperator (ts : List Token) (acc : List Char) : Option (List Token) :=
  if acc = "<<".toList ∨ acc = "<<-".toList then none else some (ts ++ [.op (String.ofList acc)])

/-- A character read in an unquoted part of a word holding `acc`, after the tokens `ts`. -/
def wordChar (acc : List Char) (ts : List Token) (c : Char) : Option Reader :=
  if isBlank c then some ⟨.between, [], ts ++ [.word (String.ofList acc)]⟩
  else if c = '\n' then some ⟨.between, [], ts ++ [.word (String.ofList acc), .op "\n"]⟩
  else if isOperatorChar c then some ⟨.operator, [c], ts ++ [.word (String.ofList acc)]⟩
  else if c = '\'' then some ⟨.single, acc, ts⟩
  else if c = '"' then some ⟨.double, acc, ts⟩
  else if c = '\\' then some ⟨.escaped, acc, ts⟩
  else if expands c then none
  else some ⟨.plain, acc ++ [c], ts⟩

/-- A character read where no token is open, after the tokens `ts`. -/
def startToken (ts : List Token) (c : Char) : Option Reader :=
  if isBlank c then some ⟨.between, [], ts⟩
  else if c = '\n' then some ⟨.between, [], ts ++ [.op "\n"]⟩
  else if c = '#' then some ⟨.comment, [], ts⟩
  else if isOperatorChar c then some ⟨.operator, [c], ts⟩
  else if c = '~' then none
  else wordChar [] ts c

/-- Reads one character. -/
def step (r : Reader) (c : Char) : Option Reader :=
  match r.mode with
  | .between => startToken r.tokens c
  | .plain => wordChar r.acc r.tokens c
  | .single =>
    if c = '\'' then some ⟨.plain, r.acc, r.tokens⟩ else some ⟨.single, r.acc ++ [c], r.tokens⟩
  | .double =>
    if c = '"' then some ⟨.plain, r.acc, r.tokens⟩
    else if c = '\\' then some ⟨.doubleEscaped, r.acc, r.tokens⟩
    else if c = '$' ∨ c = '\x60' then none
    else some ⟨.double, r.acc ++ [c], r.tokens⟩
  | .escaped => if c = '\n' then none else some ⟨.plain, r.acc ++ [c], r.tokens⟩
  | .doubleEscaped =>
    if c = '\n' then none
    else if ['$', '\x60', '"', '\\'].contains c then some ⟨.double, r.acc ++ [c], r.tokens⟩
    else some ⟨.double, r.acc ++ ['\\', c], r.tokens⟩
  | .operator =>
    if operators.any (fun o => (r.acc ++ [c]).isPrefixOf o) then
      some ⟨.operator, r.acc ++ [c], r.tokens⟩
    else (endOperator r.tokens r.acc).bind (startToken · c)
  | .comment => if c = '\n' then some ⟨.between, [], r.tokens ++ [.op "\n"]⟩ else some r

/-- The tokens once the input ends; an open quote or escape has no reading. -/
def finish (r : Reader) : Option (List Token) :=
  match r.mode with
  | .between | .comment => some r.tokens
  | .plain => some (r.tokens ++ [.word (String.ofList r.acc)])
  | .operator => endOperator r.tokens r.acc
  | .single | .double | .escaped | .doubleEscaped => none

/-- The tokens of a command line, or none when it has no reading. -/
def readCommandLine (cs : List Char) : Option (List Token) :=
  (cs.foldlM step Reader.start).bind finish

/-! ## Reading after earlier tokens

The reader never looks back at the tokens it has read: from a state with more tokens in front
it reads the same and keeps them there. -/

/-- The reader with the tokens `ts` read before its own. -/
def Reader.after (ts : List Token) (r : Reader) : Reader := ⟨r.mode, r.acc, ts ++ r.tokens⟩

theorem endOperator_append (ts us : List Token) (acc : List Char) :
    endOperator (ts ++ us) acc = (endOperator us acc).map (ts ++ ·) := by
  unfold endOperator
  split <;> simp

theorem wordChar_append (acc : List Char) (ts us : List Token) (c : Char) :
    wordChar acc (ts ++ us) c = (wordChar acc us c).map (Reader.after ts) := by
  simp only [wordChar, apply_ite (Option.map (Reader.after ts)), Option.map_some, Option.map_none,
    Reader.after, List.append_assoc]

theorem startToken_append (ts us : List Token) (c : Char) :
    startToken (ts ++ us) c = (startToken us c).map (Reader.after ts) := by
  simp only [startToken, wordChar_append, apply_ite (Option.map (Reader.after ts)),
    Option.map_some, Option.map_none, Reader.after, List.append_assoc]

theorem step_after (ts : List Token) (r : Reader) (c : Char) :
    step (r.after ts) c = (step r c).map (Reader.after ts) := by
  rcases r with ⟨m, acc, us⟩
  cases m
  case operator =>
    simp only [step, Reader.after, apply_ite (Option.map (Reader.after ts)), Option.map_some,
      endOperator_append]
    cases endOperator us acc <;> simp [startToken_append]
  all_goals
    simp only [step, Reader.after, startToken_append, wordChar_append,
      apply_ite (Option.map (Reader.after ts)), Option.map_some, Option.map_none,
      List.append_assoc]

theorem foldlM_step_after (ts : List Token) (cs : List Char) (r : Reader) :
    cs.foldlM step (r.after ts) = (cs.foldlM step r).map (Reader.after ts) := by
  induction cs generalizing r with
  | nil => rfl
  | cons c cs ih =>
    simp only [List.foldlM_cons, step_after]
    cases step r c <;> simp [ih]

theorem finish_after (ts : List Token) (r : Reader) :
    finish (r.after ts) = (finish r).map (ts ++ ·) := by
  rcases r with ⟨m, acc, us⟩
  cases m <;> simp [finish, Reader.after, endOperator_append]

/-- Reading from a state with the tokens `ts` in front gives the tokens read from the start,
after `ts`. -/
theorem read_after (ts : List Token) (cs : List Char) :
    (cs.foldlM step (Reader.start.after ts)).bind finish = (readCommandLine cs).map (ts ++ ·) := by
  rw [foldlM_step_after, readCommandLine]
  cases cs.foldlM step Reader.start <;> simp [finish_after]

/-! ## Words read as they stand -/

/-- A character that an unquoted word keeps as it is. -/
def isWordChar (c : Char) : Bool :=
  !isBlank c && c != '\n' && !isOperatorChar c && c != '\'' && c != '"' && c != '\\' && !expands c

/-- A word that the shell reads as it is written: word characters only, not starting a comment
or a tilde expansion. -/
def isPlainWord : List Char → Bool
  | [] => false
  | c :: cs => c != '#' && c != '~' && (c :: cs).all isWordChar

theorem wordChar_of_isWordChar {c : Char} (h : isWordChar c) (acc : List Char) (ts : List Token) :
    wordChar acc ts c = some ⟨.plain, acc ++ [c], ts⟩ := by
  simp_all [isWordChar, wordChar]

theorem startToken_of_isWordChar {c : Char} (h : isWordChar c) (hhash : c ≠ '#')
    (htilde : c ≠ '~') (ts : List Token) : startToken ts c = some ⟨.plain, [c], ts⟩ := by
  simp_all [isWordChar, startToken, wordChar]

/-- An unquoted run of word characters extends the open word. -/
theorem foldlM_plain {cs : List Char} (h : ∀ c ∈ cs, isWordChar c) (acc : List Char)
    (ts : List Token) : cs.foldlM step ⟨.plain, acc, ts⟩ = some ⟨.plain, acc ++ cs, ts⟩ := by
  induction cs generalizing acc with
  | nil => simp
  | cons c cs ih =>
    have hc : step ⟨.plain, acc, ts⟩ c = some ⟨.plain, acc ++ [c], ts⟩ :=
      wordChar_of_isWordChar (h c (by simp)) acc ts
    simp [hc, ih (fun d hd => h d (by simp [hd]))]

/-- Within single quotes every character but the quote is kept. -/
theorem foldlM_single {cs : List Char} (h : '\'' ∉ cs) (acc : List Char) (ts : List Token) :
    cs.foldlM step ⟨.single, acc, ts⟩ = some ⟨.single, acc ++ cs, ts⟩ := by
  induction cs generalizing acc with
  | nil => simp
  | cons c cs ih =>
    have hc : c ≠ '\'' := fun hc => h (by simp [hc])
    have hstep : step ⟨.single, acc, ts⟩ c = some ⟨.single, acc ++ [c], ts⟩ := by
      simp [step, hc]
    simp [hstep, ih (fun hq => h (by simp [hq]))]

/-- A single-quoted text with no quote in it, followed by a blank, is read as one word. -/
theorem foldlM_quoted {s : List Char} (h : '\'' ∉ s) (ts : List Token) :
    ('\'' :: (s ++ ['\'', ' '])).foldlM step ⟨.between, [], ts⟩ =
      some ⟨.between, [], ts ++ [.word (String.ofList s)]⟩ := by
  have hopen : step ⟨.between, [], ts⟩ '\'' = some ⟨.single, [], ts⟩ := by
    simp [step, startToken, wordChar, isBlank, isOperatorChar]
  have hclose : step ⟨.single, s, ts⟩ '\'' = some ⟨.plain, s, ts⟩ := by simp [step]
  have hblank : step ⟨.plain, s, ts⟩ ' ' = some ⟨.between, [], ts ++ [.word (String.ofList s)]⟩ := by
    simp [step, wordChar, isBlank]
  simp only [List.foldlM_cons, List.foldlM_append, hopen, foldlM_single h, List.nil_append,
    Option.bind_eq_bind, Option.bind_some, hclose, hblank, List.foldlM_nil, Option.pure_def]

/-- A plain word opens a word and keeps all of it. -/
theorem foldlM_plainWord {w : List Char} (h : isPlainWord w) (ts : List Token) :
    w.foldlM step ⟨.between, [], ts⟩ = some ⟨.plain, w, ts⟩ := by
  cases w with
  | nil => simp [isPlainWord] at h
  | cons c cs =>
    simp only [isPlainWord, Bool.and_eq_true, bne_iff_ne, ne_eq, List.all_eq_true] at h
    obtain ⟨⟨hhash, htilde⟩, hword⟩ := h
    have hstart : step ⟨.between, [], ts⟩ c = some ⟨.plain, [c], ts⟩ :=
      startToken_of_isWordChar (hword c List.mem_cons_self) hhash htilde ts
    have hrest := foldlM_plain (fun d hd => hword d (List.mem_cons_of_mem c hd)) [c] ts
    simp [hstart, hrest]

/-- A plain word followed by a blank is read as one word. -/
theorem foldlM_plainWord_blank {w : List Char} (h : isPlainWord w) (ts : List Token) :
    (w ++ [' ']).foldlM step ⟨.between, [], ts⟩ =
      some ⟨.between, [], ts ++ [.word (String.ofList w)]⟩ := by
  have hblank : step ⟨.plain, w, ts⟩ ' ' = some ⟨.between, [], ts ++ [.word (String.ofList w)]⟩ := by
    simp [step, wordChar, isBlank]
  simp [List.foldlM_append, foldlM_plainWord h, hblank]

/-- A command line that is one plain word is read as that word. -/
theorem readCommandLine_plainWord {w : List Char} (h : isPlainWord w) :
    readCommandLine w = some [.word (String.ofList w)] := by
  simp [readCommandLine, Reader.start, foldlM_plainWord h, finish]

end SwiftDevEnv.Shell
