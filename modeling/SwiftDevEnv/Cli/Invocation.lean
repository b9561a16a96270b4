/-!
# Command lines of the `sde` tool

The tool takes a command and its arguments: completions, raw cursor information, a hover or a
definition at a byte offset of a file, demangling names, formatting a range of lines, or
listing the discovered targets. Offsets are unsigned numbers of 64 bits and lines of 32 bits.

A number is an optional `+` and decimal digits. Reading goes from left to right and stops at
the first character that is not a digit, or at the first digit that makes the number too
large, whichever comes first; the empty text is refused on its own.

A command line that does not fit is refused with a message; a missing or unknown command adds
the usage text.
-/

namespace SwiftDevEnv.Cli

/-- The usage text. -/
def usage : String :=
  "usage: sde <command> [args]\n\n" ++
  "commands:\n" ++
  "  complete <file> <offset>        completion items at a byte offset\n" ++
  "  cursor-info <file> <offset>     raw cursor info\n" ++
  "  hover <file> <offset>           hover contents\n" ++
  "  definition <file> <offset>      declaration location\n" ++
  "  demangle <name>...              demangle mangled names\n" ++
  "  format <file> <start> <end>     format lines start..=end (1-based)\n" ++
  "  targets                         list discovered targets"

/-- Why a text is not an unsigned number. -/
inductive NumberError where
  | empty
  | invalidDigit
  | tooLarge
  deriving DecidableEq, Repr

/-- The message of a number that does not read. -/
def NumberError.message : NumberError → String
  | .empty => "cannot parse integer from empty string"
  | .invalidDigit => "invalid digit found in string"
  | .tooLarge => "number too large to fit in target type"

/-- Reads decimal digits onto `acc`, below `bound`. -/
def readDigits (bound : Nat) : List Char → Nat → Except NumberError Nat
  | [], acc => .ok acc
  | c :: rest, acc =>
    if !c.isDigit then .error .invalidDigit
    else
      let next := acc * 10 + (c.toNat - 48)
      if next < bound then readDigits bound rest next else .error .tooLarge

/-- Reads an unsigned number of `bits` bits. -/
def readUnsigned (bits : Nat) (text : String) : Except NumberError Nat :=
  match text.toList with
  | [] => .error .empty
  | ['+'] => .error .invalidDigit
  | '+' :: digits => readDigits (Nat.pow 2 bits) digits 0
  | digits => readDigits (Nat.pow 2 bits) digits 0

/-- What the tool is asked to do. -/
inductive Command where
  | complete (file : String) (offset : Nat)
  | cursorInfo (file : String) (offset : Nat)
  | hover (file : String) (offset : Nat)
  | definition (file : String) (offset : Nat)
  | demangle (names : List String)
  | format (file : String) (first last : UInt32)
  | targets
  deriving DecidableEq, Repr

/-- Reads a number argument; `what` names it in the message. -/
def numberArgument (what : String) (bits : Nat) (text : String) : Except String Nat :=
  (readUnsigned bits text).mapError fun e => what ++ ": " ++ text ++ ": " ++ e.message

/-- Reads a command line. -/
def Command.parse : List String → Except String Command
  | [] => .error ("missing command\n\n" ++ usage)
  | command :: rest =>
    let fileAndOffset : Except String (String × Nat) :=
      match rest with
      | [file, offset] => do return (file, ← numberArgument "invalid offset" 64 offset)
      | _ => .error (command ++ " expects <file> <offset>")
    if command == "complete" then fileAndOffset.map fun (f, o) => .complete f o
    else if command == "cursor-info" then fileAndOffset.map fun (f, o) => .cursorInfo f o
    else if command == "hover" then fileAndOffset.map fun (f, o) => .hover f o
    else if command == "definition" then fileAndOffset.map fun (f, o) => .definition f o
    else if command == "demangle" then
      if rest.isEmpty then .error "demangle expects at least one name" else .ok (.demangle rest)
    else if command == "format" then
      match rest with
      | [file, first, last] => do
        let first ← numberArgument "invalid line" 32 first
        let last ← numberArgument "invalid line" 32 last
        return .format file first.toUInt32 last.toUInt32
      | _ => .error "format expects <file> <start> <end>"
    else if command == "targets" then .ok .targets
    else .error ("unknown command: " ++ command ++ "\n\n" ++ usage)

end SwiftDevEnv.Cli
