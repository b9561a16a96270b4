import SwiftDevEnv.Yaml.Parser

/-!
# Loading a YAML document

A document is the list of node events between its start and end, with aliases replaced by the
number of the anchor they name. Anchors are numbered by the count of distinct anchor names
seen before them, and each anchored event's position is stored under its number, so an alias
finds the event it stands for by that number. A name anchored again takes a new number without
adding to the count, so two names can end up sharing a number, and then the later anchor's
event is the one both stand for.

Loading stops at the first stream error or unknown alias; the events read so far are kept with
the error, which is reported if a reader needs an event past them. An empty stream is one
document holding a single `void` event.
-/

namespace SwiftDevEnv.Yaml

/-- A node event of a loaded document. -/
inductive Node where
  | alias (id : Nat)
  | scalar (tag : Option Tag) (text : String) (style : ScalarStyle)
  | sequenceStart (tag : Option Tag)
  | sequenceEnd
  | mappingStart (tag : Option Tag)
  | mappingEnd
  | void
  deriving Repr, Inhabited

/-- Why reading a YAML document into a value failed. -/
inductive DecodeError where
  | stream (e : StreamError)
  | unknownAnchor (m : Mark)
  | moreThanOneDocument
  | recursionLimit (m : Mark)
  | repetitionLimit
  | endOfStream
  /-- A message from the reader of a value, with the mark and path of the node it concerns
  once known. -/
  | message (text : String) (place : Option (Mark × String))
  deriving Repr, Inhabited

/-- The text of a mark when it is shown: only away from the start of the stream. -/
def markSuffix (m : Mark) : String := if m.atOrigin then "" else " at " ++ m.text

/-- The message of a decoding error. -/
def DecodeError.text : DecodeError → String
  | .stream e => e.message
  | .unknownAnchor m => "unknown anchor" ++ markSuffix m
  | .moreThanOneDocument =>
    "deserializing from YAML containing more than one document is not supported"
  | .recursionLimit m => "recursion limit exceeded" ++ markSuffix m
  | .repetitionLimit => "repetition limit exceeded"
  | .endOfStream => "EOF while parsing a value"
  | .message t none => t
  | .message t (some (m, path)) => (if path == "." then "" else path ++ ": ") ++ t ++ markSuffix m

/-- Attaches a node's mark and path to a message that has none yet. -/
def DecodeError.locate (m : Mark) (path : String) : DecodeError → DecodeError
  | .message t none => .message t (some (m, path))
  | e => e

/-- A loaded document. -/
structure Document where
  events : Array (Node × Mark)
  aliases : Array Nat
  error : Option DecodeError
  deriving Inhabited

/-- The alias table with a position stored under an anchor number, replacing any position
stored there before. -/
def storePosition (aliases : Array Nat) (id position : Nat) : Array Nat :=
  if id < aliases.size then aliases.setIfInBounds id position
  else (aliases ++ Array.replicate (id - aliases.size) 0).push position

/-- Records an anchor: it gets the number of distinct anchor names known before it, and its
event position is stored under that number. Anchoring a name again does not add a name, so the
next new name gets the same number, and its position replaces the earlier one. -/
def recordAnchor (anchors : List (String × Nat)) (aliases : Array Nat) (name : String)
    (position : Nat) : List (String × Nat) × Array Nat :=
  let id := anchors.length
  let anchors := if anchors.any (·.1 == name) then
      anchors.map fun (n, i) => if n == name then (n, id) else (n, i)
    else anchors ++ [(name, id)]
  (anchors, storePosition aliases id position)

/-- Reads the next document with the parser. Gives nothing once the stream has ended (for the
first document, an empty stream gives a void document instead), and the parser to go on with,
if any. -/
def loadDocument (first : Bool) (p : Parser) : Option Document × Option Parser := Id.run do
  let mut p := p
  let mut events : Array (Node × Mark) := #[]
  let mut aliases : Array Nat := #[]
  let mut anchors : List (String × Nat) := []
  let n := 16 * (p.scanner.input.chars.size + 16)
  for _ in [0:n] do
    match Parser.nextEvent.run p with
    | .error e => return (some ⟨events, aliases, some (.stream e)⟩, some p)
    | .ok (ev, p') =>
      p := p'
      let m := ev.start
      match ev.kind with
      | .streamStart | .documentStart => pure ()
      | .streamEnd =>
        if first then
          let evs := if events.isEmpty then #[(Node.void, m)] else events
          return (some ⟨evs, aliases, none⟩, none)
        else return (none, none)
      | .documentEnd => return (some ⟨events, aliases, none⟩, some p)
      | .alias name =>
        match anchors.find? (·.1 == name) with
        | some (_, id) => events := events.push (.alias id, m)
        | none => return (some ⟨events, aliases, some (.unknownAnchor m)⟩, some p)
      | .scalar anchor tag text style =>
        if let some a := anchor then
          (anchors, aliases) := recordAnchor anchors aliases a events.size
        events := events.push (.scalar tag text style, m)
      | .sequenceStart anchor tag =>
        if let some a := anchor then
          (anchors, aliases) := recordAnchor anchors aliases a events.size
        events := events.push (.sequenceStart tag, m)
      | .sequenceEnd => events := events.push (.sequenceEnd, m)
      | .mappingStart anchor tag =>
        if let some a := anchor then
          (anchors, aliases) := recordAnchor anchors aliases a events.size
        events := events.push (.mappingStart tag, m)
      | .mappingEnd => events := events.push (.mappingEnd, m)
  return (some ⟨events, aliases, some .endOfStream⟩, none)

end SwiftDevEnv.Yaml
