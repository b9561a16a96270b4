import SwiftDevEnv.Wire.Frame

/-!
# The slot table of pending requests

Requests waiting for an answer sit in a table of 64 slots; request `id` takes slot `id % 64`.
A slot holds at most one request: registering a request into an occupied slot answers the
previous occupant that it was superseded. The backend's output is accumulated until it forms
a whole frame; the frame's id then picks the slot, and if the slot holds that very request its
receiver gets the payload (or an error when the payload is not UTF-8). A frame whose id line
cannot be read, or whose request is not waiting, is dropped with the accumulated output.

Every operation returns what it delivered: a receiver and the answer it was sent. An operation
that looks into a slot takes its content out, leaving the slot free, and puts back what it does
not answer; a whole frame is taken out of the accumulator before it is split.
-/

namespace SwiftDevEnv.Wire

open SwiftDevEnv.Backend SwiftDevEnv.Text

/-- The number of slots. -/
def slotCount : Nat := 64

/-- The slot of a request id. -/
def slotOf (id : Nat) : Fin slotCount := ⟨id % slotCount, Nat.mod_lt _ (by decide)⟩

/-- A request waiting for its answer, with the receiver that will get it. -/
structure Pending (ρ : Type) where
  id : Nat
  receiver : ρ

/-- What a waiting request is answered: the payload text or an error. -/
abbrev Answer := Except Error String

/-- An answer handed to a receiver. -/
structure Delivery (ρ : Type) where
  receiver : ρ
  id : Nat
  answer : Answer

/-- The slot table and the output accumulated since the last whole frame. -/
structure SlotTable (ρ : Type) where
  slots : Fin slotCount → Option (Pending ρ)
  buffer : List UInt8

namespace SlotTable

variable {ρ : Type}

/-- The table with every slot free and nothing accumulated. -/
def empty : SlotTable ρ := ⟨fun _ => none, []⟩

/-- The table with one slot replaced. -/
def setSlot (t : SlotTable ρ) (i : Fin slotCount) (v : Option (Pending ρ)) : SlotTable ρ :=
  { t with slots := fun j => if j = i then v else t.slots j }

/-- Takes the content out of a slot: what it held, and the table with the slot free. -/
def take (t : SlotTable ρ) (i : Fin slotCount) : Option (Pending ρ) × SlotTable ρ :=
  (t.slots i, t.setSlot i none)

/-- Takes the accumulated output out: the bytes, and the table with nothing accumulated. -/
def takeBuffer (t : SlotTable ρ) : List UInt8 × SlotTable ρ :=
  (t.buffer, { t with buffer := [] })

/-- Registers a request; a request still waiting in its slot is taken out and answered as
superseded. -/
def insert (t : SlotTable ρ) (id : Nat) (receiver : ρ) : SlotTable ρ × Option (Delivery ρ) :=
  let i := slotOf id
  let (previous, t) := t.take i
  (t.setSlot i (some ⟨id, receiver⟩),
    previous.map fun p => ⟨p.receiver, p.id, .error (.superseded p.id)⟩)

/-- Answers a waiting request with an error. The slot's content is taken out, and put back
when it is not that request. -/
def reject (t : SlotTable ρ) (id : Nat) (e : Error) : SlotTable ρ × Option (Delivery ρ) :=
  let i := slotOf id
  match t.take i with
  | (some p, t') =>
    if p.id = id then (t', some ⟨p.receiver, p.id, .error e⟩) else (t'.setSlot i (some p), none)
  | (other, t') => (t'.setSlot i other, none)

/-- Whether a request is waiting. -/
def isPending (t : SlotTable ρ) (id : Nat) : Bool :=
  match t.slots (slotOf id) with
  | some p => p.id = id
  | none => false

/-- The number of occupied slots. -/
def pendingCount (t : SlotTable ρ) : Nat :=
  (List.finRange slotCount).countP (fun i => (t.slots i).isSome)

/-- The number of bytes accumulated since the last whole frame. -/
def bufferedLen (t : SlotTable ρ) : Nat := t.buffer.length

/-- Drops the accumulated output, if there is any, and keeps the waiting requests. -/
def discardBuffer (t : SlotTable ρ) : SlotTable ρ :=
  if t.buffer.isEmpty then t else { t with buffer := [] }

/-- What a waiting request is answered when its frame arrives: the payload as text, or an error
when the payload is not UTF-8. -/
def payloadAnswer (payload : List UInt8) : Answer :=
  match decode payload with
  | .ok text => .ok text
  | .error u => .error (.malformedResponse ("payload is not UTF-8: " ++ u.message))

/-- The outcome of feeding output: the answered request id, or none while a frame is
incomplete or when it answers no waiting request; an error for an unreadable id line. -/
abbrev FeedResult := Except Error (Option Nat)

/-- Feeds a chunk of output. A whole frame is taken out of the accumulator and split; the slot
of its id is taken out, and put back when it does not hold that request. -/
def feed (t : SlotTable ρ) (chunk : List UInt8) : SlotTable ρ × FeedResult × Option (Delivery ρ) :=
  let t := { t with buffer := t.buffer ++ chunk }
  if !isCompleteFrame t.buffer then (t, .ok none, none)
  else
    let (frame, t) := t.takeBuffer
    match splitFrame frame with
    | .error e => (t, .error e, none)
    | .ok (id, payload) =>
      let i := slotOf id
      match t.take i with
      | (some p, t') =>
        if p.id = id then (t', .ok (some id), some ⟨p.receiver, id, payloadAnswer payload⟩)
        else (t'.setSlot i (some p), .ok none, none)
      | (other, t') => (t'.setSlot i other, .ok none, none)

end SlotTable

end SwiftDevEnv.Wire
