import Mathlib
import SwiftDevEnv.Proofs.Wire.Frame
import SwiftDevEnv.Wire.SlotTable

/-!
# What the slot table's operations do to the waiting requests

The waiting requests are read as the list of occupied slots in slot order. Replacing the
content of one slot trades its old occupant for the new one in that list, up to order, so the
list is a ledger that each operation changes by at most one exchange.

Rejecting and feeding take the content of a slot out before they look at it, and put back
what they do not answer. Putting back what was taken restores the table (`take_restore`, or
`setSlot_of_slots_eq` once the slot's content is known), which is what makes a failed lookup
leave no trace.

Each operation has one lemma saying everything it can do: registering replaces the slot of
the id and answers the old occupant as superseded; rejecting empties the slot when it holds
the id; feeding either waits for more output, drops a frame whose id line cannot be read,
drops a frame for a request that is not waiting, or empties the slot of the frame's id and
answers its occupant with the payload. From these follow the exchanges on the ledger: what
leaves the table is exactly what is answered, each answer naming the request that left.

A frame that answers nobody, because its id line cannot be read or its request is not
waiting, only drops the accumulated output: every slot keeps what it held. Rejecting a request
that is not waiting changes nothing at all.
-/

namespace SwiftDevEnv.Wire

open SwiftDevEnv.Backend SwiftDevEnv.Text

/-- The request an answer went to: the id it waited under and its receiver. -/
def Delivery.pending {ρ : Type} (d : Delivery ρ) : Pending ρ := ⟨d.id, d.receiver⟩

@[simp] theorem Delivery.pending_id {ρ : Type} (d : Delivery ρ) : d.pending.id = d.id := rfl

@[simp] theorem Delivery.pending_receiver {ρ : Type} (d : Delivery ρ) :
    d.pending.receiver = d.receiver := rfl

namespace SlotTable

variable {ρ : Type}

/-- The waiting requests, in slot order. -/
def entries (t : SlotTable ρ) : List (Pending ρ) :=
  (List.finRange slotCount).filterMap t.slots

@[ext] theorem ext {t u : SlotTable ρ} (hs : t.slots = u.slots) (hb : t.buffer = u.buffer) :
    t = u := by
  cases t
  cases u
  simp_all

/-- Replacing one slot is a pointwise update of the slots. -/
@[simp] theorem setSlot_slots (t : SlotTable ρ) (i : Fin slotCount) (v : Option (Pending ρ)) :
    (t.setSlot i v).slots = Function.update t.slots i v := by
  funext j
  simp [setSlot, Function.update_apply]

@[simp] theorem setSlot_buffer (t : SlotTable ρ) (i : Fin slotCount) (v : Option (Pending ρ)) :
    (t.setSlot i v).buffer = t.buffer := rfl

/-- Only the last content put into a slot counts. -/
@[simp] theorem setSlot_setSlot (t : SlotTable ρ) (i : Fin slotCount) (v w : Option (Pending ρ)) :
    (t.setSlot i v).setSlot i w = t.setSlot i w := by
  ext1 <;> simp

/-- Putting into a slot what it already holds changes nothing. -/
theorem setSlot_of_slots_eq {t : SlotTable ρ} {i : Fin slotCount} {v : Option (Pending ρ)}
    (h : t.slots i = v) : t.setSlot i v = t := by
  ext1
  · simp [← h]
  · rfl

@[simp] theorem take_fst (t : SlotTable ρ) (i : Fin slotCount) : (t.take i).1 = t.slots i := rfl

@[simp] theorem take_snd (t : SlotTable ρ) (i : Fin slotCount) :
    (t.take i).2 = t.setSlot i none := rfl

/-- Putting back what was taken out of a slot leaves the table as it was. -/
theorem take_restore (t : SlotTable ρ) (i : Fin slotCount) :
    (t.take i).2.setSlot i (t.take i).1 = t := by
  simp [setSlot_of_slots_eq]

/-- Clearing an accumulator that holds nothing changes nothing. -/
theorem clear_of_buffer_nil {t : SlotTable ρ} (h : t.buffer = []) : { t with buffer := [] } = t := by
  ext1
  · rfl
  · exact h.symm

/-- Dropping the accumulated output empties the accumulator, whether or not it held
anything. -/
theorem discardBuffer_eq (t : SlotTable ρ) : t.discardBuffer = { t with buffer := [] } := by
  unfold discardBuffer
  split_ifs with h
  · exact (clear_of_buffer_nil (List.isEmpty_iff.mp h)).symm
  · rfl

@[simp] theorem discardBuffer_slots (t : SlotTable ρ) : t.discardBuffer.slots = t.slots := by
  rw [discardBuffer_eq]

@[simp] theorem discardBuffer_buffer (t : SlotTable ρ) : t.discardBuffer.buffer = [] := by
  rw [discardBuffer_eq]

@[simp] theorem empty_slots (i : Fin slotCount) : (empty : SlotTable ρ).slots i = none := rfl

@[simp] theorem empty_buffer : (empty : SlotTable ρ).buffer = [] := rfl

/-- A request waits exactly when some slot holds it. -/
theorem mem_entries {t : SlotTable ρ} {p : Pending ρ} :
    p ∈ t.entries ↔ ∃ i, t.slots i = some p := by
  simp [entries]

/-- The number of occupied slots is the number of waiting requests. -/
theorem pendingCount_eq_length_entries (t : SlotTable ρ) : t.pendingCount = t.entries.length :=
  List.length_filterMap_eq_countP.symm

/-- A table whose slots are all free has nothing waiting. -/
theorem entries_eq_nil {t : SlotTable ρ} (h : ∀ i, t.slots i = none) : t.entries = [] := by
  simp [entries, h]

/-- An id is pending exactly when the slot of that id holds it. -/
theorem isPending_iff {t : SlotTable ρ} {id : Nat} :
    t.isPending id = true ↔ ∃ p, t.slots (slotOf id) = some p ∧ p.id = id := by
  unfold isPending
  cases t.slots (slotOf id) <;> simp

private theorem filterMap_cons_toList {ι α : Type} (f : ι → Option α) (a : ι) (l : List ι) :
    (a :: l).filterMap f = (f a).toList ++ l.filterMap f := by
  cases h : f a <;> simp [h]

/-- Updating a function at one point of a duplicate-free list of points trades the point's old
value for its new one among the values. -/
private theorem filterMap_update_perm {ι α : Type} [DecidableEq ι] (f : ι → Option α) (i : ι)
    (v : Option α) {l : List ι} (hl : l.Nodup) (hi : i ∈ l) :
    (l.filterMap (Function.update f i v) ++ (f i).toList).Perm (l.filterMap f ++ v.toList) := by
  obtain ⟨l₁, l₂, rfl⟩ := List.append_of_mem hi
  have hnd := List.nodup_middle.mp hl
  rw [List.nodup_cons] at hnd
  have hout : ∀ l' : List ι, i ∉ l' →
      l'.filterMap (Function.update f i v) = l'.filterMap f := fun l' hl' =>
    List.filterMap_congr fun j hj => Function.update_of_ne (ne_of_mem_of_not_mem hj hl') v f
  have h₁ : i ∉ l₁ := fun h => hnd.1 (List.mem_append_left l₂ h)
  have h₂ : i ∉ l₂ := fun h => hnd.1 (List.mem_append_right l₁ h)
  simp only [List.filterMap_append, filterMap_cons_toList, Function.update_self, hout l₁ h₁,
    hout l₂ h₂, List.append_assoc]
  refine List.Perm.append_left _ ?_
  classical
  simp only [List.perm_iff_count, List.count_append]
  intro a
  omega

/-- Replacing the content of one slot trades its old occupant for the new one among the
waiting requests. -/
theorem entries_setSlot_perm (t : SlotTable ρ) (i : Fin slotCount) (v : Option (Pending ρ)) :
    ((t.setSlot i v).entries ++ (t.slots i).toList).Perm (t.entries ++ v.toList) := by
  simpa only [entries, setSlot_slots] using
    filterMap_update_perm t.slots i v (List.nodup_finRange slotCount) (List.mem_finRange i)

/-- Emptying an occupied slot takes exactly its occupant out of the waiting requests. -/
theorem entries_setSlot_none_perm {t : SlotTable ρ} {i : Fin slotCount} {p : Pending ρ}
    (h : t.slots i = some p) : ((t.setSlot i none).entries ++ [p]).Perm t.entries := by
  simpa [h] using entries_setSlot_perm t i none

/-- The waiting requests do not depend on the accumulated output. -/
@[simp] theorem entries_with_buffer (t : SlotTable ρ) (buffer : List UInt8) :
    ({ t with buffer := buffer } : SlotTable ρ).entries = t.entries := rfl

@[simp] theorem entries_discardBuffer (t : SlotTable ρ) :
    t.discardBuffer.entries = t.entries := by
  simp [discardBuffer_eq]

/-- Registering puts the request into the slot of its id. -/
@[simp] theorem insert_fst (t : SlotTable ρ) (id : Nat) (r : ρ) :
    (t.insert id r).1 = t.setSlot (slotOf id) (some ⟨id, r⟩) := by
  simp [insert]

/-- The only answer registering hands out goes to the previous occupant of the slot, and says
that it was superseded. -/
theorem mem_insert_snd {t : SlotTable ρ} {id : Nat} {r : ρ} {d : Delivery ρ}
    (h : d ∈ (t.insert id r).2) :
    t.slots (slotOf id) = some d.pending ∧ d.answer = .error (.superseded d.id) := by
  simp only [insert, Option.mem_def, Option.map_eq_some_iff] at h
  obtain ⟨p, hp, rfl⟩ := h
  exact ⟨hp, rfl⟩

/-- Registering into an occupied slot answers its occupant as superseded. -/
theorem insert_snd_of_slot {t : SlotTable ρ} {id : Nat} {r : ρ} {p : Pending ρ}
    (h : t.slots (slotOf id) = some p) :
    (t.insert id r).2 = some ⟨p.receiver, p.id, .error (.superseded p.id)⟩ := by
  simp [insert, h]

/-- A registered id waits. -/
theorem isPending_insert_self (t : SlotTable ρ) (id : Nat) (r : ρ) :
    (t.insert id r).1.isPending id = true := by
  simp [isPending]

/-- Registering leaves the ids of other slots as they were. -/
theorem isPending_insert_of_ne {t : SlotTable ρ} {id x : Nat} (r : ρ)
    (h : slotOf id ≠ slotOf x) :
    (t.insert id r).1.isPending x = t.isPending x := by
  simp [isPending, Function.update_of_ne (Ne.symm h)]

/-- Registering trades the previous occupant of the slot, which is answered, for the new
request. -/
theorem insert_perm (t : SlotTable ρ) (id : Nat) (r : ρ) :
    ((t.insert id r).1.entries ++ (t.insert id r).2.toList.map Delivery.pending).Perm
      (t.entries ++ [⟨id, r⟩]) := by
  have h := entries_setSlot_perm t (slotOf id) (some ⟨id, r⟩)
  cases hs : t.slots (slotOf id) <;> simpa [insert, hs, Delivery.pending] using h

/-- Rejecting an id that waits empties its slot and answers its receiver with the error. -/
theorem reject_of_slot {t : SlotTable ρ} {id : Nat} {r : ρ} (e : Error)
    (hs : t.slots (slotOf id) = some ⟨id, r⟩) :
    t.reject id e = (t.setSlot (slotOf id) none, some ⟨r, id, .error e⟩) := by
  simp [reject, take, hs]

/-- Rejecting a request that is not waiting answers nobody and changes nothing: what was taken
out of the slot, nothing or another id's request, is put back. -/
theorem reject_of_not_pending {t : SlotTable ρ} {id : Nat} (e : Error)
    (hp : t.isPending id = false) : t.reject id e = (t, none) := by
  unfold isPending at hp
  rcases hs : t.slots (slotOf id) with _ | ⟨pid, r⟩
  · simp [reject, take, hs, setSlot_of_slots_eq]
  · have hne : pid ≠ id := by simpa [hs] using hp
    simp [reject, take, hs, hne, setSlot_of_slots_eq]

/-- Rejecting an id that waits empties its slot and answers its receiver with the error;
rejecting any other id changes nothing. -/
theorem reject_cases (t : SlotTable ρ) (id : Nat) (e : Error) :
    (∃ r, t.slots (slotOf id) = some ⟨id, r⟩ ∧
      t.reject id e = (t.setSlot (slotOf id) none, some ⟨r, id, .error e⟩)) ∨
    (t.isPending id = false ∧ t.reject id e = (t, none)) := by
  cases hp : t.isPending id
  · exact .inr ⟨rfl, reject_of_not_pending e hp⟩
  · obtain ⟨⟨pid, r⟩, hs, rfl⟩ := isPending_iff.mp hp
    exact .inl ⟨r, hs, reject_of_slot e hs⟩

/-- Rejecting takes out of the table exactly the request it answers. -/
theorem reject_perm (t : SlotTable ρ) (id : Nat) (e : Error) :
    ((t.reject id e).1.entries ++ (t.reject id e).2.toList.map Delivery.pending).Perm
      t.entries := by
  rcases reject_cases t id e with ⟨r, hs, hr⟩ | ⟨-, hr⟩
  · simpa [hr, Delivery.pending] using entries_setSlot_none_perm hs
  · simp [hr]

/-- A chunk that completes a frame for a waiting request empties its slot and answers it with
the payload. -/
theorem feed_of_pending {t : SlotTable ρ} {chunk : List UInt8} {id : Nat} {payload : List UInt8}
    {r : ρ} (hc : isCompleteFrame (t.buffer ++ chunk) = true)
    (hsplit : splitFrame (t.buffer ++ chunk) = .ok (id, payload))
    (hs : t.slots (slotOf id) = some ⟨id, r⟩) :
    t.feed chunk = ({ t with buffer := [] }.setSlot (slotOf id) none, .ok (some id),
      some ⟨r, id, payloadAnswer payload⟩) := by
  simp [feed, hc, hsplit, takeBuffer, take, hs]

/-- A chunk that completes a frame whose id line cannot be read drops the accumulated output and
reports why. -/
theorem feed_of_split_error {t : SlotTable ρ} {chunk : List UInt8} {e : Error}
    (hc : isCompleteFrame (t.buffer ++ chunk) = true)
    (hsplit : splitFrame (t.buffer ++ chunk) = .error e) :
    t.feed chunk = ({ t with buffer := [] }, .error e, none) := by
  simp [feed, hc, hsplit, takeBuffer]

/-- A chunk that completes a frame for a request that is not waiting drops the accumulated
output and reports no answer: what was taken out of the frame's slot is put back. -/
theorem feed_of_not_pending {t : SlotTable ρ} {chunk : List UInt8} {id : Nat}
    {payload : List UInt8} (hc : isCompleteFrame (t.buffer ++ chunk) = true)
    (hsplit : splitFrame (t.buffer ++ chunk) = .ok (id, payload))
    (hp : t.isPending id = false) :
    t.feed chunk = ({ t with buffer := [] }, .ok none, none) := by
  unfold isPending at hp
  rcases hs : t.slots (slotOf id) with _ | ⟨pid, r⟩
  · simp [feed, hc, hsplit, takeBuffer, take, hs, setSlot_of_slots_eq]
  · have hne : pid ≠ id := by simpa [hs] using hp
    simp [feed, hc, hsplit, takeBuffer, take, hs, hne, setSlot_of_slots_eq]

/-- Feeding output does one of four things. It keeps output that does not end a frame; it drops
a whole frame whose id line cannot be read; it drops a whole frame whose request is not
waiting; or it empties the slot of the frame's request and answers it with the payload. -/
theorem feed_cases (t : SlotTable ρ) (chunk : List UInt8) :
    (isCompleteFrame (t.buffer ++ chunk) = false ∧
      t.feed chunk = ({ t with buffer := t.buffer ++ chunk }, .ok none, none)) ∨
    (isCompleteFrame (t.buffer ++ chunk) = true ∧ ∃ e,
      splitFrame (t.buffer ++ chunk) = .error e ∧
      t.feed chunk = ({ t with buffer := [] }, .error e, none)) ∨
    (isCompleteFrame (t.buffer ++ chunk) = true ∧ ∃ id payload,
      splitFrame (t.buffer ++ chunk) = .ok (id, payload) ∧ t.isPending id = false ∧
      t.feed chunk = ({ t with buffer := [] }, .ok none, none)) ∨
    (isCompleteFrame (t.buffer ++ chunk) = true ∧ ∃ id payload r,
      splitFrame (t.buffer ++ chunk) = .ok (id, payload) ∧ t.slots (slotOf id) = some ⟨id, r⟩ ∧
      t.feed chunk = ({ t with buffer := [] }.setSlot (slotOf id) none, .ok (some id),
        some ⟨r, id, payloadAnswer payload⟩)) := by
  cases hc : isCompleteFrame (t.buffer ++ chunk)
  · exact .inl ⟨rfl, by simp [feed, hc]⟩
  · rcases hsplit : splitFrame (t.buffer ++ chunk) with e | ⟨id, payload⟩
    · exact .inr (.inl ⟨rfl, e, rfl, feed_of_split_error hc hsplit⟩)
    · cases hp : t.isPending id
      · exact .inr (.inr (.inl ⟨rfl, id, payload, rfl, hp, feed_of_not_pending hc hsplit hp⟩))
      · obtain ⟨⟨pid, r⟩, hs, rfl⟩ := isPending_iff.mp hp
        exact .inr (.inr (.inr ⟨rfl, pid, payload, r, rfl, hs, feed_of_pending hc hsplit hs⟩))

/-- Feeding output takes out of the table exactly the request it answers. -/
theorem feed_perm (t : SlotTable ρ) (chunk : List UInt8) :
    ((t.feed chunk).1.entries ++ (t.feed chunk).2.2.toList.map Delivery.pending).Perm
      t.entries := by
  rcases feed_cases t chunk with ⟨-, hf⟩ | ⟨-, e, -, hf⟩ | ⟨-, id, payload, -, -, hf⟩ |
      ⟨-, id, payload, r, -, hs, hf⟩
  · simp [hf, entries]
  · simp [hf]
  · simp [hf]
  · simpa [hf, Delivery.pending] using entries_setSlot_none_perm (t := { t with buffer := [] }) hs

/-- A chunk that completes a frame answers somebody exactly when the frame's request waits. -/
theorem feed_answers_iff_pending {t : SlotTable ρ} {chunk : List UInt8} {id : Nat}
    {payload : List UInt8} (hc : isCompleteFrame (t.buffer ++ chunk) = true)
    (hsplit : splitFrame (t.buffer ++ chunk) = .ok (id, payload)) :
    (t.feed chunk).2.2 = none ↔ t.isPending id = false := by
  cases hp : t.isPending id
  · simp [feed_of_not_pending hc hsplit hp]
  · obtain ⟨⟨pid, r⟩, hs, rfl⟩ := isPending_iff.mp hp
    simp [feed_of_pending hc hsplit hs]

/-- Rejecting answers somebody exactly when the rejected request waits. -/
theorem reject_answers_iff_pending {t : SlotTable ρ} {id : Nat} {e : Error} :
    (t.reject id e).2 = none ↔ t.isPending id = false := by
  rcases reject_cases t id e with ⟨r, hs, hr⟩ | ⟨hp, hr⟩
  · simp [hr, isPending, hs]
  · simp [hr, hp]

/-- Output that completes a frame but answers nobody disturbs no waiting request. When the
frame's id line cannot be read the call reports a malformed frame. When it can, the call answers
nobody exactly when the frame's request is not waiting (its slot is free or holds another id),
and then reports no answer. Either way the accumulated output is dropped and every slot holds
again what it held before the call took it out. Rejecting answers nobody exactly when the id is
not waiting, and then leaves the table as it was; dropping the accumulated output changes nothing
else. -/
theorem unanswered_frames_disturb_no_request (t : SlotTable ρ) (chunk : List UInt8) :
    (isCompleteFrame (t.buffer ++ chunk) = true →
      (∀ e, splitFrame (t.buffer ++ chunk) = .error e →
        (∃ detail, e = .malformedFrame detail) ∧
          t.feed chunk = ({ t with buffer := [] }, .error e, none)) ∧
      (∀ id payload, splitFrame (t.buffer ++ chunk) = .ok (id, payload) →
        ((t.feed chunk).2.2 = none ↔ t.isPending id = false) ∧
        (t.isPending id = false → t.feed chunk = ({ t with buffer := [] }, .ok none, none)))) ∧
    (∀ id e, ((t.reject id e).2 = none ↔ t.isPending id = false) ∧
      (t.isPending id = false → t.reject id e = (t, none))) ∧
    t.discardBuffer = { t with buffer := [] } :=
  ⟨fun hc => ⟨fun _ hsplit => ⟨(splitFrame_eq_error_iff.mp hsplit).malformed,
      feed_of_split_error hc hsplit⟩,
      fun _ _ hsplit => ⟨feed_answers_iff_pending hc hsplit, feed_of_not_pending hc hsplit⟩⟩,
    fun _ e => ⟨reject_answers_iff_pending, reject_of_not_pending e⟩, discardBuffer_eq t⟩

/-- An answer for request 5 fed to a table where nothing waits is dropped whole. -/
theorem answer_without_request_dropped :
    isCompleteFrame ((empty : SlotTable Nat).buffer ++ (Text.utf8Bytes (idLine 5) ++ terminator)) =
        true ∧
      splitFrame ((empty : SlotTable Nat).buffer ++ (Text.utf8Bytes (idLine 5) ++ terminator)) =
        .ok (5, terminator) ∧
      (empty : SlotTable Nat).isPending 5 = false ∧
      (empty : SlotTable Nat).feed (Text.utf8Bytes (idLine 5) ++ terminator) =
        ({ (empty : SlotTable Nat) with buffer := [] }, .ok none, none) := by
  have hc : isCompleteFrame ((empty : SlotTable Nat).buffer ++
      (Text.utf8Bytes (idLine 5) ++ terminator)) = true := by
    simp [isCompleteFrame, List.isSuffixOf_iff_suffix]
  have hsplit : splitFrame ((empty : SlotTable Nat).buffer ++
      (Text.utf8Bytes (idLine 5) ++ terminator)) = .ok (5, terminator) := by
    simpa using splitFrame_idLine (by decide) terminator
  have hp : (empty : SlotTable Nat).isPending 5 = false := rfl
  exact ⟨hc, hsplit, hp, (((unanswered_frames_disturb_no_request _ _).1 hc).2 5 _ hsplit).2 hp⟩

/-- Emptying a slot leaves every request that still waits where it was. -/
theorem slots_of_setSlot_none {t : SlotTable ρ} {j i : Fin slotCount} {p : Pending ρ}
    (h : (t.setSlot j none).slots i = some p) : t.slots i = some p := by
  rw [setSlot_slots] at h
  by_cases hi : i = j
  · simp [hi] at h
  · simpa [Function.update_of_ne hi] using h

/-- Rejecting only ever empties a slot. -/
theorem reject_slots {t : SlotTable ρ} {id : Nat} {e : Error} {i : Fin slotCount}
    {p : Pending ρ} (h : (t.reject id e).1.slots i = some p) : t.slots i = some p := by
  rcases reject_cases t id e with ⟨r, -, hr⟩ | ⟨-, hr⟩
  · rw [hr] at h
    exact slots_of_setSlot_none h
  · simpa [hr] using h

/-- Rejecting keeps the accumulated output. -/
@[simp] theorem reject_buffer (t : SlotTable ρ) (id : Nat) (e : Error) :
    (t.reject id e).1.buffer = t.buffer := by
  rcases reject_cases t id e with ⟨r, -, hr⟩ | ⟨-, hr⟩ <;> simp [hr]

/-- Feeding output only ever empties a slot. -/
theorem feed_slots {t : SlotTable ρ} {chunk : List UInt8} {i : Fin slotCount} {p : Pending ρ}
    (h : (t.feed chunk).1.slots i = some p) : t.slots i = some p := by
  rcases feed_cases t chunk with ⟨-, hf⟩ | ⟨-, e, -, hf⟩ | ⟨-, id, payload, -, -, hf⟩ |
      ⟨-, id, payload, r, -, -, hf⟩
  · simpa [hf] using h
  · simpa [hf] using h
  · simpa [hf] using h
  · rw [hf] at h
    exact slots_of_setSlot_none h

/-- A rejection answers the rejected id with the rejection's error. -/
theorem mem_reject_snd {t : SlotTable ρ} {id : Nat} {e : Error} {d : Delivery ρ}
    (h : d ∈ (t.reject id e).2) : d.id = id ∧ d.answer = .error e := by
  rcases reject_cases t id e with ⟨r, -, hr⟩ | ⟨-, hr⟩
  · simp only [hr, Option.mem_def, Option.some.injEq] at h
    subst h
    exact ⟨rfl, rfl⟩
  · simp [hr] at h

/-- Fed output answers a request with the payload of a frame. -/
theorem mem_feed_answer {t : SlotTable ρ} {chunk : List UInt8} {d : Delivery ρ}
    (h : d ∈ (t.feed chunk).2.2) : ∃ payload, d.answer = payloadAnswer payload := by
  rcases feed_cases t chunk with ⟨-, hf⟩ | ⟨-, e, -, hf⟩ | ⟨-, id, payload, -, -, hf⟩ |
      ⟨-, id, payload, r, -, -, hf⟩
  · simp [hf] at h
  · simp [hf] at h
  · simp [hf] at h
  · simp only [hf, Option.mem_def, Option.some.injEq] at h
    exact ⟨payload, by rw [← h]⟩

/-- A payload is never answered as a superseded request. -/
theorem payloadAnswer_ne_superseded (payload : List UInt8) (r : Nat) :
    payloadAnswer payload ≠ .error (.superseded r) := by
  unfold payloadAnswer
  cases decode payload <;> simp

/-- Feeds chunks one after another: the table after the last, the result of each call, and the
answers handed out, in order. -/
def feedAll (t : SlotTable ρ) :
    List (List UInt8) → SlotTable ρ × List FeedResult × List (Delivery ρ)
  | [] => (t, [], [])
  | chunk :: rest =>
    (((t.feed chunk).1.feedAll rest).1, (t.feed chunk).2.1 :: ((t.feed chunk).1.feedAll rest).2.1,
      (t.feed chunk).2.2.toList ++ ((t.feed chunk).1.feedAll rest).2.2)

end SlotTable

end SwiftDevEnv.Wire
