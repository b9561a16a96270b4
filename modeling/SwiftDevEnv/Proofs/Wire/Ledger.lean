import Mathlib
import SwiftDevEnv.Proofs.Wire.SlotTable

/-!
# Every receiver is answered once

A client drives the slot table with four calls: it registers a request, feeds a chunk of the
backend's output, rejects a request with an error, or drops the accumulated output. Each
registration creates a fresh receiver. Here receivers are numbered by registration, and the
ledger keeps the id each registration was made under.

Along every sequence of calls from the empty table, with any ids (repeated ones and ones that
share a slot included) and any chunks, every waiting request sits in the slot of its id, and
every receiver registered so far either waits in the table or has been answered, never both and
never twice. A call answers exactly the requests that leave the table during it. Every answer
is one the call can give to the request's id: superseded by a registration into its slot, the
error of a rejection of that id, or the payload of a frame whose id line reads as that id.
-/

namespace SwiftDevEnv.Wire

open SwiftDevEnv.Backend

/-- A call a client makes on the slot table. -/
inductive Call where
  | register (id : Nat)
  | data (chunk : List UInt8)
  | reject (id : Nat) (e : Error)
  | discard

/-- The answers a call can hand to a request waiting under `d.id`, given the output accumulated
before the call: a registration into its slot supersedes it, a rejection of its id fails it with
the rejection's error, and a chunk that completes a frame with its id answers it with the
frame's payload. -/
def Call.Explains (buffer : List UInt8) : Call → Delivery Nat → Prop
  | .register id, d => slotOf id = slotOf d.id ∧ d.answer = .error (.superseded d.id)
  | .data chunk, d => isCompleteFrame (buffer ++ chunk) = true ∧
      ∃ payload, splitFrame (buffer ++ chunk) = .ok (d.id, payload) ∧
        d.answer = SlotTable.payloadAnswer payload
  | .reject id e, d => id = d.id ∧ d.answer = .error e
  | .discard, _ => False

/-- The slot table with receivers numbered by registration; `ids` holds the id of each
registration, in order. -/
structure Ledger where
  table : SlotTable Nat
  ids : List Nat

namespace Ledger

/-- Nothing registered and nothing waiting. -/
def empty : Ledger := ⟨SlotTable.empty, []⟩

/-- The request a call adds to the table: a registration's new receiver under its id. -/
def arrival (l : Ledger) : Call → List (Pending Nat)
  | .register id => [⟨id, l.ids.length⟩]
  | _ => []

/-- Performs one call: the ledger after it and the answers it hands out. -/
def call (l : Ledger) : Call → Ledger × List (Delivery Nat)
  | .register id =>
    (⟨(l.table.insert id l.ids.length).1, l.ids ++ [id]⟩,
      (l.table.insert id l.ids.length).2.toList)
  | .data chunk => (⟨(l.table.feed chunk).1, l.ids⟩, (l.table.feed chunk).2.2.toList)
  | .reject id e => (⟨(l.table.reject id e).1, l.ids⟩, (l.table.reject id e).2.toList)
  | .discard => (⟨l.table.discardBuffer, l.ids⟩, [])

/-- Performs calls in order: the final ledger and every answer handed out, in order. -/
def run (l : Ledger) : List Call → Ledger × List (Delivery Nat)
  | [] => (l, [])
  | c :: cs => (((l.call c).1.run cs).1, (l.call c).2 ++ ((l.call c).1.run cs).2)

/-- The bookkeeping of a ledger after a run that handed out the answers `log`. -/
structure Sound (l : Ledger) (log : List (Delivery Nat)) : Prop where
  /-- Every waiting request sits in the slot of its id. -/
  slot : ∀ i p, l.table.slots i = some p → slotOf p.id = i
  /-- Waiting and answered requests carry the id their receiver was registered under. -/
  registered : ∀ p ∈ l.table.entries ++ log.map Delivery.pending, l.ids[p.receiver]? = some p.id
  /-- Every receiver registered so far waits or has been answered, and only once. -/
  accounted : ((l.table.entries ++ log.map Delivery.pending).map Pending.receiver).Perm
    (List.range l.ids.length)

/-- A call registers at most the request it adds. -/
theorem call_ids (l : Ledger) (c : Call) :
    (l.call c).1.ids = l.ids ++ (l.arrival c).map Pending.id := by
  cases c <;> simp [call, arrival]

/-- A call trades the requests it answers for the request it adds. -/
theorem call_perm (l : Ledger) (c : Call) :
    ((l.call c).1.table.entries ++ (l.call c).2.map Delivery.pending).Perm
      (l.table.entries ++ l.arrival c) := by
  cases c with
  | register id => exact SlotTable.insert_perm l.table id l.ids.length
  | data chunk => simpa [call, arrival] using SlotTable.feed_perm l.table chunk
  | reject id e => simpa [call, arrival] using SlotTable.reject_perm l.table id e
  | discard => simp [call, arrival]

/-- After a call each slot holds what it held, or the request the call adds, in the slot of
its id. -/
theorem call_slots {l : Ledger} {c : Call} {i : Fin slotCount} {p : Pending Nat}
    (h : (l.call c).1.table.slots i = some p) :
    l.table.slots i = some p ∨ (p ∈ l.arrival c ∧ slotOf p.id = i) := by
  cases c with
  | register id =>
    by_cases hi : i = slotOf id
    · subst hi
      simp only [call, SlotTable.insert_fst, SlotTable.setSlot_slots, Function.update_self,
        Option.some.injEq] at h
      subst h
      simp [arrival]
    · simp_all [call]
  | data chunk => exact .inl (SlotTable.feed_slots h)
  | reject id e => exact .inl (SlotTable.reject_slots h)
  | discard => exact .inl (by simpa [call] using h)

/-- Every answer a call hands out is one it can give to the answered request's id. -/
theorem call_explains {l : Ledger} {c : Call} {d : Delivery Nat}
    (hslot : ∀ i p, l.table.slots i = some p → slotOf p.id = i) (h : d ∈ (l.call c).2) :
    c.Explains l.table.buffer d := by
  cases c with
  | register id =>
    obtain ⟨hs, ha⟩ := SlotTable.mem_insert_snd (by simpa [call] using h)
    exact ⟨(hslot _ _ hs).symm, ha⟩
  | data chunk =>
    rcases SlotTable.feed_cases l.table chunk with ⟨-, hf⟩ | ⟨-, e, -, hf⟩ |
        ⟨-, id, payload, -, -, hf⟩ | ⟨hc, id, payload, r, hsplit, -, hf⟩
    · simp [call, hf] at h
    · simp [call, hf] at h
    · simp [call, hf] at h
    · simp only [call, hf, Option.toList_some, List.mem_singleton] at h
      subst h
      exact ⟨hc, payload, hsplit, rfl⟩
  | reject id e =>
    obtain ⟨hid, ha⟩ := SlotTable.mem_reject_snd (by simpa [call] using h)
    exact ⟨hid.symm, ha⟩
  | discard => simp [call] at h

/-- The empty ledger is sound with nothing answered. -/
theorem sound_empty : Sound empty [] where
  slot i p h := by simp [empty] at h
  registered p h := by simp [empty, SlotTable.entries] at h
  accounted := by simp [empty, SlotTable.entries]

/-- One call keeps the ledger sound, with its answers added to the log. -/
theorem Sound.call {l : Ledger} {log : List (Delivery Nat)} (hs : Sound l log) (c : Call) :
    Sound (l.call c).1 (log ++ (l.call c).2) := by
  have hperm : ((l.call c).1.table.entries ++ (log ++ (l.call c).2).map Delivery.pending).Perm
      (l.table.entries ++ log.map Delivery.pending ++ l.arrival c) := by
    have h := call_perm l c
    classical
    rw [List.perm_iff_count] at h ⊢
    intro a
    have := h a
    simp only [List.map_append, List.count_append] at this ⊢
    omega
  have hids := call_ids l c
  refine ⟨?_, ?_, ?_⟩
  · intro i p h
    rcases call_slots h with h | ⟨-, h⟩
    · exact hs.slot i p h
    · exact h
  · intro p hp
    rw [hids]
    rcases List.mem_append.mp (hperm.subset hp) with hold | hnew
    · have hr := hs.registered p hold
      rw [List.getElem?_append_left (List.getElem?_eq_some_iff.mp hr).1, hr]
    · cases c <;> simp_all [arrival]
  · rw [hids, List.length_append]
    refine (hperm.map Pending.receiver).trans ?_
    rw [List.map_append]
    refine (hs.accounted.append_right _).trans ?_
    cases c <;> simp [arrival, List.range_succ]

/-- A run of calls keeps the ledger sound, with all its answers added to the log. -/
theorem Sound.run {l : Ledger} {log : List (Delivery Nat)} (hs : Sound l log) (calls : List Call) :
    Sound (l.run calls).1 (log ++ (l.run calls).2) := by
  induction calls generalizing l log with
  | nil => simpa [Ledger.run] using hs
  | cons c cs ih => simpa [Ledger.run] using ih (hs.call c)

/-- In a sound ledger an id is pending exactly when some waiting request carries it. -/
theorem Sound.isPending_iff {l : Ledger} {log : List (Delivery Nat)} (hs : Sound l log)
    (id : Nat) : l.table.isPending id = true ↔ ∃ p ∈ l.table.entries, p.id = id := by
  rw [SlotTable.isPending_iff]
  constructor
  · rintro ⟨p, hp, rfl⟩
    exact ⟨p, SlotTable.mem_entries.mpr ⟨_, hp⟩, rfl⟩
  · rintro ⟨p, hp, rfl⟩
    obtain ⟨i, hi⟩ := SlotTable.mem_entries.mp hp
    exact ⟨p, hs.slot i p hi ▸ hi, rfl⟩

/-- In a sound ledger no receiver has been answered twice. -/
theorem Sound.nodup {l : Ledger} {log : List (Delivery Nat)} (hs : Sound l log) :
    (log.map Delivery.receiver).Nodup := by
  have h := hs.accounted.nodup_iff.mpr List.nodup_range
  rw [List.map_append, List.nodup_append, List.map_map] at h
  exact h.2.1

/-- In a sound ledger the occupied slots are the receivers registered and not yet answered. -/
theorem Sound.pendingCount_eq {l : Ledger} {log : List (Delivery Nat)} (hs : Sound l log) :
    l.table.pendingCount =
      ((List.range l.ids.length).filter (· ∉ log.map Delivery.receiver)).length := by
  have hnd := hs.accounted.nodup_iff.mpr List.nodup_range
  have hfilter := (hs.accounted.filter (· ∉ log.map Delivery.receiver)).length_eq
  rw [List.map_append, List.map_map] at hnd hfilter
  rw [List.filter_append, List.length_append] at hfilter
  rw [List.nodup_append] at hnd
  have hwait : (l.table.entries.map Pending.receiver).filter (· ∉ log.map Delivery.receiver) =
      l.table.entries.map Pending.receiver :=
    List.filter_eq_self.mpr fun r hr => by
      have hr' : r ∉ log.map Delivery.receiver := fun h' =>
        hnd.2.2 r hr r (by simpa [Function.comp_def] using h') rfl
      simpa using hr'
  have hdone : (log.map (Pending.receiver ∘ Delivery.pending)).filter
      (· ∉ log.map Delivery.receiver) = [] :=
    List.filter_eq_nil_iff.mpr fun r hr => by simpa [Function.comp_def] using hr
  rw [hwait, hdone, List.length_map] at hfilter
  rw [SlotTable.pendingCount_eq_length_entries]
  simpa using hfilter

/-- Along every sequence of calls from the empty table, and for the call after it: every waiting
request sits in the slot its id gives modulo the slot count; an id is pending exactly when a
waiting request carries it; the occupied slots count the receivers registered and not yet
answered; no receiver has been answered twice; the next call answers exactly the requests that
leave the table during it (the table before it with its new request, against the table after it
with the answered requests); and each of its answers goes to a receiver registered under the
answer's id, with an answer the call can give to that id. -/
theorem run_answers_every_receiver_once (calls : List Call) (c : Call) :
    let l := (empty.run calls).1
    let log := (empty.run calls).2
    (∀ i p, l.table.slots i = some p → p.id % slotCount = i.val) ∧
    (∀ id, l.table.isPending id = true ↔ ∃ p ∈ l.table.entries, p.id = id) ∧
    l.table.pendingCount =
      ((List.range l.ids.length).filter (· ∉ log.map Delivery.receiver)).length ∧
    (log.map Delivery.receiver).Nodup ∧
    ((l.call c).1.table.entries ++ (l.call c).2.map Delivery.pending).Perm
      (l.table.entries ++ l.arrival c) ∧
    ∀ d ∈ (l.call c).2, (l.call c).1.ids[d.receiver]? = some d.id ∧
      c.Explains l.table.buffer d := by
  intro l log
  have hs : Sound l log := by simpa using sound_empty.run calls
  have hnext := hs.call c
  refine ⟨fun i p h => congrArg Fin.val (hs.slot i p h), hs.isPending_iff, hs.pendingCount_eq,
    hs.nodup, call_perm l c, fun d hd => ⟨?_, call_explains hs.slot hd⟩⟩
  simpa using hnext.registered d.pending
    (List.mem_append_right _ (List.mem_map_of_mem (List.mem_append_right _ hd)))

end Ledger

end SwiftDevEnv.Wire
