import Mathlib
import SwiftDevEnv.Proofs.Session.Task

/-!
# The window of request ids

The task hands out request ids from a counter that only a served request advances, one at a
time, so the ids of a run are `0, 1, 2, …` in the order requests are served; restarts and
replaced processes neither reset nor skip it. Every waiting request sits in the slot of its
id, and its id is one of the last `slotCount` handed out. Since consecutive ids fill
consecutive slots, the slot of a waiting id `x` is taken next by `x + slotCount` and by no id
in between: a request is answered as superseded exactly when that id is served while it still
waits, and any `slotCount` requests served in a row can all wait together.

The window invariant holds of a started task and every step keeps it; the rest follows from
it and from the inversion lemma of a step.
-/

namespace SwiftDevEnv.Session

open SwiftDevEnv.Backend SwiftDevEnv.Wire SwiftDevEnv.Wire.SlotTable

namespace TaskState

variable {ρ : Type} {s : TaskState ρ}

/-- Each waiting request sits in the slot of its id, and its id is one of the last
`slotCount` ids handed out. -/
def Windowed (s : TaskState ρ) : Prop :=
  ∀ i p, s.table.slots i = some p →
    slotOf p.id = i ∧ p.id < s.nextRequestId ∧ s.nextRequestId ≤ p.id + slotCount

/-- Ids `slotCount` apart share a slot. -/
theorem slotOf_add_slotCount (x : Nat) : slotOf (x + slotCount) = slotOf x := by
  simp [slotOf]

/-- Ids closer than `slotCount` take different slots. -/
theorem slotOf_ne_of_lt {x k : Nat} (hk : 0 < k) (hlt : k < slotCount) :
    slotOf (x + k) ≠ slotOf x := by
  simp only [slotOf, slotCount, ne_eq, Fin.mk.injEq] at hlt ⊢
  omega

/-- A started task waits for nothing. -/
theorem windowed_started : Windowed ({} : TaskState ρ).started := by
  intro i p h
  simp [SlotTable.empty] at h

/-- Registering the next id keeps the window, now one id further on: the slot of the new id
held at most the id `slotCount` before it, the one id that leaves the window. -/
theorem windowed_insert (hw : Windowed s) (r : ρ) (i : Fin slotCount) (p : Pending ρ)
    (h : (s.table.insert s.nextRequestId r).1.slots i = some p) :
    slotOf p.id = i ∧ p.id < s.nextRequestId + 1 ∧
      s.nextRequestId + 1 ≤ p.id + slotCount := by
  rw [insert_fst, setSlot_slots] at h
  by_cases hi : i = slotOf s.nextRequestId
  · subst hi
    simp only [Function.update_self, Option.some.injEq] at h
    subst h
    exact ⟨rfl, Nat.lt_succ_self _, by simp [slotCount]⟩
  · rw [Function.update_of_ne hi] at h
    obtain ⟨hslot, hlt, hle⟩ := hw i p h
    refine ⟨hslot, by omega, ?_⟩
    rcases Nat.lt_or_eq_of_le hle with hle | heq
    · omega
    · exact absurd (by rw [heq, slotOf_add_slotCount, hslot]) hi

/-- Every step keeps the window. -/
theorem windowed_step (hw : Windowed s) (input : TaskInput ρ) : Windowed (s.step input).1 := by
  rcases step_cases s input with ⟨r, start, write, s', rfl, ha, hs⟩ | hq
  · obtain ⟨-, hnext, -, -, htable⟩ := step_request_of_ok r write ha hs
    intro i p h
    rw [hnext]
    rcases htable with ⟨-, htable, -⟩ | ⟨e, -, htable, -⟩
    · rw [htable] at h
      exact windowed_insert hw r i p h
    · rw [htable] at h
      exact windowed_insert hw r i p (reject_slots h)
  · intro i p h
    rw [hq.counter]
    exact hw i p (hq.slots i p h)

/-- Every run keeps the window. -/
theorem windowed_run (hw : Windowed s) (inputs : List (TaskInput ρ)) :
    Windowed (s.run inputs).1 := by
  induction inputs generalizing s with
  | nil => exact hw
  | cons input rest ih => exact ih (windowed_step hw input)

/-- A waiting id is one of the last `slotCount` handed out. -/
theorem Windowed.isPending (hw : Windowed s) {x : Nat} (h : s.table.isPending x = true) :
    s.nextRequestId - slotCount ≤ x ∧ x < s.nextRequestId := by
  obtain ⟨p, hp, rfl⟩ := isPending_iff.mp h
  obtain ⟨-, hlt, hle⟩ := hw _ p hp
  exact ⟨by omega, hlt⟩

/-- A step hands out the next id and advances the counter by one, or hands out nothing and
keeps it. -/
theorem step_counter (s : TaskState ρ) (input : TaskInput ρ) :
    ((s.step input).2.1.assigned = some s.nextRequestId ∧
      (s.step input).1.nextRequestId = s.nextRequestId + 1) ∨
    ((s.step input).2.1.assigned = none ∧ (s.step input).1.nextRequestId = s.nextRequestId) := by
  rcases step_cases s input with ⟨r, start, write, s', rfl, ha, hs⟩ | hq
  · obtain ⟨hreply, hnext, -⟩ := step_request_of_ok r write ha hs
    exact .inl ⟨by rw [hreply]; rfl, hnext⟩
  · exact .inr ⟨hq.assigned, hq.counter⟩

/-- A step hands out an id exactly when it serves a request whose process runs or starts, and
the id is then the counter. -/
theorem step_assigned_iff (s : TaskState ρ) (input : TaskInput ρ) (n : Nat) :
    (s.step input).2.1.assigned = some n ↔ n = s.nextRequestId ∧ s.accepting = true ∧
      ∃ r start write s', input = .request r start write ∧ s.ensureRunning start = .ok s' := by
  constructor
  · intro h
    rcases step_cases s input with ⟨r, start, write, s', rfl, ha, hs⟩ | hq
    · obtain ⟨hreply, -⟩ := step_request_of_ok r write ha hs
      rw [hreply] at h
      exact ⟨(Option.some.inj h).symm, ha, r, start, write, s', rfl, hs⟩
    · rw [hq.assigned] at h
      cases h
  · rintro ⟨rfl, ha, r, start, write, s', rfl, hs⟩
    obtain ⟨hreply, -⟩ := step_request_of_ok r write ha hs
    rw [hreply]
    rfl

/-- A run hands out the ids from the counter on, one after another. -/
theorem run_assigned (s : TaskState ρ) (inputs : List (TaskInput ρ)) :
    (s.run inputs).2.filterMap (fun e => e.1.assigned) =
        List.range' s.nextRequestId ((s.run inputs).1.nextRequestId - s.nextRequestId) ∧
      s.nextRequestId ≤ (s.run inputs).1.nextRequestId := by
  induction inputs generalizing s with
  | nil => simp
  | cons input rest ih =>
    obtain ⟨hids, hle⟩ := ih (s.step input).1
    rcases step_counter s input with ⟨hid, hnext⟩ | ⟨hid, hnext⟩
    · rw [hnext] at hids hle
      have hcount : (((s.step input).1.run rest).1.nextRequestId - s.nextRequestId) =
          (((s.step input).1.run rest).1.nextRequestId - (s.nextRequestId + 1)) + 1 := by omega
      simp only [run_cons_snd, run_cons_fst, List.filterMap_cons, hid, hids, hcount,
        List.range'_succ]
      exact ⟨trivial, by omega⟩
    · rw [hnext] at hids hle
      simp only [run_cons_snd, run_cons_fst, List.filterMap_cons, hid, hids]
      exact ⟨trivial, hle⟩

/-- The slot of the next id holds at most the id `slotCount` before it. -/
theorem Windowed.occupant (hw : Windowed s) {p : Pending ρ}
    (h : s.table.slots (slotOf s.nextRequestId) = some p) :
    s.nextRequestId = p.id + slotCount := by
  obtain ⟨hslot, hlt, hle⟩ := hw _ p h
  simp only [slotOf, slotCount, Fin.mk.injEq] at hslot hle ⊢
  omega

/-- A step answers request `x` as superseded exactly when it serves the id `slotCount` after `x`
while `x` waits. The occupant of the slot is answered first, then the request itself if its write
failed. -/
theorem superseded_iff (hw : Windowed s) (input : TaskInput ρ) (x : Nat) :
    (∃ d ∈ (s.step input).2.2, d.id = x ∧ d.answer = .error (.superseded x)) ↔
      (s.step input).2.1 = .submitted (.ok (x + slotCount)) ∧ s.table.isPending x = true := by
  rcases step_cases s input with ⟨r, start, write, s', rfl, ha, hs⟩ | hq
  · obtain ⟨hreply, -, -, -, hds⟩ := step_request_of_ok r write ha hs
    have hanswers : ∀ d ∈ (s.step (.request r start write)).2.2,
        d ∈ (s.table.insert s.nextRequestId r).2 ∨ ∃ e, d.answer = .error (.io e) := by
      rcases hds with ⟨-, -, hds⟩ | ⟨e, -, -, hds⟩ <;> intro d hd <;> rw [hds] at hd
      · exact .inl (by simpa using hd)
      · rcases List.mem_append.mp hd with hd | hd
        · exact .inl (by simpa using hd)
        · exact .inr ⟨e, (mem_reject_snd (by simpa using hd)).2⟩
    have hfirst : ∀ d ∈ (s.table.insert s.nextRequestId r).2,
        d ∈ (s.step (.request r start write)).2.2 := by
      rcases hds with ⟨-, -, hds⟩ | ⟨e, -, -, hds⟩ <;> intro d hd <;> rw [hds]
      · exact Option.mem_toList.mpr hd
      · exact List.mem_append_left _ (Option.mem_toList.mpr hd)
    rw [hreply]
    constructor
    · rintro ⟨d, hd, rfl, hans⟩
      rcases hanswers d hd with hd | ⟨e, he⟩
      · have hslot := (mem_insert_snd hd).1
        have hnext : s.nextRequestId = d.id + slotCount := hw.occupant hslot
        rw [hnext, slotOf_add_slotCount] at hslot
        exact ⟨by rw [hnext], isPending_iff.mpr ⟨d.pending, hslot, rfl⟩⟩
      · rw [he] at hans
        simp at hans
    · rintro ⟨hrep, hpend⟩
      have hnext : s.nextRequestId = x + slotCount := by simpa using hrep
      obtain ⟨p, hp, rfl⟩ := isPending_iff.mp hpend
      rw [← slotOf_add_slotCount, ← hnext] at hp
      exact ⟨_, hfirst _ (insert_snd_of_slot hp), rfl, rfl⟩
  · constructor
    · rintro ⟨d, hd, -, hans⟩
      obtain ⟨payload, hp⟩ := hq.answers d hd
      exact (payloadAnswer_ne_superseded payload x (hp ▸ hans)).elim
    · rintro ⟨hrep, -⟩
      have h := hq.assigned
      rw [hrep] at h
      cases h

/-- Requests whose starts and writes succeed. -/
def okRequests (rs : List ρ) : List (TaskInput ρ) :=
  rs.map fun r => .request r (.ok ()) (.ok ())

@[simp] theorem okRequests_cons (r : ρ) (rs : List ρ) :
    okRequests (r :: rs) = .request r (.ok ()) (.ok ()) :: okRequests rs := rfl

/-- A request whose start and write succeed, served by a task that accepts it, waits in the
slot of the next id. -/
theorem step_okRequest (ha : s.accepting = true) (r : ρ) :
    (s.step (.request r (.ok ()) (.ok ()))).1.table = (s.table.insert s.nextRequestId r).1 ∧
      (s.step (.request r (.ok ()) (.ok ()))).1.nextRequestId = s.nextRequestId + 1 ∧
      (s.step (.request r (.ok ()) (.ok ()))).1.accepting = true := by
  obtain ⟨s', hs⟩ := ensureRunning_ok s
  obtain ⟨-, hnext, hacc, -, htable⟩ := step_request_of_ok r (.ok ()) ha hs
  rcases htable with ⟨-, htable, -⟩ | ⟨e, he, -⟩
  · exact ⟨htable, hnext, hacc⟩
  · cases he

/-- Served requests whose ids take other slots leave a waiting id waiting. -/
theorem isPending_run_okRequests (ha : s.accepting = true) (rs : List ρ) {x : Nat}
    (hx : s.table.isPending x = true)
    (hslots : ∀ j < rs.length, slotOf (s.nextRequestId + j) ≠ slotOf x) :
    (s.run (okRequests rs)).1.table.isPending x = true := by
  induction rs generalizing s with
  | nil => exact hx
  | cons r rest ih =>
    obtain ⟨htable, hnext, hacc⟩ := step_okRequest ha r
    rw [okRequests_cons, run_cons_fst]
    refine ih hacc ?_ fun j hj => ?_
    · rw [htable, isPending_insert_of_ne r (by simpa using hslots 0 (by simp))]
      exact hx
    · rw [hnext, Nat.add_assoc, Nat.add_comm 1 j]
      exact hslots (j + 1) (by simpa using hj)

/-- Up to `slotCount` requests served in a row, their starts and writes succeeding, all wait
together afterwards. The ids after the first take the next slots, all other than its own. -/
theorem isPending_run_okRequests_self (ha : s.accepting = true) (rs : List ρ)
    (hlen : rs.length ≤ slotCount) :
    ∀ j < rs.length, (s.run (okRequests rs)).1.table.isPending (s.nextRequestId + j) = true := by
  induction rs generalizing s with
  | nil => simp
  | cons r rest ih =>
    obtain ⟨htable, hnext, hacc⟩ := step_okRequest ha r
    have hrest : rest.length + 1 ≤ slotCount := by simpa using hlen
    intro j hj
    rw [okRequests_cons, run_cons_fst]
    cases j with
    | zero =>
      refine isPending_run_okRequests hacc rest ?_ fun j hj => ?_
      · rw [htable, Nat.add_zero]
        exact isPending_insert_self _ _ _
      · rw [hnext, Nat.add_zero, Nat.add_assoc]
        exact slotOf_ne_of_lt (by omega) (by omega)
    | succ j =>
      have h := ih hacc (by omega) j (by simpa using hj)
      rwa [hnext, Nat.add_assoc, Nat.add_comm 1 j] at h

end TaskState

open TaskState

/-- Over every run of a started task, with starts and writes failing in any pattern: requests
take the ids `0, 1, 2, …` in the order they are served, and a step takes an id exactly when it
serves a request whose process runs or starts, and then the next one; every waiting id is one
of the last `slotCount` handed out; a step answers request `x` as superseded exactly when it
serves id `x + slotCount` while `x` waits; and up to `slotCount` requests served next in a
row, their starts and writes succeeding, all wait together. -/
theorem request_ids_fill_a_sliding_window {ρ : Type} (inputs : List (TaskInput ρ))
    (input : TaskInput ρ) (n x : Nat) (rs : List ρ) (hrs : rs.length ≤ slotCount) :
    let history := ({} : TaskState ρ).started.run inputs
    let s := history.1
    history.2.filterMap (fun e => e.1.assigned) = List.range s.nextRequestId ∧
    ((s.step input).2.1.assigned = some n ↔ n = s.nextRequestId ∧ s.accepting = true ∧
      ∃ r start write s', input = .request r start write ∧ s.ensureRunning start = .ok s') ∧
    (∀ r, s.table.isPending r = true → s.nextRequestId - slotCount ≤ r ∧ r < s.nextRequestId) ∧
    ((∃ d ∈ (s.step input).2.2, d.id = x ∧ d.answer = .error (.superseded x)) ↔
      (s.step input).2.1 = .submitted (.ok (x + slotCount)) ∧ s.table.isPending x = true) ∧
    (s.accepting = true → ∀ j < rs.length,
      (s.run (okRequests rs)).1.table.isPending (s.nextRequestId + j) = true) := by
  intro history s
  have hw : Windowed s := windowed_run windowed_started inputs
  obtain ⟨hids, -⟩ := run_assigned ({} : TaskState ρ).started inputs
  refine ⟨?_, step_assigned_iff s input n, fun r hr => hw.isPending hr, superseded_iff hw input x,
    fun ha => isPending_run_okRequests_self ha rs hrs⟩
  rw [hids, List.range_eq_range']
  rfl

/-- Two requests served by a started task both wait. -/
theorem two_first_requests_wait :
    [(), ()].length ≤ slotCount ∧
      (({} : TaskState Unit).started.run (okRequests [(), ()])).1.table.isPending 1 = true :=
  ⟨by decide,
    (request_ids_fill_a_sliding_window [] .status 0 0 [(), ()] (by decide)).2.2.2.2 rfl 1
      (by decide)⟩

end SwiftDevEnv.Session
