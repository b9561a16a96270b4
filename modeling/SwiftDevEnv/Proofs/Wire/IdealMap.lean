import Mathlib
import SwiftDevEnv.Proofs.Wire.Frame
import SwiftDevEnv.Proofs.Wire.SlotTable

/-!
# The slot table as a map from ids to callers

Requests whose ids take distinct slots do not disturb each other. Registered into an empty
table in any order, each waits in its own slot; their answers, fed one whole frame per call in
any order, each find their request, so every call reports the frame's id and hands the
frame's payload to the receiver registered under it. Afterwards nothing waits and nothing is
accumulated. The table then behaves like a map from id to caller, whatever the order of the
answers, for ids far above the slot count as well.

The invariant is that the table holds exactly the requests of a list of ids, each in the slot
of its id and under its own receiver, with nothing accumulated.
-/

namespace SwiftDevEnv.Wire

namespace SlotTable

variable {ρ : Type}

/-- Registers requests one after another, each under its id with its receiver: the table after
the last, and the answers handed to the requests they superseded. -/
def registerAll (t : SlotTable ρ) : List (Nat × ρ) → SlotTable ρ × List (Delivery ρ)
  | [] => (t, [])
  | (id, r) :: rest =>
    (((t.insert id r).1.registerAll rest).1, (t.insert id r).2.toList ++
      ((t.insert id r).1.registerAll rest).2)

/-- The table holds exactly the requests of the ids `xs`, each in the slot of its id under its
receiver `rcv x`. -/
structure Holds (t : SlotTable ρ) (rcv : Nat → ρ) (xs : List Nat) : Prop where
  /-- Each id of the list waits in its slot. -/
  waiting : ∀ x ∈ xs, t.slots (slotOf x) = some ⟨x, rcv x⟩
  /-- A slot that no id of the list takes is free. -/
  free : ∀ i, (∀ x ∈ xs, slotOf x ≠ i) → t.slots i = none

/-- The empty table holds no request. -/
theorem holds_empty (rcv : Nat → ρ) : Holds empty rcv [] :=
  ⟨by simp, fun _ _ => rfl⟩

/-- Registering ids whose slots are distinct from each other and from those taken supersedes
nothing, and the table then holds them too. -/
theorem registerAll_holds {t : SlotTable ρ} {rcv : Nat → ρ} {xs : List Nat} (ys : List Nat)
    (h : Holds t rcv xs) (hslots : ((xs ++ ys).map slotOf).Nodup) :
    Holds (t.registerAll (ys.map fun y => (y, rcv y))).1 rcv (xs ++ ys) ∧
      (t.registerAll (ys.map fun y => (y, rcv y))).2 = [] ∧
      (t.registerAll (ys.map fun y => (y, rcv y))).1.buffer = t.buffer := by
  induction ys generalizing t xs with
  | nil => simpa [registerAll] using h
  | cons y ys ih =>
    rw [List.map_append, List.nodup_append] at hslots
    have hy : ∀ x ∈ xs, slotOf x ≠ slotOf y := fun x hx hxy =>
      hslots.2.2 _ (List.mem_map_of_mem hx) _ (List.mem_map_of_mem (List.mem_cons_self ..)) hxy
    have hfree : t.slots (slotOf y) = none := h.free _ hy
    have hnext : Holds (t.insert y (rcv y)).1 rcv (xs ++ [y]) := by
      constructor
      · intro x hx
        rcases List.mem_append.mp hx with hx | hx
        · simp [Function.update_of_ne (hy x hx), h.waiting x hx]
        · simp [List.mem_singleton.mp hx]
      · intro i hi
        have hiy : i ≠ slotOf y := fun h' => hi y (by simp) h'.symm
        simpa [Function.update_of_ne hiy] using h.free i fun x hx => hi x (by simp [hx])
    have hrest := ih hnext (by
      rw [List.append_assoc, List.singleton_append, List.map_append, List.nodup_append]
      exact hslots)
    simp only [List.map_cons, registerAll, List.append_assoc, List.singleton_append, insert_fst,
      setSlot_buffer] at hrest ⊢
    refine ⟨hrest.1, ?_, hrest.2.2⟩
    simp [insert, hfree, hrest.2.1]

/-- A table holding exactly the requests of `x :: xs`, with nothing accumulated, answers the
frame of `x` with its payload and then holds those of `xs`. -/
theorem feed_frame_holds {t : SlotTable ρ} {rcv : Nat → ρ} {x : Nat} {xs : List Nat}
    {payload : List UInt8} (h : Holds t rcv (x :: xs)) (hslots : ((x :: xs).map slotOf).Nodup)
    (hbuf : t.buffer = []) (hword : x < Nat.pow 2 64) (hend : terminator <:+ payload) :
    t.feed (Text.utf8Bytes (idLine x) ++ payload) =
        ({ t with buffer := [] }.setSlot (slotOf x) none, .ok (some x),
          some ⟨rcv x, x, payloadAnswer payload⟩) ∧
      Holds ({ t with buffer := [] }.setSlot (slotOf x) none) rcv xs := by
  have hcomplete : isCompleteFrame (t.buffer ++ (Text.utf8Bytes (idLine x) ++ payload)) = true := by
    rw [hbuf, List.nil_append, isCompleteFrame, List.isSuffixOf_iff_suffix]
    exact hend.trans (List.suffix_append _ _)
  have hsplit :
      splitFrame (t.buffer ++ (Text.utf8Bytes (idLine x) ++ payload)) = .ok (x, payload) := by
    rw [hbuf, List.nil_append, splitFrame_idLine hword]
  refine ⟨feed_of_pending hcomplete hsplit (h.waiting x (List.mem_cons_self ..)), ?_, ?_⟩
  · intro y hy
    have hxy : slotOf y ≠ slotOf x := fun hxy =>
      (List.nodup_cons.mp hslots).1 (by simpa [hxy] using List.mem_map_of_mem (f := slotOf) hy)
    simpa [Function.update_of_ne hxy] using h.waiting y (List.mem_cons_of_mem x hy)
  · intro i hi
    by_cases hix : i = slotOf x
    · simp [hix]
    · simpa [Function.update_of_ne hix] using h.free i fun y hy => by
        rcases List.mem_cons.mp hy with rfl | hy
        · exact fun h' => hix h'.symm
        · exact hi y hy

/-- Feeding the frames of the held ids in any order reports each id, answers each receiver with
its payload, and leaves nothing waiting and nothing accumulated. -/
theorem feedAll_frames {rcv : Nat → ρ} {payload : Nat → List UInt8} (order : List Nat) :
    ∀ {t : SlotTable ρ} {xs : List Nat}, Holds t rcv xs → (xs.map slotOf).Nodup →
      t.buffer = [] → (∀ x ∈ xs, x < Nat.pow 2 64 ∧ terminator <:+ payload x) →
      order.Perm xs →
      let fed := t.feedAll (order.map fun x => Text.utf8Bytes (idLine x) ++ payload x)
      fed.2.1 = order.map (fun x => .ok (some x)) ∧
        fed.2.2 = order.map (fun x => ⟨rcv x, x, payloadAnswer (payload x)⟩) ∧
        Holds fed.1 rcv [] ∧ fed.1.buffer = [] := by
  induction order with
  | nil =>
    intro t xs h _ hbuf _ horder
    rw [List.nil_perm] at horder
    subst horder
    exact ⟨rfl, rfl, h, hbuf⟩
  | cons x order ih =>
    intro t xs h hslots hbuf hframes horder
    have hx : x ∈ xs := horder.subset (List.mem_cons_self ..)
    have hperm : xs.Perm (x :: xs.erase x) := List.perm_cons_erase hx
    have hslots' : ((x :: xs.erase x).map slotOf).Nodup := (hperm.map slotOf).nodup_iff.mp hslots
    have h' : Holds t rcv (x :: xs.erase x) :=
      ⟨fun y hy => h.waiting y (hperm.symm.subset hy),
        fun i hi => h.free i fun y hy => hi y (hperm.subset hy)⟩
    obtain ⟨hfeed, hnext⟩ := feed_frame_holds h' hslots' hbuf (hframes x hx).1 (hframes x hx).2
    have hrest := ih hnext (List.nodup_cons.mp (by simpa using hslots')).2 rfl
      (fun y hy => hframes y (List.mem_of_mem_erase hy))
      ((List.perm_cons x).mp (horder.trans hperm))
    simp only [List.map_cons, feedAll, hfeed] at hrest ⊢
    exact ⟨by simp [hrest.1], by simp [hrest.2.1], hrest.2.2⟩

end SlotTable

open SlotTable

/-- Requests whose ids take distinct slots, registered into an empty table in any order, are
answered by their frames fed one whole frame per call in any order: registering supersedes
nothing, each call reports the id of its frame, each frame's payload goes to the receiver
registered under its id (as text when it is UTF-8), and afterwards nothing waits and nothing is
accumulated. Ids are 64-bit and every payload ends with the frame terminator. -/
theorem frames_reach_their_callers_in_any_order {ρ : Type} (ids order : List Nat)
    (rcv : Nat → ρ) (payload : Nat → List UInt8) (hslots : (ids.map slotOf).Nodup)
    (hword : ∀ x ∈ ids, x < Nat.pow 2 64) (hend : ∀ x ∈ ids, terminator <:+ payload x)
    (horder : order.Perm ids) :
    let registered := (empty : SlotTable ρ).registerAll (ids.map fun x => (x, rcv x))
    let fed := registered.1.feedAll (order.map fun x => Text.utf8Bytes (idLine x) ++ payload x)
    registered.2 = [] ∧ fed.2.1 = order.map (fun x => .ok (some x)) ∧
      fed.2.2 = order.map (fun x => ⟨rcv x, x, payloadAnswer (payload x)⟩) ∧
      fed.1.pendingCount = 0 ∧ fed.1.bufferedLen = 0 := by
  intro registered fed
  obtain ⟨hheld, hnone, hbuf⟩ := registerAll_holds ids (holds_empty rcv) (by simpa using hslots)
  obtain ⟨hresults, hanswers, hfinal, hfinalbuf⟩ :=
    feedAll_frames order (by simpa using hheld) hslots hbuf
      (fun x hx => ⟨hword x hx, hend x hx⟩) horder
  refine ⟨hnone, hresults, hanswers, ?_, ?_⟩
  · rw [pendingCount_eq_length_entries, entries_eq_nil fun i => hfinal.free i (by simp)]
    rfl
  · simp only [bufferedLen, fed, registered]
    rw [hfinalbuf]
    rfl

/-- Two requests in slots 5 and 6, ids 5 and 70, answered in the other order. -/
theorem frames_reach_their_callers_two :
    ([5, 70].map slotOf).Nodup ∧ (∀ x ∈ [5, 70], x < Nat.pow 2 64) ∧
      (∀ x ∈ [5, 70], terminator <:+ [125, 10, 10]) ∧ [70, 5].Perm [5, 70] ∧
      let registered := (empty : SlotTable Nat).registerAll ([5, 70].map fun x => (x, x))
      let fed := registered.1.feedAll ([70, 5].map fun x => Text.utf8Bytes (idLine x) ++ [125, 10, 10])
      registered.2 = [] ∧ fed.2.1 = [70, 5].map (fun x => .ok (some x)) ∧
        fed.2.2 = [70, 5].map (fun x => ⟨x, x, payloadAnswer [125, 10, 10]⟩) ∧
        fed.1.pendingCount = 0 ∧ fed.1.bufferedLen = 0 :=
  ⟨by decide, by decide, by decide, by decide,
    frames_reach_their_callers_in_any_order [5, 70] [70, 5] id (fun _ => [125, 10, 10])
      (by decide) (by decide) (by decide) (by decide)⟩

end SwiftDevEnv.Wire
