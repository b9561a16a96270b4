import Mathlib
import SwiftDevEnv.Backend.Retry

/-!
# What the retry policy does

An outcome settles a run of the policy when it is a success or an error that a restart cannot
cure: a failed start, an unreadable response or frame, retries already used up, or failed
target discovery. Any other error is retried: the backend is restarted and the request
attempted again, while retries are left.

Attempts are given as a script: attempt `k` has some effect and the `k`-th outcome. Each step of
the policy is one of three: a settling outcome ends the run with it; an unsettled one with no
retry left ends the run as exhausted; an unsettled one with a retry left restarts and attempts
again. From these, in every lawful monad, a run is attempts `0, 1, …, k` with one restart between
each two and none after the last, where `k` is the first attempt to settle, or the last one
allowed; it ends with the settling outcome, or reports the transport exhausted after exactly the
attempts made. A run that records its attempts and restarts sees exactly these.
-/

namespace SwiftDevEnv.Backend

/-- The errors a restart cannot cure: a failed start, an unreadable response or frame, retries
already used up, and failed target discovery. -/
def Error.IsFinal : Error → Prop
  | .spawnFailed _ | .malformedResponse _ | .malformedFrame _ | .transportExhausted _
  | .discovery _ => True
  | .superseded _ | .processUnavailable | .sessionClosed | .io _ => False

/-- An error is not retried exactly when a restart cannot cure it. -/
theorem Error.isRetryable_eq_false_iff (e : Error) : e.isRetryable = false ↔ e.IsFinal := by
  cases e <;> simp [isRetryable, kind, IsFinal]

/-- An outcome that ends a run of the policy: a success, or an error a restart cannot cure. -/
def Settles {α : Type} : Except Error α → Prop
  | .ok _ => True
  | .error e => e.IsFinal

/-- An outcome that does not end the run is an error that is retried. -/
theorem not_settles_iff {α : Type} {o : Except Error α} :
    ¬ Settles o ↔ ∃ e, o = .error e ∧ e.isRetryable = true := by
  cases o with
  | ok v => simp [Settles]
  | error e => simp [Settles, ← Error.isRetryable_eq_false_iff]

section Scripted

variable {M : Type → Type} [Monad M] [LawfulMonad M] {α : Type}

/-- An attempt with effect `act k` whose outcome is the `k`-th of a script, `k` being the retry
count it is given. -/
def scripted (act : Nat → M Unit) (outcome : Nat → Except Error α) (k : UInt32) :
    M (Except Error α) := do
  act k.toNat
  pure (outcome k.toNat)

/-- Attempts `k, k + 1, …, k + n`, with one restart between each two. -/
def attemptsFrom (act : Nat → M Unit) (restart : M Unit) (k : Nat) : Nat → M Unit
  | 0 => act k
  | n + 1 => do
    act k
    restart
    attemptsFrom act restart (k + 1) n

variable (m : UInt32) (act : Nat → M Unit) (restart : M Unit) (outcome : Nat → Except Error α)

/-- An attempt whose outcome settles ends the run with that outcome. -/
theorem retryFrom_of_settles {k : UInt32} (h : Settles (outcome k.toNat)) :
    retryFrom m (scripted act outcome) restart k = (do act k.toNat; pure (outcome k.toNat)) := by
  rw [retryFrom]
  simp only [scripted, bind_assoc, pure_bind]
  cases hk : outcome k.toNat with
  | ok v => rfl
  | error e =>
    rw [hk] at h
    simp [(Error.isRetryable_eq_false_iff e).mpr h]

/-- An attempt that fails in a way a restart may cure, with the count at the ceiling, ends the
run as exhausted, reporting one more than the count in 32-bit arithmetic. -/
theorem retryFrom_of_exhausted {k : UInt32} (hk : m ≤ k) (h : ¬ Settles (outcome k.toNat)) :
    retryFrom m (scripted act outcome) restart k =
      (do act k.toNat; pure (.error (.transportExhausted (k + 1)))) := by
  obtain ⟨e, he, hr⟩ := not_settles_iff.mp h
  rw [retryFrom]
  simp [scripted, he, hr, hk]

/-- An attempt that fails in a way a restart may cure, with the count below the ceiling,
restarts the backend and makes the next attempt. -/
theorem retryFrom_of_retry_left {k : UInt32} (hk : k < m) (h : ¬ Settles (outcome k.toNat)) :
    retryFrom m (scripted act outcome) restart k =
      (do act k.toNat; restart; retryFrom m (scripted act outcome) restart (k + 1)) := by
  obtain ⟨e, he, hr⟩ := not_settles_iff.mp h
  rw [retryFrom]
  simp [scripted, he, hr, UInt32.not_le.mpr hk]

/-- From the count `k` on: when attempts `k` to `k + n - 1` fail in ways a restart may cure and
attempt `k + n` settles, within the ceiling, the run makes attempts `k` to `k + n`, a restart
between each two, and ends with the settling outcome. -/
theorem retryFrom_of_first_settles {k : UInt32} {n : Nat} (hn : k.toNat + n ≤ m.toNat)
    (hfail : ∀ i < n, ¬ Settles (outcome (k.toNat + i)))
    (hs : Settles (outcome (k.toNat + n))) :
    retryFrom m (scripted act outcome) restart k =
      (do attemptsFrom act restart k.toNat n; pure (outcome (k.toNat + n))) := by
  induction n generalizing k with
  | zero => exact retryFrom_of_settles m act restart outcome hs
  | succ n ih =>
    have hk : k < m := UInt32.lt_iff_toNat_lt.mpr (by omega)
    have hsucc := toNat_succ_of_lt hk
    have hnext : ∀ i < n, ¬ Settles (outcome ((k + 1).toNat + i)) := fun i hi => by
      simpa [hsucc, Nat.add_assoc, Nat.add_comm 1 i] using hfail (i + 1) (by omega)
    have hs' : Settles (outcome ((k + 1).toNat + n)) := by
      simpa [hsucc, Nat.add_assoc, Nat.add_comm 1 n] using hs
    rw [retryFrom_of_retry_left m act restart outcome hk (by simpa using hfail 0 (by omega)),
      ih (by omega) hnext hs']
    simp [attemptsFrom, hsucc, Nat.add_assoc, Nat.add_comm 1 n]

/-- From the count `k` on, `r` below the ceiling: when attempts `k` to `k + r` all fail in ways a
restart may cure, the run makes those `r + 1` attempts, a restart between each two and none
after the last, and reports the transport exhausted after one more than the ceiling in 32-bit
arithmetic. -/
theorem retryFrom_of_none_settles {k : UInt32} {r : Nat} (hr : k.toNat + r = m.toNat)
    (hfail : ∀ i ≤ r, ¬ Settles (outcome (k.toNat + i))) :
    retryFrom m (scripted act outcome) restart k =
      (do attemptsFrom act restart k.toNat r; pure (.error (.transportExhausted (m + 1)))) := by
  induction r generalizing k with
  | zero =>
    obtain rfl : k = m := UInt32.toNat_inj.mp hr
    simpa [attemptsFrom] using
      retryFrom_of_exhausted k act restart outcome (UInt32.le_refl k) (by simpa using hfail 0 le_rfl)
  | succ r ih =>
    have hk : k < m := UInt32.lt_iff_toNat_lt.mpr (by omega)
    have hsucc := toNat_succ_of_lt hk
    have hnext : ∀ i ≤ r, ¬ Settles (outcome ((k + 1).toNat + i)) := fun i hi => by
      simpa [hsucc, Nat.add_assoc, Nat.add_comm 1 i] using hfail (i + 1) (by omega)
    rw [retryFrom_of_retry_left m act restart outcome hk (by simpa using hfail 0 (by omega)),
      ih (by omega) hnext]
    simp [attemptsFrom, hsucc]

end Scripted

/-- Recording an attempt: its number joins those seen. -/
def recordAttempt (k : Nat) : StateM (List Nat × Nat) Unit :=
  modify fun (seen, r) => (seen ++ [k], r)

/-- Recording a restart: the count goes up by one. -/
def recordRestart : StateM (List Nat × Nat) Unit :=
  modify fun (seen, r) => (seen, r + 1)

/-- A scripted run of the policy records its attempts and restarts. -/
theorem retryScripted_eq {α : Type} (m : UInt32) (outcome : Nat → Except Error α) :
    retryScripted m outcome =
      ⟨((retry m (scripted recordAttempt outcome) recordRestart).run ([], 0)).1,
        ((retry m (scripted recordAttempt outcome) recordRestart).run ([], 0)).2.1,
        ((retry m (scripted recordAttempt outcome) recordRestart).run ([], 0)).2.2⟩ := rfl

/-- Attempts `k` to `k + n` record their numbers in order and `n` restarts. -/
theorem attemptsFrom_record (k n : Nat) (seen : List Nat) (r : Nat) :
    (attemptsFrom recordAttempt recordRestart k n).run (seen, r) =
      ((), (seen ++ List.range' k (n + 1), r + n)) := by
  induction n generalizing k seen r with
  | zero => rfl
  | succ n ih =>
    have hstep : (attemptsFrom recordAttempt recordRestart k (n + 1)).run (seen, r) =
        (attemptsFrom recordAttempt recordRestart (k + 1) n).run (seen ++ [k], r + 1) := rfl
    rw [hstep, ih, List.range'_succ (n := n + 1)]
    simp [Nat.add_assoc, Nat.add_comm 1 n]

/-- A run that is attempts `0` to `k` followed by its result records those attempts in order and
counts `k` restarts. -/
theorem retryScripted_of_run {α : Type} {m : UInt32} {k : Nat} {outcome : Nat → Except Error α}
    {result : Except Error α}
    (hrun : retry m (scripted recordAttempt outcome) recordRestart =
      (do attemptsFrom recordAttempt recordRestart 0 k; pure result)) :
    retryScripted m outcome = ⟨result, List.range (k + 1), k⟩ := by
  rw [retryScripted_eq, hrun, StateT.run_bind, attemptsFrom_record, List.range_eq_range',
    List.nil_append, Nat.zero_add]
  rfl

/-- Either none of attempts `0` to `m` settles, or one of them is the first to settle. -/
theorem settles_cases {α : Type} (m : Nat) (outcome : Nat → Except Error α) :
    (∀ i ≤ m, ¬ Settles (outcome i)) ∨
      ∃ k ≤ m, (∀ i < k, ¬ Settles (outcome i)) ∧ Settles (outcome k) := by
  classical
  by_cases h : ∃ i ≤ m, Settles (outcome i)
  · refine .inr ⟨Nat.find h, (Nat.find_spec h).1, fun i hi hs => ?_, (Nat.find_spec h).2⟩
    exact Nat.find_min h hi ⟨by have := (Nat.find_spec h).1; omega, hs⟩
  · exact .inl fun i hi hs => h ⟨i, hi, hs⟩

/-- One more than a 32-bit count is the count's successor exactly below the largest count; the
largest count wraps to zero. -/
theorem toNat_add_one_eq_iff (m : UInt32) : (m + 1).toNat = m.toNat + 1 ↔ m.toNat < 4294967295 := by
  have hm := m.toNat_lt
  rw [UInt32.toNat_add, UInt32.toNat_one]
  constructor
  · intro h
    have hlt : m.toNat + 1 < 2 ^ 32 := h ▸ Nat.mod_lt _ (by decide)
    omega
  · intro h
    exact Nat.mod_eq_of_lt (by omega)

section Claim

variable {α : Type} (m : UInt32) (outcome : Nat → Except Error α)

/-- When attempt `k ≤ m` is the first to settle, the run is attempts `0` to `k` with a restart
between each two, ending with the settling outcome; a recording run sees attempts `0` to `k` and
counts `k` restarts. -/
theorem retry_of_first_settles {k : Nat} (hk : k ≤ m.toNat)
    (hfail : ∀ i < k, ¬ Settles (outcome i)) (hs : Settles (outcome k)) :
    (∀ {M : Type → Type} [Monad M] [LawfulMonad M] (act : Nat → M Unit) (restart : M Unit),
      retry m (scripted act outcome) restart =
        (do attemptsFrom act restart 0 k; pure (outcome k))) ∧
    retryScripted m outcome = ⟨outcome k, List.range (k + 1), k⟩ := by
  have hrun : ∀ {M : Type → Type} [Monad M] [LawfulMonad M] (act : Nat → M Unit)
      (restart : M Unit), retry m (scripted act outcome) restart =
        (do attemptsFrom act restart 0 k; pure (outcome k)) := fun act restart => by
    rw [retry]
    simpa using retryFrom_of_first_settles m act restart outcome (k := 0) (by simpa using hk)
      (by simpa using hfail) (by simpa using hs)
  exact ⟨hrun, retryScripted_of_run (hrun recordAttempt recordRestart)⟩

/-- When none of attempts `0` to `m` settles, the run is those `m + 1` attempts with a restart
between each two and none after the last, reporting the transport exhausted after `m + 1`
attempts counted in 32 bits; a recording run sees attempts `0` to `m` and counts `m`
restarts. -/
theorem retry_of_none_settles (hfail : ∀ i ≤ m.toNat, ¬ Settles (outcome i)) :
    (∀ {M : Type → Type} [Monad M] [LawfulMonad M] (act : Nat → M Unit) (restart : M Unit),
      retry m (scripted act outcome) restart =
        (do attemptsFrom act restart 0 m.toNat; pure (.error (.transportExhausted (m + 1))))) ∧
    retryScripted m outcome =
      ⟨.error (.transportExhausted (m + 1)), List.range (m.toNat + 1), m.toNat⟩ := by
  have hrun : ∀ {M : Type → Type} [Monad M] [LawfulMonad M] (act : Nat → M Unit)
      (restart : M Unit), retry m (scripted act outcome) restart =
        (do attemptsFrom act restart 0 m.toNat; pure (.error (.transportExhausted (m + 1)))) :=
    fun act restart => by
      rw [retry]
      simpa using retryFrom_of_none_settles m act restart outcome (k := 0) (by simp)
        (by simpa using hfail)
  exact ⟨hrun, retryScripted_of_run (hrun recordAttempt recordRestart)⟩

/-- The retry policy makes attempts `0, 1, …` in order, with one restart between each two, until
an attempt settles: succeeds, or fails in a way a restart cannot cure. When attempt `k ≤ m` is
the first to settle, the run ends with its outcome after attempts `0` to `k` and `k` restarts.
When none of attempts `0` to `m` settles, it ends after those `m + 1` attempts and `m` restarts,
none after the last, reporting the transport exhausted after `m + 1` attempts counted in 32 bits:
the attempts made, exactly when `m` is below the largest 32-bit count. This holds in every lawful
monad, whatever the effects of attempts and restarts are; a recording run sees exactly those
attempt numbers and counts exactly those restarts, and its result is never an error that a
restart could cure. -/
theorem retry_attempts_in_order_until_one_settles :
    (∀ k ≤ m.toNat, (∀ i < k, ¬ Settles (outcome i)) → Settles (outcome k) →
      (∀ {M : Type → Type} [Monad M] [LawfulMonad M] (act : Nat → M Unit) (restart : M Unit),
        retry m (scripted act outcome) restart =
          (do attemptsFrom act restart 0 k; pure (outcome k))) ∧
      retryScripted m outcome = ⟨outcome k, List.range (k + 1), k⟩) ∧
    ((∀ i ≤ m.toNat, ¬ Settles (outcome i)) →
      (∀ {M : Type → Type} [Monad M] [LawfulMonad M] (act : Nat → M Unit) (restart : M Unit),
        retry m (scripted act outcome) restart =
          (do attemptsFrom act restart 0 m.toNat; pure (.error (.transportExhausted (m + 1))))) ∧
      retryScripted m outcome =
        ⟨.error (.transportExhausted (m + 1)), List.range (m.toNat + 1), m.toNat⟩) ∧
    ((m + 1).toNat = m.toNat + 1 ↔ m.toNat < 4294967295) ∧
    (∀ e, (retryScripted m outcome).result = .error e → e.isRetryable = false) := by
  refine ⟨fun k hk hfail hs => retry_of_first_settles m outcome hk hfail hs,
    retry_of_none_settles m outcome, toNat_add_one_eq_iff m, fun e he => ?_⟩
  rcases settles_cases m.toNat outcome with hfail | ⟨k, hk, hfail, hs⟩
  · rw [(retry_of_none_settles m outcome hfail).2] at he
    cases he
    rfl
  · rw [(retry_of_first_settles m outcome hk hfail hs).2] at he
    change outcome k = .error e at he
    rw [he] at hs
    exact (Error.isRetryable_eq_false_iff e).mpr hs

/-- A request that keeps finding no process is given up after six attempts and five restarts,
under the default five retries. -/
theorem always_unavailable_exhausts_after_five_restarts :
    (∀ i ≤ defaultMaxRetries.toNat,
      ¬ Settles ((fun _ => .error .processUnavailable : Nat → Except Error Unit) i)) ∧
    retryScripted defaultMaxRetries (fun _ => (.error .processUnavailable : Except Error Unit)) =
      ⟨.error (.transportExhausted 6), List.range 6, 5⟩ := by
  have hfail : ∀ i ≤ defaultMaxRetries.toNat,
      ¬ Settles ((fun _ => .error .processUnavailable : Nat → Except Error Unit) i) :=
    fun _ _ => by simp [Settles, Error.IsFinal]
  exact ⟨hfail, ((retry_attempts_in_order_until_one_settles defaultMaxRetries _).2.1 hfail).2⟩

/-- Under the largest 32-bit ceiling, a request that keeps finding no process is given up after
`2 ^ 32` attempts and `2 ^ 32 - 1` restarts, and the count of attempts it reports wraps to
zero. -/
theorem exhaustion_under_largest_ceiling_reports_zero_attempts :
    (∀ i ≤ (4294967295 : UInt32).toNat,
      ¬ Settles ((fun _ => .error .processUnavailable : Nat → Except Error Unit) i)) ∧
    retryScripted 4294967295 (fun _ => (.error .processUnavailable : Except Error Unit)) =
      ⟨.error (.transportExhausted 0), List.range 4294967296, 4294967295⟩ := by
  have hfail : ∀ i ≤ (4294967295 : UInt32).toNat,
      ¬ Settles ((fun _ => .error .processUnavailable : Nat → Except Error Unit) i) :=
    fun _ _ => by simp [Settles, Error.IsFinal]
  have hwrap : (4294967295 : UInt32) + 1 = 0 := by decide
  have hmax : (4294967295 : UInt32).toNat = 4294967295 := rfl
  refine ⟨hfail, ?_⟩
  rw [((retry_attempts_in_order_until_one_settles 4294967295 _).2.1 hfail).2, hwrap, hmax]

end Claim

end SwiftDevEnv.Backend
