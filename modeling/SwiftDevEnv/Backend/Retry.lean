import SwiftDevEnv.Backend.Error

/-!
# Retrying failed requests

A request is attempted, and after a retryable failure the backend is restarted and the request
attempted again, until an attempt succeeds, fails for a reason that a restart cannot cure, or
the allowed number of retries is used up. In the last case the answer is that the transport is
exhausted after all attempts made; there is no restart after the last attempt.

Attempts are numbered from zero and receive their number. The policy is written once over any
monad, so that the same definition drives a real connection and a scripted list of outcomes.
-/

namespace SwiftDevEnv.Backend

/-- The number of retries allowed when nothing is configured. -/
def defaultMaxRetries : UInt32 := 5

/-- A count below another has a successor that does not wrap. -/
theorem toNat_succ_of_lt {k m : UInt32} (h : k < m) : (k + 1).toNat = k.toNat + 1 := by
  have hlt : k.toNat < m.toNat := UInt32.lt_iff_toNat_lt.mp h
  rw [UInt32.toNat_add, UInt32.toNat_one]
  exact Nat.mod_eq_of_lt (Nat.lt_of_le_of_lt (Nat.succ_le_of_lt hlt) m.toNat_lt)

/-- Runs attempts from the retry count `retries` on, restarting between attempts, until the count
reaches `maxRetries`. Counts are 32-bit numbers: the attempts reported on exhaustion are
`retries + 1` in 32-bit arithmetic. -/
def retryFrom {m : Type → Type} [Monad m] {α : Type} (maxRetries : UInt32)
    (attempt : UInt32 → m (Except Error α)) (restart : m Unit) (retries : UInt32) :
    m (Except Error α) := do
  match ← attempt retries with
  | .ok v => pure (.ok v)
  | .error e =>
    if !e.isRetryable then pure (.error e)
    else if h : maxRetries ≤ retries then pure (.error (.transportExhausted (retries + 1)))
    else do
      restart
      retryFrom maxRetries attempt restart (retries + 1)
termination_by maxRetries.toNat - retries.toNat
decreasing_by
  have hlt : retries < maxRetries := UInt32.not_le.mp h
  have hsucc := toNat_succ_of_lt hlt
  have := UInt32.lt_iff_toNat_lt.mp hlt
  omega

/-- Runs a request under the retry policy with `maxRetries` retries. -/
def retry {m : Type → Type} [Monad m] {α : Type} (maxRetries : UInt32)
    (attempt : UInt32 → m (Except Error α)) (restart : m Unit) : m (Except Error α) :=
  retryFrom maxRetries attempt restart 0

/-- What a scripted run of the policy observed: the result, the attempt numbers in order and
the number of restarts. -/
structure RetryTrace (α : Type) where
  result : Except Error α
  attemptsSeen : List Nat
  restarts : Nat

/-- Runs the policy over scripted outcomes: the attempt given the retry count `k` has outcome
`outcome k`. -/
def retryScripted {α : Type} (maxRetries : UInt32) (outcome : Nat → Except Error α) :
    RetryTrace α :=
  let attempt (k : UInt32) : StateM (List Nat × Nat) (Except Error α) := do
    modify (fun (seen, r) => (seen ++ [k.toNat], r))
    pure (outcome k.toNat)
  let restart : StateM (List Nat × Nat) Unit := modify (fun (seen, r) => (seen, r + 1))
  let (result, (seen, restarts)) := (retry maxRetries attempt restart).run ([], 0)
  ⟨result, seen, restarts⟩

end SwiftDevEnv.Backend
