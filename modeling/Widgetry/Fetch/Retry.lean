import Widgetry.Error

/-!
# Retries

A request that fails for a passing reason is repeated: after a timeout, a refused connection, too
many requests or a failure of the server. The pause before each repetition doubles up to a limit.
Attempts are counted in 32 bits and pauses are measured in 64 bits. Counting, doubling and
multiplying stop at the greatest number instead of starting again from zero.
-/

namespace Widgetry

/-- The failure may pass. -/
def FetchError.isTransient : FetchError → Bool
  | .http .timeout _ => true
  | .http .connect _ => true
  | .http .invalid _ => false
  | .status code => code = 429 || (500 ≤ code && code ≤ 599)
  | .io _ => false
  | .unsupportedScheme _ => false

/-- The number of requests in total, and the first and the longest pause in milliseconds. -/
structure RetryPolicy where
  maxAttempts : UInt32
  initialPause : UInt64
  maxPause : UInt64
  deriving Repr, DecidableEq, Inhabited

namespace RetryPolicy

/-- The policy with a given number of requests, of which there is at least one
(`RetryPolicy::with_max_attempts`). -/
def ofAttempts (maxAttempts : Nat) : RetryPolicy :=
  ⟨max (UInt32.ofNat maxAttempts) 1, 250, 8000⟩

/-- The attempt after the given one. -/
def next (attempt : UInt32) : UInt32 :=
  if attempt = 0xFFFFFFFF then attempt else attempt + 1

/-- The failure of the given attempt, counted from zero, is followed by another attempt
(`RetryPolicy::should_retry`). -/
def shouldRetry (policy : RetryPolicy) (e : FetchError) (attempt : UInt32) : Bool :=
  next attempt < policy.maxAttempts && e.isTransient

/-- A power of two. -/
def power (exponent : UInt32) : UInt32 :=
  if exponent < 32 then 1 <<< exponent else 0xFFFFFFFF

/-- The product of two numbers. -/
def product {w : Nat} (a b : BitVec w) : BitVec w :=
  if BitVec.umulOverflow a b then BitVec.allOnes w else a * b

/-- The pause after the given attempt (`RetryPolicy::retry_delay_for`). The product is taken in 128
bits and cut to 64. -/
def pause (policy : RetryPolicy) (attempt : UInt32) : UInt64 :=
  let doubled : BitVec 128 :=
    product (policy.initialPause.toBitVec.setWidth 128) ((power attempt).toBitVec.setWidth 128)
  let limit : BitVec 128 := policy.maxPause.toBitVec.setWidth 128
  UInt64.ofBitVec ((if doubled ≤ limit then doubled else limit).setWidth 64)

/-- What a loop of requests has done: its last outcome, the number of requests, and the pauses. -/
structure Trace (α : Type) where
  outcome : Except FetchError α
  requests : Nat
  pauses : List UInt64

/-- Below a bound, counting goes on by one. -/
theorem to_nat_next_of_lt {attempt bound : UInt32} (h : next attempt < bound) :
    (next attempt).toNat = attempt.toNat + 1 := by
  have hattempt := attempt.toNat_lt
  have hbound := bound.toNat_lt
  rw [UInt32.lt_iff_toNat_lt] at h
  unfold next at h ⊢
  split at h
  · rename_i hlast
    -- There is no bound above the greatest number.
    rw [hlast] at h
    have hgreatest : (0xFFFFFFFF : UInt32).toNat = 4294967295 := rfl
    omega
  · rename_i hlast
    have hless : attempt.toNat ≠ 4294967295 := fun heq => hlast (UInt32.toNat_inj.mp heq)
    rw [if_neg hlast, UInt32.toNat_add, UInt32.toNat_one]
    omega

/-- Every repetition leaves fewer attempts. -/
theorem remaining_next {policy : RetryPolicy} {e : FetchError} {attempt : UInt32}
    (h : policy.shouldRetry e attempt = true) :
    policy.maxAttempts.toNat - (next attempt).toNat <
      policy.maxAttempts.toNat - attempt.toNat := by
  have hlt : next attempt < policy.maxAttempts := of_decide_eq_true (Bool.and_eq_true_iff.mp h).1
  have hnext := to_nat_next_of_lt hlt
  rw [UInt32.lt_iff_toNat_lt] at hlt
  omega

/-- Repeat requests from the given attempt on, as long as the policy says so. `request` gives the
outcomes in the order in which they come. -/
def runFrom {α : Type} (policy : RetryPolicy) (request : Nat → Except FetchError α)
    (attempt : UInt32) : Trace α :=
  match request 0 with
  | .ok value => ⟨.ok value, 1, []⟩
  | .error e =>
      if h : policy.shouldRetry e attempt = true then
        let rest := policy.runFrom (fun k => request (k + 1)) (next attempt)
        ⟨rest.outcome, rest.requests + 1, policy.pause attempt :: rest.pauses⟩
      else ⟨.error e, 1, []⟩
termination_by policy.maxAttempts.toNat - attempt.toNat
decreasing_by exact remaining_next h

/-- Repeat requests as long as the policy says so (`DefaultFetcher::http_get_with_retries`). -/
def run {α : Type} (policy : RetryPolicy) (request : Nat → Except FetchError α) : Trace α :=
  policy.runFrom request 0

end RetryPolicy

end Widgetry
