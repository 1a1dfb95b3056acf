import Mathlib.Data.ENat.Lattice
import Widgetry.Fetch.Retry

/-!
# Retries are bounded

A loop of requests meets an endless sequence of outcomes. The main theorem, `retries_are_bounded`,
says that it comes to an end, after how many requests, with which outcome, and how long it pauses
between them. It holds for every policy, also at the ends of the ranges of its numbers.

The arithmetic of pauses is exact (`to_nat_pause`): the power of two is kept in 32 bits, the product
fits into 128 bits, and the limit keeps the result in 64.
-/

namespace Widgetry

/-! ## Failures that may pass -/

/-- The failures that may pass: a timeout, a refused connection, too many requests, and failures of
the server. -/
inductive FetchError.IsPassing : FetchError → Prop where
  | timeout (text : String) : IsPassing (.http .timeout text)
  | connect (text : String) : IsPassing (.http .connect text)
  | tooMany : IsPassing (.status 429)
  | server (code : Nat) : 500 ≤ code → code ≤ 599 → IsPassing (.status code)

/-- These are the failures that are transient. -/
theorem FetchError.is_transient_iff (e : FetchError) : e.isTransient = true ↔ e.IsPassing := by
  constructor
  · intro h
    cases e with
    | http fault text =>
        cases fault with
        | timeout => exact .timeout text
        | connect => exact .connect text
        | invalid => cases h
    | status code =>
        simp only [isTransient, Bool.or_eq_true, Bool.and_eq_true, decide_eq_true_eq] at h
        rcases h with rfl | ⟨hlow, hhigh⟩
        · exact .tooMany
        · exact .server code hlow hhigh
    | io text => cases h
    | unsupportedScheme scheme => cases h
  · intro h
    cases h with
    | timeout text | connect text | tooMany => rfl
    | server code hlow hhigh => simp [isTransient, hlow, hhigh]

instance (e : FetchError) : Decidable e.IsPassing :=
  decidable_of_iff _ e.is_transient_iff

namespace RetryPolicy

variable {α : Type} {policy : RetryPolicy} {request : Nat → Except FetchError α} {attempt : UInt32}

/-- An outcome after which no request follows, whatever the policy. -/
def IsFinal : Except FetchError α → Prop
  | .ok _ => True
  | .error e => ¬e.IsPassing

instance (outcome : Except FetchError α) : Decidable (IsFinal outcome) :=
  match outcome with
  | .ok _ => isTrue trivial
  | .error e => inferInstanceAs (Decidable ¬e.IsPassing)

open Classical in
/-- The place of the first final outcome, which is infinite if there is none. -/
noncomputable def firstFinal (request : Nat → Except FetchError α) : ℕ∞ :=
  if h : ∃ k, IsFinal (request k) then (Nat.find h : ℕ∞) else ⊤

/-- The first outcome is final. -/
theorem first_final_of_final (h : IsFinal (request 0)) : firstFinal request = 0 := by
  have hsome : ∃ k, IsFinal (request k) := ⟨0, h⟩
  unfold firstFinal
  rw [dif_pos hsome, (Nat.find_eq_zero hsome).mpr h, Nat.cast_zero]

/-- The first outcome is not final, and the first final one is one of the others. -/
theorem first_final_of_not_final (h : ¬IsFinal (request 0)) :
    firstFinal request = firstFinal (fun k => request (k + 1)) + 1 := by
  unfold firstFinal
  by_cases hrest : ∃ k, IsFinal (request (k + 1))
  · have hsome : ∃ k, IsFinal (request k) := hrest.elim fun k hk => ⟨k + 1, hk⟩
    rw [dif_pos hsome, dif_pos hrest, Nat.find_comp_succ hsome hrest h, Nat.cast_add, Nat.cast_one]
  · have hnone : ¬∃ k, IsFinal (request k) := by
      rintro ⟨k, hk⟩
      cases k with
      | zero => exact h hk
      | succ k => exact hrest ⟨k, hk⟩
    rw [dif_neg hnone, dif_neg hrest, top_add]

/-! ## Arithmetic -/

/-- A power of two is exact up to the greatest number. -/
theorem to_nat_power (exponent : UInt32) :
    (power exponent).toNat = min (2 ^ exponent.toNat) (2 ^ 32 - 1) := by
  unfold power
  split
  · rename_i hsmall
    have hexponent : exponent.toNat < 32 := UInt32.lt_iff_toNat_lt.mp hsmall
    have hpower : 2 ^ exponent.toNat ≤ 2 ^ 31 :=
      Nat.pow_le_pow_right (by decide) (Nat.le_of_lt_succ hexponent)
    rw [UInt32.toNat_shiftLeft, UInt32.toNat_one, Nat.mod_eq_of_lt hexponent, Nat.one_shiftLeft,
      Nat.min_eq_left (by omega), Nat.mod_eq_of_lt (by omega)]
  · rename_i hlarge
    have hexponent : 32 ≤ exponent.toNat :=
      Nat.le_of_not_lt fun hlt => hlarge (UInt32.lt_iff_toNat_lt.mpr hlt)
    have hpower : 2 ^ 32 ≤ 2 ^ exponent.toNat := Nat.pow_le_pow_right (by decide) hexponent
    rw [Nat.min_eq_right (by omega)]
    rfl

/-- A product that fits is exact. -/
theorem to_nat_product {w : Nat} {a b : BitVec w} (h : a.toNat * b.toNat < 2 ^ w) :
    (product a b).toNat = a.toNat * b.toNat := by
  have hfits : ¬BitVec.umulOverflow a b = true := by
    simpa [BitVec.umulOverflow] using h
  rw [product, if_neg hfits, BitVec.toNat_mul_of_not_umulOverflow hfits]

/-- A pause is exact for every attempt: the first pause times a power of two, up to the limit. -/
theorem to_nat_pause (policy : RetryPolicy) (attempt : UInt32) :
    (policy.pause attempt).toNat =
      min (policy.initialPause.toNat * min (2 ^ attempt.toNat) (2 ^ 32 - 1))
        policy.maxPause.toNat := by
  have hwide : ∀ n : UInt64, (n.toBitVec.setWidth 128).toNat = n.toNat := fun n => by
    rw [BitVec.toNat_setWidth_of_le (by decide), UInt64.toNat_toBitVec]
  have hpower : ((power attempt).toBitVec.setWidth 128).toNat = (power attempt).toNat := by
    rw [BitVec.toNat_setWidth_of_le (by decide), UInt32.toNat_toBitVec]
  -- A factor of 64 bits and one of 32 bits make a product of at most 96.
  have hproduct : policy.initialPause.toNat * (power attempt).toNat < 2 ^ 128 :=
    calc policy.initialPause.toNat * (power attempt).toNat
        < 2 ^ 64 * 2 ^ 32 := Nat.mul_lt_mul'' policy.initialPause.toNat_lt (power attempt).toNat_lt
      _ < 2 ^ 128 := by decide
  have hdoubled : (product (policy.initialPause.toBitVec.setWidth 128)
      ((power attempt).toBitVec.setWidth 128)).toNat =
        policy.initialPause.toNat * (power attempt).toNat := by
    rw [to_nat_product (by rwa [hwide, hpower]), hwide, hpower]
  have hlimit := policy.maxPause.toNat_lt
  unfold pause
  rw [UInt64.toNat_ofBitVec, BitVec.toNat_setWidth, ← to_nat_power]
  split
  · rename_i hle
    rw [BitVec.le_def, hdoubled, hwide] at hle
    rw [hdoubled, Nat.min_eq_left hle, Nat.mod_eq_of_lt (Nat.lt_of_le_of_lt hle hlimit)]
  · rename_i hgt
    rw [BitVec.le_def, hdoubled, hwide] at hgt
    rw [hwide, Nat.min_eq_right (Nat.le_of_not_le hgt), Nat.mod_eq_of_lt hlimit]

/-! ## Loops that come to an end -/

/-- A loop of requests comes to an end with a trace, as its turns go: it stops after an outcome, or
it pauses and goes on with the next attempt and the outcomes that follow. -/
inductive Ends (policy : RetryPolicy) :
    (Nat → Except FetchError α) → UInt32 → Trace α → Prop where
  | stopped (request : Nat → Except FetchError α) (attempt : UInt32) :
      (∀ e, request 0 = .error e → policy.shouldRetry e attempt = false) →
      Ends policy request attempt ⟨request 0, 1, []⟩
  | repeated (request : Nat → Except FetchError α) (attempt : UInt32) (e : FetchError)
      (rest : Trace α) :
      request 0 = .error e → policy.shouldRetry e attempt = true →
      Ends policy (fun k => request (k + 1)) (next attempt) rest →
      Ends policy request attempt
        ⟨rest.outcome, rest.requests + 1, policy.pause attempt :: rest.pauses⟩

variable {trace other : Trace α}

/-- Every loop comes to an end. -/
theorem ends_run_from (policy : RetryPolicy) (request : Nat → Except FetchError α)
    (attempt : UInt32) : policy.Ends request attempt (policy.runFrom request attempt) := by
  fun_induction runFrom policy request attempt with
  | case1 request attempt value hvalue =>
      rw [← hvalue]
      exact .stopped request attempt fun e herror => by rw [hvalue] at herror; cases herror
  | case2 request attempt e herror hretry rest ih =>
      exact .repeated request attempt e rest herror hretry ih
  | case3 request attempt e herror hretry =>
      rw [← herror]
      refine .stopped request attempt fun e' herror' => ?_
      rw [herror] at herror'
      cases herror'
      simpa using hretry

/-- A loop comes to an end in one way. -/
theorem Ends.unique (h : policy.Ends request attempt trace)
    (hother : policy.Ends request attempt other) : trace = other := by
  induction h generalizing other with
  | stopped request attempt hstop =>
      cases hother with
      | stopped => rfl
      | repeated _ _ e rest herror hretry _ =>
          rw [hstop e herror] at hretry
          cases hretry
  | repeated request attempt e rest herror hretry _ ih =>
      cases hother with
      | stopped _ _ hstop =>
          rw [hstop e herror] at hretry
          cases hretry
      | repeated _ _ _ _ _ _ hrest => rw [ih hrest]

/-! ## What a loop has done at its end -/

/-- Counting goes on by at most one. -/
theorem to_nat_next_le (attempt : UInt32) : (next attempt).toNat ≤ attempt.toNat + 1 := by
  unfold next
  split
  · exact Nat.le_succ _
  · rw [UInt32.toNat_add, UInt32.toNat_one]
    exact Nat.mod_le _ _

/-- A repetition goes on with the next number, after an outcome that is not final. -/
theorem of_should_retry {e : FetchError} (hretry : policy.shouldRetry e attempt = true) :
    (next attempt).toNat = attempt.toNat + 1 ∧ attempt.toNat + 1 < policy.maxAttempts.toNat ∧
      e.IsPassing := by
  obtain ⟨hlt, htransient⟩ := Bool.and_eq_true_iff.mp hretry
  have hnext := to_nat_next_of_lt (of_decide_eq_true hlt)
  have hless := UInt32.lt_iff_toNat_lt.mp (of_decide_eq_true hlt)
  rw [hnext] at hless
  exact ⟨hnext, hless, e.is_transient_iff.mp htransient⟩

/-- Without a repetition, no attempt is left or the failure does not pass. -/
theorem of_not_should_retry {e : FetchError} (hretry : policy.shouldRetry e attempt = false) :
    policy.maxAttempts.toNat ≤ attempt.toNat + 1 ∨ ¬e.IsPassing := by
  rcases Bool.and_eq_false_iff.mp hretry with hlast | htransient
  · left
    have hle : policy.maxAttempts.toNat ≤ (next attempt).toNat :=
      Nat.le_of_not_lt fun hlt => of_decide_eq_false hlast (UInt32.lt_iff_toNat_lt.mpr hlt)
    exact Nat.le_trans hle (to_nat_next_le attempt)
  · right
    rw [← e.is_transient_iff, htransient]
    exact Bool.false_ne_true

/-- The number of requests. -/
theorem Ends.requests_eq (h : policy.Ends request attempt trace) :
    (trace.requests : ℕ∞) =
      min ((max policy.maxAttempts.toNat (attempt.toNat + 1) - attempt.toNat : ℕ) : ℕ∞)
        (firstFinal request + 1) := by
  induction h with
  | stopped request attempt hstop =>
      by_cases hfinal : IsFinal (request 0)
      · have hleft : 1 ≤ max policy.maxAttempts.toNat (attempt.toNat + 1) - attempt.toNat := by
          omega
        rw [first_final_of_final hfinal, zero_add, Nat.cast_one, min_eq_right]
        exact_mod_cast hleft
      · -- The failure may pass, so that no attempt is left.
        have hleft : max policy.maxAttempts.toNat (attempt.toNat + 1) - attempt.toNat = 1 := by
          cases herror : request 0 with
          | ok value =>
              rw [herror] at hfinal
              exact absurd trivial hfinal
          | error e =>
              rw [herror] at hfinal
              have hlast := (of_not_should_retry (hstop e herror)).resolve_right hfinal
              omega
        rw [hleft, Nat.cast_one, min_eq_left]
        exact le_add_self
  | repeated request attempt e rest herror hretry _ ih =>
      -- One attempt fewer is left, and the first final outcome is one place nearer.
      obtain ⟨hnext, hless, hpassing⟩ := of_should_retry hretry
      have hfinal : ¬IsFinal (request 0) := by
        rw [herror]
        exact fun h => h hpassing
      have hleft : max policy.maxAttempts.toNat (attempt.toNat + 1) - attempt.toNat =
          max policy.maxAttempts.toNat ((next attempt).toNat + 1) - (next attempt).toNat + 1 := by
        omega
      rw [first_final_of_not_final hfinal, hleft, Nat.cast_add, Nat.cast_one, Nat.cast_add, ih,
        Nat.cast_one, min_add_add_right]

/-- There is at least one request. -/
theorem Ends.requests_pos (h : policy.Ends request attempt trace) : 0 < trace.requests := by
  cases h <;> exact Nat.succ_pos _

/-- The outcome is that of the last request. -/
theorem Ends.outcome_eq (h : policy.Ends request attempt trace) :
    trace.outcome = request (trace.requests - 1) := by
  induction h with
  | stopped request attempt _ => rfl
  | repeated request attempt e rest _ _ hrest ih =>
      have hpos := hrest.requests_pos
      show rest.outcome = request (rest.requests + 1 - 1)
      rw [ih]
      exact congrArg request (by omega)

/-- There is a pause after every request but the last. -/
theorem Ends.length_pauses (h : policy.Ends request attempt trace) :
    trace.pauses.length + 1 = trace.requests := by
  induction h with
  | stopped request attempt _ => rfl
  | repeated request attempt e rest _ _ _ ih => rw [List.length_cons, ih]

/-- The length of each pause. -/
theorem Ends.pause_eq (h : policy.Ends request attempt trace) {k : Nat} {pause : UInt64}
    (hpause : trace.pauses[k]? = some pause) :
    pause.toNat = min (policy.initialPause.toNat * min (2 ^ (attempt.toNat + k)) (2 ^ 32 - 1))
      policy.maxPause.toNat := by
  induction h generalizing k with
  | stopped request attempt _ => cases hpause
  | repeated request attempt e rest _ hretry _ ih =>
      cases k with
      | zero =>
          cases hpause
          exact to_nat_pause policy attempt
      | succ k =>
          rw [ih hpause, (of_should_retry hretry).1]
          rw [show attempt.toNat + 1 + k = attempt.toNat + (k + 1) by omega]

/-- Pauses do not get shorter. -/
theorem Ends.pairwise_pauses (h : policy.Ends request attempt trace) :
    trace.pauses.Pairwise (· ≤ ·) := by
  rw [List.pairwise_iff_getElem]
  intro i j hi hj hlt
  have hpower : 2 ^ (attempt.toNat + i) ≤ 2 ^ (attempt.toNat + j) :=
    Nat.pow_le_pow_right (by decide) (by omega)
  rw [UInt64.le_iff_toNat_le, h.pause_eq (List.getElem?_eq_getElem hi),
    h.pause_eq (List.getElem?_eq_getElem hj)]
  gcongr

/-- No pause is longer than the limit. -/
theorem Ends.pause_le (h : policy.Ends request attempt trace) {pause : UInt64}
    (hpause : pause ∈ trace.pauses) : pause ≤ policy.maxPause := by
  obtain ⟨k, hk⟩ := List.mem_iff_getElem?.mp hpause
  rw [UInt64.le_iff_toNat_le, h.pause_eq hk]
  exact Nat.min_le_right _ _

/-- **Retries are bounded.** For every policy and every endless sequence of outcomes, the loop of
requests comes to an end, and in one way. It issues as many requests as the policy allows, which is
at least one, or fewer if an outcome is final: then the first such outcome is the last. It gives the
outcome of its last request. It pauses after each of the others, never shorter than before and never
longer than the limit, and all pauses are exact: the first one times a power of two, which stops at
the greatest number of 32 bits, or the limit. -/
theorem retries_are_bounded (policy : RetryPolicy) (request : Nat → Except FetchError α) :
    let trace := policy.run request
    (∀ other, policy.Ends request 0 other ↔ other = trace) ∧
    (trace.requests : ℕ∞) =
      min ((max policy.maxAttempts.toNat 1 : ℕ) : ℕ∞) (firstFinal request + 1) ∧
    trace.outcome = request (trace.requests - 1) ∧
    trace.pauses.length = trace.requests - 1 ∧
    trace.pauses.Pairwise (· ≤ ·) ∧
    (∀ pause ∈ trace.pauses, pause ≤ policy.maxPause) ∧
    (∀ (k : Nat) (pause : UInt64), trace.pauses[k]? = some pause → k ≤ 31 →
      pause.toNat = min (policy.initialPause.toNat * 2 ^ k) policy.maxPause.toNat) ∧
    ∀ attempt : UInt32, (policy.pause attempt).toNat =
      min (policy.initialPause.toNat * min (2 ^ attempt.toNat) (2 ^ 32 - 1))
        policy.maxPause.toNat := by
  intro trace
  have hends : policy.Ends request 0 trace := policy.ends_run_from request 0
  refine ⟨?_, ?_, hends.outcome_eq, ?_, hends.pairwise_pauses, fun _ => hends.pause_le, ?_,
    policy.to_nat_pause⟩
  · intro other
    constructor
    · exact fun hother => hother.unique hends
    · rintro rfl
      exact hends
  · exact hends.requests_eq
  · have hlength := hends.length_pauses
    omega
  · intro k pause hpause hk
    have hpower : 2 ^ k ≤ 2 ^ 31 := Nat.pow_le_pow_right (by decide) hk
    have hsmall : min (2 ^ k) (2 ^ 32 - 1) = 2 ^ k := Nat.min_eq_left (by omega)
    rw [hends.pause_eq hpause, UInt32.toNat_zero, Nat.zero_add, hsmall]

end RetryPolicy

end Widgetry
