import TrafficFabric.Traffic
import TrafficFabric.Lib.Scaling

/-!
# How a token bucket fills

A refill adds what the elapsed time earns and cuts the sum at the depth.  The
product of rate and time is computed in halves: an overflow of the first half
or of the sum is noticed and counts as a full bucket, and only the product of
the remainder of the rate may wrap unnoticed.  `TokenBucket.credit` is the
amount over the natural numbers; it is exact for every interval of at most
`(2 ^ 64 - 1) / 999` milliseconds.

Two consequences of the rounding follow.  The wait that a refused request is
told is exact unless the scaled shortfall leaves the word, and a retry before
that wait costs the fraction of a byte that the interval had earned.
-/

namespace TrafficFabric

open Lib

section Words

/-- A word cut at a limit. -/
def cutAt (limit x : UInt64) : UInt64 :=
  if limit < x then limit else x

theorem toNat_cutAt (limit x : UInt64) : (cutAt limit x).toNat = min x.toNat limit.toNat := by
  unfold cutAt
  split
  · rename_i h
    exact (Nat.min_eq_right (UInt64.lt_iff_toNat_lt.mp h).le).symm
  · rename_i h
    exact (Nat.min_eq_left (UInt64.le_iff_toNat_le.mp (UInt64.not_lt.mp h))).symm

/-- What still fits into a bucket. -/
def headroom (depth tokens : UInt64) : UInt64 :=
  if depth ≤ tokens then 0 else depth - tokens

theorem toNat_headroom (depth tokens : UInt64) :
    (headroom depth tokens).toNat = depth.toNat - tokens.toNat := by
  unfold headroom
  split
  · rename_i h
    exact (Nat.sub_eq_zero_of_le (UInt64.le_iff_toNat_le.mp h)).symm
  · rename_i h
    exact UInt64.toNat_sub_of_le _ _ (UInt64.le_of_lt (UInt64.not_le.mp h))

/-- Adding at most the headroom and cutting at the depth is a bounded addition. -/
theorem toNat_topUp (depth tokens gained : UInt64) :
    (cutAt depth (tokens + cutAt (headroom depth tokens) (cutAt depth gained))).toNat =
      min (tokens.toNat + gained.toNat) depth.toNat := by
  have hdepth := depth.toNat_lt
  have htokens := tokens.toNat_lt
  have hadded : (cutAt (headroom depth tokens) (cutAt depth gained)).toNat =
      min (min gained.toNat depth.toNat) (depth.toNat - tokens.toNat) := by
    rw [toNat_cutAt, toNat_cutAt, toNat_headroom]
  have hsum := @toNat_add_of_lt tokens (cutAt (headroom depth tokens) (cutAt depth gained))
    (by omega)
  rw [toNat_cutAt, hsum, hadded]
  omega

end Words

namespace TokenBucket

/-- A rate at which a bucket is drawn on. -/
structure FiniteRate (rate : UInt64) : Prop where
  finite : rate ≠ unlimitedRate
  nonzero : rate ≠ 0

theorem FiniteRate.pos {rate : UInt64} (h : FiniteRate rate) : 0 < rate.toNat := by
  rw [Nat.pos_iff_ne_zero]
  intro hzero
  exact h.nonzero (UInt64.toNat_inj.mp hzero)

/-- The bucket an accepted refill leaves. -/
def bucketAt (now rate depth tokens : UInt64) : TokenBucketState where
  tokens := tokens
  lastRefillMonotonicMs := now
  rateBps := rate
  burstBytes := depth
  initialized := true

/-- What an interval earns, in whole bytes. -/
def credit (rate elapsed : UInt64) : Nat :=
  wordShare rate.toNat elapsed.toNat 1000

section Refills

/-- Up to the depth, an interval is credited with what it earns. -/
theorem min_gained {rate elapsed depth : UInt64} (helapsed : elapsed ≠ 0) :
    min (gained rate elapsed depth).toNat depth.toNat = min (credit rate elapsed) depth.toNat := by
  have hdepth := depth.toNat_lt
  have hquotient : (rate / 1000).toNat = rate.toNat / 1000 := UInt64.toNat_div _ _
  have hremainder : (rate % 1000).toNat = rate.toNat % 1000 := UInt64.toNat_mod _ _
  have hpart : (rate % 1000 * elapsed / 1000).toNat =
      rate.toNat % 1000 * elapsed.toNat % 2 ^ 64 / 1000 := by
    rw [UInt64.toNat_div, UInt64.toNat_mul, hremainder]
    rfl
  unfold gained credit wordShare
  simp only
  split
  · -- The product of the quotient wraps, so the interval earns more than any depth.
    rename_i hwraps
    have hlarge := mt (mul_div_eq_iff helapsed).mpr hwraps
    rw [hquotient] at hlarge
    omega
  · rename_i hfits
    have hwhole := toNat_mul_of_lt ((mul_div_eq_iff helapsed).mp (not_not.mp hfits))
    rw [hquotient] at hwhole
    have hsum := UInt64.toNat_add (rate / 1000 * elapsed) (rate % 1000 * elapsed / 1000)
    split
    · -- The sum wraps.
      rename_i hwraps
      rw [UInt64.lt_iff_toNat_lt] at hwraps
      omega
    · rename_i hsumFits
      rw [UInt64.lt_iff_toNat_lt] at hsumFits
      omega

variable {bucket : TokenBucketState} {now bytes rate depth : UInt64}

/-- A first refill fills the bucket. -/
theorem refill_fresh (now depth : UInt64) (hrate : FiniteRate rate)
    (hfresh : bucket.initialized = false) :
    refill bucket now rate depth = (Status.ok, bucketAt now rate depth depth) := by
  unfold refill
  rw [if_neg hrate.finite, if_neg hrate.nonzero, if_pos hfresh]
  rfl

theorem refill_regressed (hrate : FiniteRate rate) (hset : bucket.initialized = true)
    (hclock : now < bucket.lastRefillMonotonicMs) :
    refill bucket now rate depth =
      (.error .admissionClockRegression
        (text "monotonic clock moved backwards; refusing to grant tokens"), bucket) := by
  unfold refill
  rw [if_neg hrate.finite, if_neg hrate.nonzero, if_neg (by simp [hset]), if_pos hclock]

/-- A later refill adds the credit of the interval, up to the depth. -/
theorem refill_accepted (depth : UInt64) (hrate : FiniteRate rate)
    (hset : bucket.initialized = true) (hclock : bucket.lastRefillMonotonicMs ≤ now) :
    ∃ tokens,
      refill bucket now rate depth = (Status.ok, bucketAt now rate depth tokens) ∧
      tokens.toNat =
        min (bucket.tokens.toNat + credit rate (now - bucket.lastRefillMonotonicMs))
          depth.toNat := by
  have helapsed : (now - bucket.lastRefillMonotonicMs).toNat =
      now.toNat - bucket.lastRefillMonotonicMs.toNat :=
    UInt64.toNat_sub_of_le _ _ hclock
  unfold refill
  rw [if_neg hrate.finite, if_neg hrate.nonzero, if_neg (by simp [hset]),
    if_neg (UInt64.not_lt.mpr hclock)]
  simp only
  by_cases hzero : now - bucket.lastRefillMonotonicMs = 0
  · -- No time has passed; the tokens may still be cut at a smaller depth.
    have hsame : bucket.lastRefillMonotonicMs = now := by
      refine UInt64.toNat_inj.mp ?_
      have hle := UInt64.le_iff_toNat_le.mp hclock
      rw [hzero, UInt64.toNat_zero] at helapsed
      omega
    have hnothing : credit rate (now - bucket.lastRefillMonotonicMs) = 0 := by
      rw [hzero]
      exact wordShare_zero _ _
    rw [if_neg (not_not.mpr hzero), hnothing]
    refine ⟨cutAt depth bucket.tokens, ?_, toNat_cutAt _ _⟩
    unfold cutAt
    split <;> simp [bucketAt, hsame, hset]
  · have hgained := @min_gained rate _ depth hzero
    have htokens := toNat_topUp depth bucket.tokens
      (gained rate (now - bucket.lastRefillMonotonicMs) depth)
    rw [if_pos hzero]
    refine ⟨cutAt depth (bucket.tokens + cutAt (headroom depth bucket.tokens)
      (cutAt depth (gained rate (now - bucket.lastRefillMonotonicMs) depth))), ?_, by omega⟩
    have hcut : ∀ limit x : UInt64, (if limit < x then limit else x) = cutAt limit x :=
      fun _ _ => rfl
    have hroom : ∀ depth tokens : UInt64,
        (if depth ≤ tokens then 0 else depth - tokens) = headroom depth tokens :=
      fun _ _ => rfl
    simp only [hcut, hroom, hset]
    generalize bucket.tokens + cutAt (headroom depth bucket.tokens) _ = filled
    unfold cutAt
    split <;> rfl

/-- After an accepted refill the tokens are taken, or there are too few. -/
theorem tryConsume_of_refill {tokens : UInt64} (hrate : FiniteRate rate)
    (hrefill : refill bucket now rate depth = (Status.ok, bucketAt now rate depth tokens)) :
    tryConsume bucket now bytes rate depth =
      if bytes ≤ tokens then (Status.ok, bucketAt now rate depth (tokens - bytes))
      else (.error .admissionRateLimited (text "token bucket is empty for this request"),
        bucketAt now rate depth tokens) := by
  unfold tryConsume
  rw [hrefill]
  simp only [Status.isOk_ok, Bool.true_eq_false, if_false]
  rw [if_neg (show (bucketAt now rate depth tokens).rateBps ≠ unlimitedRate from hrate.finite)]
  rfl

theorem tryConsume_regressed (hrate : FiniteRate rate) (hset : bucket.initialized = true)
    (hclock : now < bucket.lastRefillMonotonicMs) :
    tryConsume bucket now bytes rate depth =
      (.error .admissionClockRegression
        (text "monotonic clock moved backwards; refusing to grant tokens"), bucket) := by
  unfold tryConsume
  rw [refill_regressed hrate hset hclock]
  rfl

end Refills

section Exactness

variable {bucket : TokenBucketState} {now rate depth : UInt64}

/-- The remainder of the rate is below a thousand, so short intervals do not wrap. -/
theorem credit_exact {elapsed : UInt64} (h : elapsed.toNat ≤ (2 ^ 64 - 1) / 999) :
    credit rate elapsed = rate.toNat * elapsed.toNat / 1000 := by
  refine wordShare_eq ?_
  have hremainder : rate.toNat % 1000 ≤ 999 := by omega
  calc
    rate.toNat % 1000 * elapsed.toNat ≤ 999 * elapsed.toNat := Nat.mul_le_mul_right _ hremainder
    _ < 2 ^ 64 := by omega

/-- A refill computes the bounded sum of the tokens and of what the interval earns. -/
theorem refill_exact (hset : bucket.initialized = true) (hrate : FiniteRate rate)
    (hclock : bucket.lastRefillMonotonicMs ≤ now)
    (helapsed : now.toNat - bucket.lastRefillMonotonicMs.toNat ≤ (2 ^ 64 - 1) / 999) :
    (refill bucket now rate depth).1 = Status.ok ∧
      (refill bucket now rate depth).2.tokens.toNat =
        min depth.toNat
          (bucket.tokens.toNat +
            rate.toNat * (now.toNat - bucket.lastRefillMonotonicMs.toNat) / 1000) := by
  obtain ⟨tokens, hrefill, htokens⟩ := refill_accepted depth hrate hset hclock
  have hinterval : (now - bucket.lastRefillMonotonicMs).toNat =
      now.toNat - bucket.lastRefillMonotonicMs.toNat :=
    UInt64.toNat_sub_of_le _ _ hclock
  rw [credit_exact (by rw [hinterval]; exact helapsed), hinterval] at htokens
  rw [hrefill]
  exact ⟨rfl, htokens.trans (Nat.min_comm _ _)⟩

/-- A bucket of 10 bytes gains 1 byte in 1 ms at 1500 bytes per second. -/
theorem refill_exact_short : (refill (bucketAt 5 1500 100 10) 6 1500 100).2.tokens.toNat = 11 := by
  have h := (@refill_exact (bucketAt 5 1500 100 10) 6 1500 100 rfl
    ⟨by decide, by decide⟩ (by decide) (by decide)).2
  exact h.trans (by decide)

end Exactness

section Waits

variable {bucket after : TokenBucketState} {now bytes rate depth tokens : UInt64} {wait : UInt64}

/-- What a request lacks after the refill at the given time. -/
def shortfall (bucket : TokenBucketState) (now bytes rate depth : UInt64) : Nat :=
  bytes.toNat -
    min (bucket.tokens.toNat + credit rate (now - bucket.lastRefillMonotonicMs)) depth.toNat

/--
The wait told for a request is exact: at its end the request succeeds, and at
every time before it is refused.
-/
def WaitExact (after : TokenBucketState) (now bytes rate depth : UInt64) : Prop :=
  (tryConsume after (now + delayUntilAvailableMs after bytes) bytes rate depth).1.isOk = true ∧
    ∀ time, now ≤ time → time < now + delayUntilAvailableMs after bytes →
      (tryConsume after time bytes rate depth).1.isOk = false

/-- A request that is refused for its rate finds the bucket refilled, and too few tokens. -/
theorem refused_of_rateLimited (hrate : FiniteRate rate) (hdepth : bytes ≤ depth)
    (hcode : (tryConsume bucket now bytes rate depth).1.code = .admissionRateLimited) :
    ∃ tokens,
      (tryConsume bucket now bytes rate depth).2 = bucketAt now rate depth tokens ∧
      tokens < bytes ∧ shortfall bucket now bytes rate depth = bytes.toNat - tokens.toNat := by
  cases hset : bucket.initialized with
  | false =>
    rw [tryConsume_of_refill hrate (refill_fresh now depth hrate hset), if_pos hdepth] at hcode
    cases hcode
  | true =>
    by_cases hclock : now < bucket.lastRefillMonotonicMs
    · rw [tryConsume_regressed hrate hset hclock] at hcode
      cases hcode
    · obtain ⟨tokens, hrefill, htokens⟩ :=
        refill_accepted depth hrate hset (UInt64.not_lt.mp hclock)
      rw [tryConsume_of_refill hrate hrefill] at hcode ⊢
      by_cases hbytes : bytes ≤ tokens
      · rw [if_pos hbytes] at hcode
        cases hcode
      · rw [if_neg hbytes]
        exact ⟨tokens, rfl, UInt64.not_le.mp hbytes, by rw [shortfall, htokens]⟩

/-- The wait in milliseconds: the scaled shortfall as a word, rounded up, at least one. -/
theorem toNat_delay (hrate : FiniteRate rate) (htokens : tokens < bytes) :
    (delayUntilAvailableMs (bucketAt now rate depth tokens) bytes).toNat =
      max 1 ((1000 * (bytes.toNat - tokens.toNat) + rate.toNat - 1) % 2 ^ 64 / rate.toNat) := by
  have hpos := hrate.pos
  have hlt := UInt64.lt_iff_toNat_lt.mp htokens
  have hdeficit : (bytes - tokens).toNat = bytes.toNat - tokens.toNat :=
    UInt64.toNat_sub_of_le _ _ (UInt64.le_of_lt htokens)
  have hscaled : ((bytes - tokens) * 1000 + rate - 1).toNat =
      (1000 * (bytes.toNat - tokens.toNat) + rate.toNat - 1) % 2 ^ 64 := by
    rw [UInt64.toNat_sub, UInt64.toNat_add, UInt64.toNat_mul, hdeficit]
    change (2 ^ 64 - 1 + ((bytes.toNat - tokens.toNat) * 1000 % 2 ^ 64 + rate.toNat) % 2 ^ 64) %
      2 ^ 64 = _
    omega
  unfold delayUntilAvailableMs
  rw [if_neg (show (bucketAt now rate depth tokens).rateBps ≠ unlimitedRate from hrate.finite),
    if_neg (show (bucketAt now rate depth tokens).rateBps ≠ 0 from hrate.nonzero),
    if_neg (show ¬ bytes ≤ (bucketAt now rate depth tokens).tokens from UInt64.not_le.mpr htokens)]
  change (if ((bytes - tokens) * 1000 + rate - 1) / rate = 0 then (1 : UInt64)
    else ((bytes - tokens) * 1000 + rate - 1) / rate).toNat = _
  have hquotient : (((bytes - tokens) * 1000 + rate - 1) / rate).toNat =
      (1000 * (bytes.toNat - tokens.toNat) + rate.toNat - 1) % 2 ^ 64 / rate.toNat := by
    rw [UInt64.toNat_div, hscaled]
  split
  · rename_i hzero
    rw [hzero] at hquotient
    rw [← hquotient]
    rfl
  · rename_i hnonzero
    have hpositive : ((((bytes - tokens) * 1000 + rate - 1) / rate)).toNat ≠ 0 := by
      intro hzero
      exact hnonzero (UInt64.toNat_inj.mp hzero)
    omega

/-- After a refusal a request succeeds as soon as the interval earns what it lacks. -/
theorem tryConsume_later_iff (hrate : FiniteRate rate) (hdepth : bytes ≤ depth)
    (htokens : tokens < bytes) (hfits : now.toNat + wait.toNat < 2 ^ 64) :
    (tryConsume (bucketAt now rate depth tokens) (now + wait) bytes rate depth).1.isOk = true ↔
      bytes.toNat - tokens.toNat ≤ credit rate wait := by
  have hlt := UInt64.lt_iff_toNat_lt.mp htokens
  have hle := UInt64.le_iff_toNat_le.mp hdepth
  have hlater : now ≤ now + wait := by
    rw [UInt64.le_iff_toNat_le, toNat_add_of_lt hfits]
    exact Nat.le_add_right _ _
  obtain ⟨filled, hrefill, hfilled⟩ :=
    @refill_accepted (bucketAt now rate depth tokens) (now + wait) rate depth hrate rfl hlater
  have hinterval : now + wait - (bucketAt now rate depth tokens).lastRefillMonotonicMs = wait := by
    refine UInt64.toNat_inj.mp ?_
    change (now + wait - now).toNat = wait.toNat
    rw [UInt64.toNat_sub_of_le _ _ hlater, toNat_add_of_lt hfits]
    omega
  rw [hinterval] at hfilled
  have hreaches : bytes ≤ filled ↔ bytes.toNat - tokens.toNat ≤ credit rate wait := by
    rw [UInt64.le_iff_toNat_le, hfilled]
    change bytes.toNat ≤ min (tokens.toNat + credit rate wait) depth.toNat ↔ _
    omega
  rw [tryConsume_of_refill hrate hrefill, ← hreaches]
  by_cases hbytes : bytes ≤ filled
  · simp [hbytes]
  · simp [hbytes]

/-- The least number of milliseconds that earn the given amount. -/
def leastWait (lacking rate : Nat) : Nat :=
  (1000 * lacking + rate - 1) / rate

section LeastWait

variable {lacking r : Nat}

theorem lt_leastWait_iff {k : Nat} (hr : 0 < r) :
    k < leastWait lacking r ↔ r * k < 1000 * lacking := by
  exact lt_div_add_pred_iff hr

theorem one_le_leastWait (hr : 0 < r) (hlacking : 0 < lacking) : 1 ≤ leastWait lacking r := by
  rw [Nat.one_le_iff_ne_zero, ← Nat.pos_iff_ne_zero, lt_leastWait_iff hr]
  omega

/-- Scaled in a word, the wait never exceeds the least one. -/
theorem wordWait_le (hr : 0 < r) (hlacking : 0 < lacking) :
    max 1 ((1000 * lacking + r - 1) % 2 ^ 64 / r) ≤ leastWait lacking r := by
  exact max_le (one_le_leastWait hr hlacking) (Nat.div_le_div_right (Nat.mod_le _ _))

/-- It is the least wait when nothing wraps, or when the least wait is one anyway. -/
theorem wordWait_eq_iff (hr : 0 < r) (hword : r < 2 ^ 64) (hlacking : 0 < lacking) :
    max 1 ((1000 * lacking + r - 1) % 2 ^ 64 / r) = leastWait lacking r ↔
      1000 * lacking + r - 1 < 2 ^ 64 ∨ 1000 * lacking ≤ r := by
  have hone := one_le_leastWait hr hlacking
  constructor
  · intro h
    by_contra hcondition
    rw [not_or, not_lt, not_le] at hcondition
    obtain ⟨hwraps, hlong⟩ := hcondition
    have htwo : 1 < leastWait lacking r := by
      rw [lt_leastWait_iff hr]
      omega
    -- Losing a word's worth of thousandths loses at least one millisecond.
    have hless : (1000 * lacking + r - 1) % 2 ^ 64 / r < leastWait lacking r := by
      calc
        (1000 * lacking + r - 1) % 2 ^ 64 / r ≤ (1000 * lacking + r - 1 - r) / r :=
          Nat.div_le_div_right (by omega)
        _ < leastWait lacking r := by
          have hstep := Nat.div_eq_sub_div hr (show r ≤ 1000 * lacking + r - 1 by omega)
          rw [leastWait, hstep]
          exact Nat.lt_succ_self _
    omega
  · rintro (hfits | hshort)
    · rw [Nat.mod_eq_of_lt hfits]
      exact max_eq_right hone
    · have hleast : leastWait lacking r = 1 := by
        refine le_antisymm ?_ hone
        rw [← not_lt, lt_leastWait_iff hr]
        omega
      have hle := wordWait_le hr hlacking
      omega

end LeastWait

/-- Earning an amount takes its least wait. -/
theorem leastWait_le_of_credit {lacking : Nat} (hrate : FiniteRate rate)
    (h : lacking ≤ credit rate wait) : leastWait lacking rate.toNat ≤ wait.toNat := by
  have hearned := h.trans (wordShare_le _ _ _)
  rw [Nat.le_div_iff_mul_le (by decide)] at hearned
  rw [← not_lt, lt_leastWait_iff hrate.pos]
  omega

/-- The least wait earns the amount, unless the product of the remainder wraps before. -/
theorem le_credit_of_leastWait {lacking : Nat} (hrate : FiniteRate rate)
    (hfits : rate.toNat % 1000 * wait.toNat < 2 ^ 64)
    (h : leastWait lacking rate.toNat ≤ wait.toNat) : lacking ≤ credit rate wait := by
  rw [credit, wordShare_eq hfits, Nat.le_div_iff_mul_le (by decide)]
  rw [← not_lt, lt_leastWait_iff hrate.pos] at h
  omega

/-- No wait that is told makes the product of the remainder wrap. -/
theorem remainder_mul_wordWait_lt {scaled wait : Nat}
    (hwait : wait = max 1 (scaled % 2 ^ 64 / rate.toNat)) : rate.toNat % 1000 * wait < 2 ^ 64 := by
  have hscaled : scaled % 2 ^ 64 < 2 ^ 64 := Nat.mod_lt _ (by decide)
  rcases max_choice 1 (scaled % 2 ^ 64 / rate.toNat) with h | h
  · rw [hwait, h]
    omega
  · rw [hwait, h]
    calc
      rate.toNat % 1000 * (scaled % 2 ^ 64 / rate.toNat) ≤
          rate.toNat * (scaled % 2 ^ 64 / rate.toNat) :=
        Nat.mul_le_mul_right _ (Nat.mod_le _ _)
      _ ≤ scaled % 2 ^ 64 := Nat.mul_div_le _ _
      _ < 2 ^ 64 := hscaled

/--
The wait a refused request is told is exact if and only if its scaled shortfall
stays within a word, or one millisecond is enough.
-/
theorem advertised_wait_exact_iff (hrate : FiniteRate rate) (hdepth : bytes ≤ depth)
    (hcode : (tryConsume bucket now bytes rate depth).1.code = .admissionRateLimited)
    (hfits : now.toNat +
      (delayUntilAvailableMs (tryConsume bucket now bytes rate depth).2 bytes).toNat < 2 ^ 64) :
    WaitExact (tryConsume bucket now bytes rate depth).2 now bytes rate depth ↔
      1000 * shortfall bucket now bytes rate depth + rate.toNat - 1 < 2 ^ 64 ∨
        1000 * shortfall bucket now bytes rate depth ≤ rate.toNat := by
  obtain ⟨tokens, hafter, htokens, hshortfall⟩ := refused_of_rateLimited hrate hdepth hcode
  rw [hafter] at hfits ⊢
  rw [hshortfall]
  have hlacking : 0 < bytes.toNat - tokens.toNat := by
    have := UInt64.lt_iff_toNat_lt.mp htokens
    omega
  have hdelay := @toNat_delay now bytes rate depth tokens hrate htokens
  have hle := wordWait_le hrate.pos hlacking
  rw [← hdelay] at hle
  rw [← wordWait_eq_iff hrate.pos rate.toNat_lt hlacking, ← hdelay]
  unfold WaitExact
  generalize delayUntilAvailableMs (bucketAt now rate depth tokens) bytes = wait at *
  have hend : now.toNat + wait.toNat = (now + wait).toNat := (toNat_add_of_lt hfits).symm
  constructor
  · rintro ⟨hsucceeds, -⟩
    have hcredit := (tryConsume_later_iff hrate hdepth htokens hfits).mp hsucceeds
    exact le_antisymm hle (leastWait_le_of_credit hrate hcredit)
  · intro hleast
    refine ⟨(tryConsume_later_iff hrate hdepth htokens hfits).mpr
      (le_credit_of_leastWait hrate (remainder_mul_wordWait_lt hdelay) hleast.ge), ?_⟩
    intro time hfrom hbefore
    rw [UInt64.le_iff_toNat_le] at hfrom
    rw [UInt64.lt_iff_toNat_lt, ← hend] at hbefore
    have hinterval : (time - now).toNat = time.toNat - now.toNat :=
      UInt64.toNat_sub_of_le _ _ (UInt64.le_iff_toNat_le.mpr hfrom)
    have hearly : now.toNat + (time - now).toNat < 2 ^ 64 := by
      rw [hinterval]
      omega
    have htime : time = now + (time - now) := by
      rw [← UInt64.toNat_inj, toNat_add_of_lt hearly, hinterval]
      omega
    rw [htime, Bool.eq_false_iff, Ne, tryConsume_later_iff hrate hdepth htokens hearly]
    intro hcredit
    have htooLate := leastWait_le_of_credit hrate hcredit
    omega

/-- Three bytes at 1500 bytes per second take two milliseconds, not one. -/
theorem advertised_wait_exact_short :
    WaitExact (tryConsume (bucketAt 0 1500 100 0) 0 3 1500 100).2 0 3 1500 100 := by
  exact (advertised_wait_exact_iff ⟨by decide, by decide⟩ (by decide) (by decide)
    (by decide)).mpr (.inl (by decide))

/-- The scaled volume wraps to nothing: a wait of decades is told as one millisecond. -/
theorem advertised_wait_wraps :
    let volume : UInt64 := 2305843009213693952
    let emptied := (tryConsume {} 0 volume 1000000000 volume).2
    let refused := tryConsume emptied 0 volume 1000000000 volume
    refused.1.code = .admissionRateLimited ∧ delayUntilAvailableMs refused.2 volume = 1 ∧
      ¬ WaitExact refused.2 0 volume 1000000000 volume := by
  refine ⟨by decide, by decide, ?_⟩
  rintro ⟨hsucceeds, -⟩
  exact absurd hsucceeds (by decide)

end Waits

section Retries

variable {bucket : TokenBucketState} {first second bytes rate depth : UInt64}

/-- What an interval earns of the remainder of the rate, in thousandths of a byte, as a word. -/
def remainderWord (rate elapsed : UInt64) : Nat :=
  rate.toNat % 1000 * elapsed.toNat % 2 ^ 64

/-- Two intervals earn apart what they earn together if their fractions make no whole byte. -/
theorem credit_add_eq_iff {a b : UInt64} (hfits : a.toNat + b.toNat < 2 ^ 64) :
    credit rate a + credit rate b = credit rate (a + b) ↔
      remainderWord rate a + remainderWord rate b < 2 ^ 64 ∧
        remainderWord rate a % 1000 + remainderWord rate b % 1000 < 1000 := by
  have hwhole : rate.toNat / 1000 * (a.toNat + b.toNat) =
      rate.toNat / 1000 * a.toNat + rate.toNat / 1000 * b.toNat := Nat.mul_add _ _ _
  have hpart : rate.toNat % 1000 * (a.toNat + b.toNat) =
      rate.toNat % 1000 * a.toNat + rate.toNat % 1000 * b.toNat := Nat.mul_add _ _ _
  unfold credit wordShare remainderWord
  rw [toNat_add_of_lt hfits, hwhole, hpart]
  omega

/--
A refused attempt leaves the tokens of the next refill as they would be without
it if and only if the fractions of the two intervals make no whole byte, or the
bucket is full either way.
-/
theorem early_retry_free_iff (hset : bucket.initialized = true) (hrate : FiniteRate rate)
    (hfirst : bucket.lastRefillMonotonicMs ≤ first) (hsecond : first ≤ second)
    (hrefused : (tryConsume bucket first bytes rate depth).1.isOk = false) :
    (refill (tryConsume bucket first bytes rate depth).2 second rate depth).2.tokens =
        (refill bucket second rate depth).2.tokens ↔
      (remainderWord rate (first - bucket.lastRefillMonotonicMs) +
            remainderWord rate (second - first) < 2 ^ 64 ∧
          remainderWord rate (first - bucket.lastRefillMonotonicMs) % 1000 +
            remainderWord rate (second - first) % 1000 < 1000) ∨
        (depth.toNat ≤ bucket.tokens.toNat +
              credit rate (first - bucket.lastRefillMonotonicMs) + credit rate (second - first) ∧
          depth.toNat ≤ bucket.tokens.toNat +
              credit rate (second - bucket.lastRefillMonotonicMs)) := by
  obtain ⟨tokens, hrefill, htokens⟩ := refill_accepted depth hrate hset hfirst
  have hstate :
      (tryConsume bucket first bytes rate depth).2 = bucketAt first rate depth tokens := by
    rw [tryConsume_of_refill hrate hrefill] at hrefused ⊢
    by_cases hbytes : bytes ≤ tokens
    · rw [if_pos hbytes] at hrefused
      cases hrefused
    · rw [if_neg hbytes]
  obtain ⟨polled, hpolled, hpolledTokens⟩ :=
    @refill_accepted (bucketAt first rate depth tokens) second rate depth hrate rfl hsecond
  obtain ⟨waited, hwaited, hwaitedTokens⟩ :=
    refill_accepted depth hrate hset (UInt64.le_trans hfirst hsecond)
  rw [hstate, hpolled, hwaited]
  change polled = waited ↔ _
  change polled.toNat = min (tokens.toNat + credit rate (second - first)) depth.toNat
    at hpolledTokens
  have hfirstNat := UInt64.le_iff_toNat_le.mp hfirst
  have hsecondNat := UInt64.le_iff_toNat_le.mp hsecond
  have hearly := UInt64.toNat_sub_of_le _ _ hfirst
  have hlate := UInt64.toNat_sub_of_le _ _ hsecond
  have hlt := second.toNat_lt
  have hfits : (first - bucket.lastRefillMonotonicMs).toNat + (second - first).toNat < 2 ^ 64 := by
    omega
  have hinterval : first - bucket.lastRefillMonotonicMs + (second - first) =
      second - bucket.lastRefillMonotonicMs := by
    rw [← UInt64.toNat_inj, toNat_add_of_lt hfits,
      UInt64.toNat_sub_of_le _ _ (UInt64.le_trans hfirst hsecond)]
    omega
  rw [← credit_add_eq_iff hfits, hinterval, ← UInt64.toNat_inj, hpolledTokens, hwaitedTokens,
    htokens]
  omega

/-- A retry after a whole number of bytes costs nothing. -/
theorem early_retry_free_halves :
    (refill (tryConsume (bucketAt 0 1500 100 0) 2 5 1500 100).2 3 1500 100).2.tokens =
      (refill (bucketAt 0 1500 100 0) 3 1500 100).2.tokens := by
  exact (early_retry_free_iff rfl ⟨by decide, by decide⟩ (by decide) (by decide)
    (by decide)).mpr (.inl (by decide))

/-- The bucket of a flow group that asks every millisecond. -/
def polled (bucket : TokenBucketState) (bytes rate depth : UInt64) : Nat → TokenBucketState
  | 0 => bucket
  | k + 1 => (tryConsume (polled bucket bytes rate depth k) (k + 1).toUInt64 bytes rate depth).2

/-- One millisecond at 999 bytes per second earns no byte, and the clock has moved on. -/
theorem poll_earns_nothing {k : Nat} (hk : k + 1 < 2 ^ 64) :
    tryConsume (bucketAt k.toUInt64 999 1 0) (k + 1).toUInt64 1 999 1 =
      (.error .admissionRateLimited (text "token bucket is empty for this request"),
        bucketAt (k + 1).toUInt64 999 1 0) := by
  have hrate : FiniteRate 999 := ⟨by decide, by decide⟩
  have hnow : k.toUInt64.toNat = k := Nat.mod_eq_of_lt (by omega)
  have hnext : (k + 1).toUInt64.toNat = k + 1 := Nat.mod_eq_of_lt hk
  have hclock : k.toUInt64 ≤ (k + 1).toUInt64 := by
    rw [UInt64.le_iff_toNat_le, hnow, hnext]
    exact Nat.le_succ k
  have hinterval : (k + 1).toUInt64 - k.toUInt64 = 1 := by
    rw [← UInt64.toNat_inj, UInt64.toNat_sub_of_le _ _ hclock, hnow, hnext]
    exact Nat.add_sub_cancel_left k 1
  obtain ⟨tokens, hrefill, htokens⟩ :=
    @refill_accepted (bucketAt k.toUInt64 999 1 0) (k + 1).toUInt64 999 1 hrate rfl hclock
  change tokens.toNat = min (0 + credit 999 ((k + 1).toUInt64 - k.toUInt64)) 1 at htokens
  rw [hinterval] at htokens
  obtain rfl : tokens = 0 := UInt64.toNat_inj.mp (htokens.trans (by decide))
  rw [tryConsume_of_refill hrate hrefill, if_neg (by decide)]

/-- A flow group that asks every millisecond never gets the byte that waiting earns in two. -/
theorem polling_starves :
    let emptied := (tryConsume {} 0 1 999 1).2
    (∀ k, k + 1 < 2 ^ 64 →
        (tryConsume (polled emptied 1 999 1 k) (k + 1).toUInt64 1 999 1).1.isOk = false) ∧
      (tryConsume emptied 2 1 999 1).1.isOk = true ∧
      (refill (tryConsume emptied 1 1 999 1).2 2 999 1).2.tokens ≠
        (refill emptied 2 999 1).2.tokens := by
  intro emptied
  have hpolled : ∀ k, k < 2 ^ 64 → polled emptied 1 999 1 k = bucketAt k.toUInt64 999 1 0 := by
    intro k
    induction k with
    | zero =>
      intro _
      rfl
    | succ k ih =>
      intro hk
      rw [polled, ih (by omega), poll_earns_nothing hk]
  refine ⟨?_, by decide, by decide⟩
  intro k hk
  rw [hpolled k (by omega), poll_earns_nothing hk]
  rfl

end Retries

end TokenBucket

end TrafficFabric
