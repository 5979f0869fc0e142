import TrafficFabric.Admission
import TrafficFabric.Lib.Accounts
import TrafficFabric.Refilling

/-!
# What a token bucket releases

Calls of the admission controller for one flow group, under any clocks and with
a rate and a depth of their own each.  What the calls release is paid for by
the first depth and by what the later refills earn, computed over the natural
numbers: the refill multiplies in halves, notices an overflow and saturates at
the depth, and none of this ever credits more than the interval earned.

Only calls that draw on the bucket are paced.  A decision whose pacing mode
releases immediately is granted without one.
-/

namespace TrafficFabric

open Lib AdmissionController TokenBucket

/-- One call of the admission controller. -/
structure AdmissionCall where
  decision : DecisionRecord
  nowMonotonicMs : UInt64

namespace AdmissionCall

/-- The volume asked for, at least one byte. -/
def bytes (call : AdmissionCall) : UInt64 :=
  if call.decision.group.totalLogicalBytes = 0 then 1 else call.decision.group.totalLogicalBytes

def rate (call : AdmissionCall) : UInt64 :=
  call.decision.pacing.admittedBandwidthBps

/-- The effective burst: raised to at least the volume asked for. -/
def depth (call : AdmissionCall) : UInt64 :=
  max call.decision.pacing.burstBytes call.bytes

/-- The call is for the group and draws on its bucket, at a finite rate that is not zero. -/
structure Draws (group : FlowGroupId) (call : AdmissionCall) : Prop where
  group : call.decision.flowGroup = group
  grants : outcomeGrantsAuthority call.decision.outcome = true
  constructed : call.decision.flowGroupConstructed = true
  paced : call.decision.pacing.mode ≠ .none ∧ call.decision.pacing.mode ≠ .immediate
  finite : call.rate ≠ unlimitedRate
  nonzero : call.rate ≠ 0

theorem bytes_le_depth (call : AdmissionCall) : call.bytes ≤ call.depth := by
  rw [UInt64.le_iff_toNat_le, depth, toNat_max]
  exact Nat.le_max_right _ _

end AdmissionCall

namespace AdmissionController

def admitStep (controller : AdmissionController) (call : AdmissionCall) : AdmissionController :=
  (controller.admitDecision call.decision call.nowMonotonicMs).2

def answerTo (controller : AdmissionController) (call : AdmissionCall) : AdmissionOutcome :=
  (controller.admitDecision call.decision call.nowMonotonicMs).1.outcome

/-- The volume the call releases. -/
def released (controller : AdmissionController) (call : AdmissionCall) : Nat :=
  if controller.answerTo call = .granted then call.bytes.toNat else 0

/-- The bucket of a group. -/
def bucketOf (controller : AdmissionController) (group : FlowGroupId) : Option TokenBucketState :=
  (controller.buckets.find group).map AdmissionEntry.bucket

/-- No bucket can be made. -/
def Full (controller : AdmissionController) : Prop :=
  controller.capacity.toNat ≤ controller.buckets.size

end AdmissionController

/-- The last refill that was accepted: when, and up to which depth. -/
structure Refill where
  atMs : UInt64
  depth : UInt64
deriving DecidableEq, Repr

namespace Refill

/-- The first call fills the bucket; later ones refill it unless the clock went back. -/
def accept : Option Refill → AdmissionCall → Option Refill
  | none, call => some ⟨call.nowMonotonicMs, call.depth⟩
  | some last, call =>
    if call.nowMonotonicMs < last.atMs then some last
    else some ⟨call.nowMonotonicMs, call.depth⟩

/-- What a call earns: its rate over the time since the last refill, nothing on a regression. -/
def earned : Option Refill → AdmissionCall → Nat
  | none, _ => 0
  | some last, call => call.rate.toNat * (call.nowMonotonicMs.toNat - last.atMs.toNat) / 1000

/-- What the first call brings along. -/
def opening : Option Refill → AdmissionCall → Nat
  | none, call => call.depth.toNat
  | some _, _ => 0

end Refill

section Refills

/-- The bucket a refill leaves. -/
def refilledBucket (call : AdmissionCall) (tokens : UInt64) : TokenBucketState where
  tokens := tokens
  lastRefillMonotonicMs := call.nowMonotonicMs
  rateBps := call.rate
  burstBytes := call.depth
  initialized := true

variable {group : FlowGroupId} {call : AdmissionCall} {bucket : TokenBucketState}

theorem AdmissionCall.Draws.finiteRate (hdraws : call.Draws group) :
    TokenBucket.FiniteRate call.rate := by
  exact ⟨hdraws.finite, hdraws.nonzero⟩

/-- An accepted refill keeps the tokens within the depth and within what was earned. -/
theorem refill_bounded (hdraws : call.Draws group) (hinitialized : bucket.initialized = true)
    (hclock : bucket.lastRefillMonotonicMs ≤ call.nowMonotonicMs) :
    ∃ tokens,
      refill bucket call.nowMonotonicMs call.rate call.depth =
        (Status.ok, refilledBucket call tokens) ∧
      tokens.toNat ≤ call.depth.toNat ∧
      tokens.toNat ≤ bucket.tokens.toNat +
        call.rate.toNat *
          (call.nowMonotonicMs.toNat - bucket.lastRefillMonotonicMs.toNat) / 1000 := by
  obtain ⟨tokens, hrefill, htokens⟩ :=
    refill_accepted call.depth hdraws.finiteRate hinitialized hclock
  have hearned := wordShare_le call.rate.toNat
    (call.nowMonotonicMs - bucket.lastRefillMonotonicMs).toNat 1000
  rw [UInt64.toNat_sub_of_le _ _ hclock] at hearned
  unfold credit at htokens
  rw [UInt64.toNat_sub_of_le _ _ hclock] at htokens
  exact ⟨tokens, hrefill, by omega, by omega⟩

end Refills

section Calls

variable {group : FlowGroupId} {controller : AdmissionController} {call : AdmissionCall}
variable {last : Option Refill} {bucket : TokenBucketState}

/-- Everything one call that draws on the bucket can do. -/
inductive AdmitChange
    (group : FlowGroupId) (controller : AdmissionController) (call : AdmissionCall) :
    AdmissionOutcome → AdmissionController → Prop
  | full
      (habsent : controller.bucketOf group = none)
      (hfull : controller.Full) :
      AdmitChange group controller call .bucketTableFull controller
  | opened {after : AdmissionController}
      (habsent : controller.bucketOf group = none)
      (hroom : ¬ controller.Full)
      (hafter : after.bucketOf group = some (refilledBucket call (call.depth - call.bytes))) :
      AdmitChange group controller call .granted after
  | regressed {after : AdmissionController} {bucket : TokenBucketState}
      (hfound : controller.bucketOf group = some bucket)
      (hclock : call.nowMonotonicMs < bucket.lastRefillMonotonicMs)
      (hafter : after.bucketOf group = some bucket) :
      AdmitChange group controller call .clockRegression after
  | granted {after : AdmissionController} {bucket : TokenBucketState} {tokens : UInt64}
      (hfound : controller.bucketOf group = some bucket)
      (hclock : bucket.lastRefillMonotonicMs ≤ call.nowMonotonicMs)
      (hdepth : tokens.toNat ≤ call.depth.toNat)
      (hearned : tokens.toNat ≤ bucket.tokens.toNat + call.rate.toNat *
        (call.nowMonotonicMs.toNat - bucket.lastRefillMonotonicMs.toNat) / 1000)
      (hbytes : call.bytes ≤ tokens)
      (hafter : after.bucketOf group = some (refilledBucket call (tokens - call.bytes))) :
      AdmitChange group controller call .granted after
  | limited {after : AdmissionController} {bucket : TokenBucketState} {tokens : UInt64}
      (hfound : controller.bucketOf group = some bucket)
      (hclock : bucket.lastRefillMonotonicMs ≤ call.nowMonotonicMs)
      (hrefill : TokenBucket.refill bucket call.nowMonotonicMs call.rate call.depth =
        (Status.ok, refilledBucket call tokens))
      (hdepth : tokens.toNat ≤ call.depth.toNat)
      (hearned : tokens.toNat ≤ bucket.tokens.toNat + call.rate.toNat *
        (call.nowMonotonicMs.toNat - bucket.lastRefillMonotonicMs.toNat) / 1000)
      (hafter : after.bucketOf group = some (refilledBucket call tokens)) :
      AdmitChange group controller call .rateLimited after

/-- After an accepted refill the tokens are taken, or there are too few. -/
theorem tryConsume_eq {tokens : UInt64} (hdraws : call.Draws group)
    (hrefill : refill bucket call.nowMonotonicMs call.rate call.depth =
      (Status.ok, refilledBucket call tokens)) :
    tryConsume bucket call.nowMonotonicMs call.bytes call.rate call.depth =
      if call.bytes ≤ tokens then (Status.ok, refilledBucket call (tokens - call.bytes))
      else (.error .admissionRateLimited (text "token bucket is empty for this request"),
        refilledBucket call tokens) := by
  exact tryConsume_of_refill hdraws.finiteRate hrefill

/-- A drawing call is answered by the bucket of its group, made on first use. -/
theorem admitDecision_of_draws (hdraws : call.Draws group) :
    controller.admitDecision call.decision call.nowMonotonicMs =
      controller.draw call.decision call.nowMonotonicMs := by
  unfold admitDecision
  rw [if_neg (by simp [hdraws.grants, hdraws.constructed]), if_neg (by simp [hdraws.paced]),
    if_neg (show call.decision.pacing.admittedBandwidthBps ≠ unlimitedRate from hdraws.finite),
    if_neg (show call.decision.pacing.admittedBandwidthBps ≠ 0 from hdraws.nonzero)]

/-- The answer to a drawing call is read off the status of its bucket. -/
theorem draw_result {after : TokenBucketState} {status : Status} (hdraws : call.Draws group)
    (hbucket : ((controller.buckets.find group).getD {}).bucket = bucket)
    (hroom : ¬ (controller.buckets.find group = none ∧ controller.Full))
    (hconsume : tryConsume bucket call.nowMonotonicMs call.bytes call.rate call.depth =
      (status, after)) :
    controller.answerTo call =
        (consumeResult call.decision call.bytes status after).outcome ∧
      (controller.admitStep call).bucketOf group = some after := by
  have hgroup := hdraws.group
  unfold answerTo admitStep
  rw [admitDecision_of_draws hdraws]
  unfold draw
  rw [hgroup]
  simp only
  unfold AdmissionController.Full at hroom
  rw [if_neg hroom, hbucket]
  have hraw : tryConsume bucket call.nowMonotonicMs
      (if call.decision.group.totalLogicalBytes = 0 then 1
        else call.decision.group.totalLogicalBytes)
      call.decision.pacing.admittedBandwidthBps
      (max call.decision.pacing.burstBytes
        (if call.decision.group.totalLogicalBytes = 0 then 1
          else call.decision.group.totalLogicalBytes)) = (status, after) := hconsume
  rw [hraw]
  refine ⟨rfl, ?_⟩
  simp [bucketOf]

/-- A bucket that is there answers. -/
theorem draw_found {after : TokenBucketState} {status : Status} (hdraws : call.Draws group)
    (hfound : controller.bucketOf group = some bucket)
    (hconsume : tryConsume bucket call.nowMonotonicMs call.bytes call.rate call.depth =
      (status, after)) :
    controller.answerTo call = (consumeResult call.decision call.bytes status after).outcome ∧
      (controller.admitStep call).bucketOf group = some after := by
  obtain ⟨entry, hfind, rfl⟩ := Option.map_eq_some_iff.mp hfound
  exact draw_result hdraws (by rw [hfind]; rfl) (by simp [hfind]) hconsume

/-- A bucket that is made starts full, so that it pays for the request it was made for. -/
theorem draw_opened (hdraws : call.Draws group) (habsent : controller.bucketOf group = none)
    (hroom : ¬ controller.Full) :
    controller.answerTo call = .granted ∧ (controller.admitStep call).bucketOf group =
      some (refilledBucket call (call.depth - call.bytes)) := by
  have hfind := Option.map_eq_none_iff.mp habsent
  have hfresh : refill {} call.nowMonotonicMs call.rate call.depth =
      (Status.ok, refilledBucket call call.depth) :=
    refill_fresh call.nowMonotonicMs call.depth hdraws.finiteRate rfl
  have hconsume := tryConsume_eq hdraws hfresh
  rw [if_pos call.bytes_le_depth] at hconsume
  exact draw_result hdraws (by rw [hfind]; rfl) (fun h => hroom h.2) hconsume

/-- Without room for a bucket nothing changes. -/
theorem draw_full (hdraws : call.Draws group) (habsent : controller.bucketOf group = none)
    (hfull : controller.Full) :
    controller.answerTo call = .bucketTableFull ∧ controller.admitStep call = controller := by
  have hanswer : controller.admitDecision call.decision call.nowMonotonicMs =
      (answer .bucketTableFull .admissionBucketCapacity (text "admission_bucket_table_full")
        (text "the admission table is full; no bucket can be created for this flow group")
        call.decision.flowGroup, controller) := by
    rw [admitDecision_of_draws hdraws]
    unfold draw
    rw [hdraws.group]
    exact if_pos ⟨Option.map_eq_none_iff.mp habsent, hfull⟩
  unfold answerTo admitStep
  rw [hanswer]
  exact ⟨rfl, rfl⟩

theorem admit_change (hdraws : call.Draws group)
    (hinitialized : ∀ bucket, controller.bucketOf group = some bucket → bucket.initialized = true) :
    AdmitChange group controller call (controller.answerTo call) (controller.admitStep call) := by
  cases hfound : controller.bucketOf group with
  | none =>
    by_cases hfull : controller.Full
    · obtain ⟨hanswer, hafter⟩ := draw_full hdraws hfound hfull
      rw [hanswer, hafter]
      exact .full hfound hfull
    · obtain ⟨hanswer, hafter⟩ := draw_opened hdraws hfound hfull
      rw [hanswer]
      exact .opened hfound hfull hafter
  | some bucket =>
    have hset := hinitialized bucket hfound
    by_cases hclock : call.nowMonotonicMs < bucket.lastRefillMonotonicMs
    · obtain ⟨hanswer, hafter⟩ := draw_found hdraws hfound
        (tryConsume_regressed hdraws.finiteRate hset hclock)
      rw [hanswer]
      exact .regressed hfound hclock hafter
    · have hforward := UInt64.not_lt.mp hclock
      obtain ⟨tokens, hrefill, hdepth, hearned⟩ := refill_bounded hdraws hset hforward
      have hconsume := tryConsume_eq hdraws hrefill
      by_cases hbytes : call.bytes ≤ tokens
      · rw [if_pos hbytes] at hconsume
        obtain ⟨hanswer, hafter⟩ := draw_found hdraws hfound hconsume
        rw [hanswer]
        exact .granted hfound hforward hdepth hearned hbytes hafter
      · rw [if_neg hbytes] at hconsume
        obtain ⟨hanswer, hafter⟩ := draw_found hdraws hfound hconsume
        rw [hanswer]
        exact .limited hfound hforward hrefill hdepth hearned hafter

/-- The bucket is the one of the last accepted refill, and holds at most its depth. -/
def Tracks (group : FlowGroupId) (controller : AdmissionController) (last : Option Refill) : Prop :=
  match controller.bucketOf group with
  | none => last = none ∨ controller.Full
  | some bucket =>
    last = some ⟨bucket.lastRefillMonotonicMs, bucket.burstBytes⟩ ∧
      bucket.initialized = true ∧ bucket.tokens.toNat ≤ bucket.burstBytes.toNat

theorem tracks_none (habsent : controller.bucketOf group = none) :
    Tracks group controller last ↔ last = none ∨ controller.Full := by
  unfold Tracks
  rw [habsent]

theorem tracks_some (hfound : controller.bucketOf group = some bucket) :
    Tracks group controller last ↔
      last = some ⟨bucket.lastRefillMonotonicMs, bucket.burstBytes⟩ ∧
        bucket.initialized = true ∧ bucket.tokens.toNat ≤ bucket.burstBytes.toNat := by
  unfold Tracks
  rw [hfound]

/-- What a tracked bucket goes through in one call. -/
theorem Tracks.change (h : Tracks group controller last) (hdraws : call.Draws group) :
    AdmitChange group controller call (controller.answerTo call) (controller.admitStep call) := by
  refine admit_change hdraws fun bucket hfound => ?_
  exact ((tracks_some hfound).mp h).2.1

/-- The ledger of refills keeps up with the bucket. -/
theorem Tracks.step (h : Tracks group controller last) (hdraws : call.Draws group) :
    Tracks group (controller.admitStep call) (Refill.accept last call) := by
  have hchange := h.change hdraws
  generalize controller.answerTo call = outcome at hchange
  generalize controller.admitStep call = after at hchange ⊢
  have hbytes := UInt64.le_iff_toNat_le.mp call.bytes_le_depth
  cases hchange with
  | full habsent hfull => exact (tracks_none habsent).mpr (.inr hfull)
  | opened habsent hroom hafter =>
    obtain rfl : last = none := ((tracks_none habsent).mp h).resolve_right hroom
    refine (tracks_some hafter).mpr ⟨rfl, rfl, ?_⟩
    show (call.depth - call.bytes).toNat ≤ call.depth.toNat
    rw [UInt64.toNat_sub_of_le _ _ call.bytes_le_depth]
    omega
  | regressed hfound hclock hafter =>
    obtain ⟨rfl, hset, hstored⟩ := (tracks_some hfound).mp h
    exact (tracks_some hafter).mpr ⟨if_pos hclock, hset, hstored⟩
  | granted hfound hclock hdepth hearned htaken hafter =>
    obtain ⟨rfl, -, -⟩ := (tracks_some hfound).mp h
    refine (tracks_some hafter).mpr ⟨if_neg (UInt64.not_lt.mpr hclock), rfl, ?_⟩
    show (_ - call.bytes).toNat ≤ call.depth.toNat
    rw [UInt64.toNat_sub_of_le _ _ htaken]
    omega
  | limited hfound hclock _ hdepth _ hafter =>
    obtain ⟨rfl, -, -⟩ := (tracks_some hfound).mp h
    exact (tracks_some hafter).mpr ⟨if_neg (UInt64.not_lt.mpr hclock), rfl, hdepth⟩

/-- The tokens of the bucket. -/
def balanceOf (group : FlowGroupId) (controller : AdmissionController) : Nat :=
  ((controller.bucketOf group).map fun bucket => bucket.tokens.toNat).getD 0

/-- No call releases more than the tokens, the opening and what it earned. -/
theorem Tracks.spent (h : Tracks group controller last) (hdraws : call.Draws group) :
    controller.released call + balanceOf group (controller.admitStep call) ≤
      balanceOf group controller + (Refill.opening last call + Refill.earned last call) := by
  have hchange := h.change hdraws
  unfold released
  generalize controller.answerTo call = outcome at hchange ⊢
  generalize controller.admitStep call = after at hchange ⊢
  have hbytes := UInt64.le_iff_toNat_le.mp call.bytes_le_depth
  cases hchange with
  | full habsent hfull =>
    rw [if_neg (by simp), balanceOf, habsent]
    exact Nat.zero_le _
  | opened habsent hroom hafter =>
    obtain rfl : last = none := ((tracks_none habsent).mp h).resolve_right hroom
    rw [if_pos rfl, balanceOf, balanceOf, habsent, hafter]
    show call.bytes.toNat + (call.depth - call.bytes).toNat ≤ 0 + (call.depth.toNat + 0)
    rw [UInt64.toNat_sub_of_le _ _ call.bytes_le_depth]
    omega
  | regressed hfound hclock hafter =>
    rw [if_neg (by simp), balanceOf, balanceOf, hfound, hafter]
    omega
  | granted hfound hclock hdepth hearned htaken hafter =>
    obtain ⟨rfl, -, -⟩ := (tracks_some hfound).mp h
    rw [if_pos rfl, balanceOf, balanceOf, hfound, hafter]
    simp only [Option.map_some, Option.getD_some, Refill.opening, Refill.earned, refilledBucket]
    rw [UInt64.toNat_sub_of_le _ _ htaken]
    have hle := UInt64.le_iff_toNat_le.mp htaken
    omega
  | limited hfound hclock hrefill hdepth hearned hafter =>
    obtain ⟨rfl, -, -⟩ := (tracks_some hfound).mp h
    rw [if_neg (by simp), balanceOf, balanceOf, hfound, hafter]
    simp only [Option.map_some, Option.getD_some, Refill.opening, Refill.earned, refilledBucket]
    omega

end Calls

section Runs

/-- After the first call nothing more is brought along. -/
theorem tally_accept_some (last : Refill) (calls : List AdmissionCall) :
    tally Refill.accept (fun last call => Refill.opening last call + Refill.earned last call)
        (some last) calls =
      tally Refill.accept Refill.earned (some last) calls := by
  induction calls generalizing last with
  | nil => rfl
  | cons call calls ih =>
    rw [tally_cons, tally_cons]
    have hsome : ∃ next, Refill.accept (some last) call = some next := by
      simp only [Refill.accept]
      split <;> exact ⟨_, rfl⟩
    obtain ⟨next, hnext⟩ := hsome
    rw [hnext, ih]
    simp [Refill.opening]

/-- The first depth, or nothing when there is no call. -/
def firstDepth (calls : List AdmissionCall) : Nat :=
  (calls.head?.map fun call => call.depth.toNat).getD 0

theorem tally_accept_none (calls : List AdmissionCall) :
    tally Refill.accept (fun last call => Refill.opening last call + Refill.earned last call)
        none calls =
      firstDepth calls + tally Refill.accept Refill.earned none calls := by
  cases calls with
  | nil => rfl
  | cons =>
    rw [tally_cons, tally_cons, Refill.accept, tally_accept_some]
    simp [Refill.opening, Refill.earned, firstDepth]

end Runs

/--
What holds after a sequence of calls: the volume released so far is covered by
the first depth and by what the refills earned, the stored tokens are within
the depth of the last accepted refill, a further call that is refused leaves
the bucket as the refill alone does, and one with a regressed clock leaves it
alone.
-/
structure BucketSafe
    (group : FlowGroupId) (controller : AdmissionController) (calls : List AdmissionCall) :
    Prop where
  released :
    tally AdmissionController.admitStep AdmissionController.released controller calls ≤
      firstDepth calls + tally Refill.accept Refill.earned none calls
  stored :
    ∀ bucket, (run AdmissionController.admitStep controller calls).bucketOf group = some bucket →
      ∃ last, run Refill.accept none calls = some last ∧ bucket.tokens.toNat ≤ last.depth.toNat
  refused :
    ∀ call : AdmissionCall, call.Draws group →
      (run AdmissionController.admitStep controller calls).answerTo call ≠ .granted →
        ((run AdmissionController.admitStep controller calls).admitStep call).bucketOf group =
          ((run AdmissionController.admitStep controller calls).bucketOf group).map fun bucket =>
            (TokenBucket.refill bucket call.nowMonotonicMs call.rate call.depth).2
  regressed :
    ∀ (call : AdmissionCall) (last : Refill), call.Draws group →
      run Refill.accept none calls = some last → call.nowMonotonicMs < last.atMs →
        ((run AdmissionController.admitStep controller calls).admitStep call).bucketOf group =
          (run AdmissionController.admitStep controller calls).bucketOf group

/-- Calls that draw on the bucket of one group never overdraw it, from its first use on. -/
theorem admit_bucketSafe {group : FlowGroupId} {controller : AdmissionController}
    {calls : List AdmissionCall} (hfresh : controller.bucketOf group = none)
    (hcalls : ∀ call ∈ calls, call.Draws group) : BucketSafe group controller calls := by
  have hinit : Tracks group controller none := (tracks_none hfresh).mpr (.inl rfl)
  have hstep : ∀ (s : AdmissionController) (t : Option Refill) (a : AdmissionCall),
      a.Draws group → Tracks group s t → Tracks group (s.admitStep a) (Refill.accept t a) :=
    fun _ _ _ hdraws h => h.step hdraws
  have htracks := run_related hstep hcalls hinit
  have hspent : tally admitStep released controller calls +
        balanceOf group (run admitStep controller calls) ≤
      balanceOf group controller + tally Refill.accept
        (fun last call => Refill.opening last call + Refill.earned last call) none calls :=
    tally_add_balance_le hstep (fun _ _ _ hdraws h => h.spent hdraws) hcalls hinit
  have hempty : balanceOf group controller = 0 := by
    rw [balanceOf, hfresh]
    rfl
  rw [tally_accept_none, hempty] at hspent
  refine ⟨?_, ?_, ?_, ?_⟩
  · omega
  · intro bucket hfound
    obtain ⟨hlast, -, hstored⟩ := (tracks_some hfound).mp htracks
    exact ⟨_, hlast, hstored⟩
  · intro call hdraws hrefused
    have hchange := htracks.change hdraws
    generalize (run admitStep controller calls).answerTo call = outcome at hchange hrefused
    generalize (run admitStep controller calls).admitStep call = after at hchange ⊢
    cases hchange with
    | full habsent hfull => rw [habsent]; rfl
    | opened => exact absurd rfl hrefused
    | regressed hfound hclock hafter =>
      have hset := ((tracks_some hfound).mp htracks).2.1
      rw [hfound, hafter, Option.map_some, refill_regressed hdraws.finiteRate hset hclock]
    | granted => exact absurd rfl hrefused
    | limited hfound _ hrefill _ _ hafter =>
      rw [hfound, hafter, Option.map_some, hrefill]
  · intro call last hdraws hlast hclock
    have hchange := htracks.change hdraws
    generalize (run admitStep controller calls).answerTo call = outcome at hchange
    generalize (run admitStep controller calls).admitStep call = after at hchange ⊢
    cases hchange with
    | full => rfl
    | opened habsent hroom hafter =>
      have hnone := ((tracks_none habsent).mp htracks).resolve_right hroom
      rw [hnone] at hlast
      cases hlast
    | regressed hfound hclock hafter => rw [hfound, hafter]
    | granted hfound hforward | limited hfound hforward =>
      obtain ⟨hsame, -, -⟩ := (tracks_some hfound).mp htracks
      rw [hlast] at hsame
      cases hsame
      exact absurd hclock (UInt64.not_lt.mpr hforward)

namespace TwoReleases

/-- A granted decision for two bytes at two bytes a second, under the given pacing mode. -/
def decision (mode : PacingMode) : DecisionRecord where
  outcome := .admitted
  flowGroup := ⟨9, 0⟩
  flowGroupConstructed := true
  group := { totalLogicalBytes := 2 }
  pacing := { mode := mode, admittedBandwidthBps := 2, burstBytes := 1 }

/-- Two calls at the same instant. -/
def calls (mode : PacingMode) : List AdmissionCall :=
  [⟨decision mode, 5⟩, ⟨decision mode, 5⟩]

theorem draws_tokenBucket : ∀ call ∈ calls .tokenBucket, call.Draws ⟨9, 0⟩ := by
  intro call hcall
  obtain rfl : call = ⟨decision .tokenBucket, 5⟩ := by
    simpa [calls] using hcall
  exact
    { group := rfl
      grants := rfl
      constructed := rfl
      paced := by decide
      finite := by decide
      nonzero := by decide }

end TwoReleases

open TwoReleases in
/-- Through the bucket the second of the two calls has to wait. -/
theorem twoReleases_bucketSafe :
    ({} : AdmissionController).bucketOf ⟨9, 0⟩ = none ∧
      (∀ call ∈ calls .tokenBucket, call.Draws ⟨9, 0⟩) ∧
      BucketSafe ⟨9, 0⟩ {} (calls .tokenBucket) := by
  have hfresh : ({} : AdmissionController).bucketOf ⟨9, 0⟩ = none := by
    rfl
  exact ⟨hfresh, draws_tokenBucket, admit_bucketSafe hfresh draws_tokenBucket⟩

open TwoReleases in
/-- A mode that releases immediately releases both, twice the depth at one instant. -/
theorem immediate_releases_both :
    (∀ call ∈ calls .immediate, call.rate ≠ unlimitedRate ∧ call.rate ≠ 0) ∧
      tally AdmissionController.admitStep AdmissionController.released {} (calls .immediate) = 4 ∧
      firstDepth (calls .immediate) = 2 ∧
      tally Refill.accept Refill.earned none (calls .immediate) = 0 := by
  decide

end TrafficFabric
