import TrafficFabric.Binding
import TrafficFabric.Records

/-!
# Which callers may change the coordinator

Ten operations take the context of a caller and change the catalog or the
authority.  The evidence operations and the policy installation verify that
the caller is a current session on the current epoch.  Registration asks for
an open session only, opening an attempt asks for a running service only, and
ending a collective, publishing and beating ask for nothing of the caller.

For a caller that is not current, a call is refused exactly when it fails the
checks of its own operation.
-/

namespace TrafficFabric

open Lib CoordinatorService

/-- The operations that act for a caller and change the catalog or the authority. -/
inductive CallerOp where
  | registerCollective (definition : CollectiveDefinition)
  | beginAttempt (id : CollectiveId) (generation : CollectiveGeneration)
      (attempt : CollectiveAttemptId) (transferBytes : UInt64)
  | cancelCollective (id : CollectiveId) (generation : CollectiveGeneration)
      (attempt : CollectiveAttemptId) (reasons : ReasonChain)
  | retireCollective (id : CollectiveId) (generation : CollectiveGeneration)
      (attempt : CollectiveAttemptId) (reasons : ReasonChain)
  | publishParticipant (participant : ParticipantId) (incarnation : BootIncarnation)
      (node : NodeId) (state : ParticipantState)
  | heartbeat (participant : ParticipantId) (incarnation : BootIncarnation)
  | ingestCapacity (evidence : CapacityEvidence) (minted : Minted) (reasons : ReasonChain)
  | ingestCongestion (evidence : CongestionEvidence) (minted : Minted) (reasons : ReasonChain)
  | ingestTopology (evidence : TopologyEvidence) (minted : Minted) (reasons : ReasonChain)
  | installPolicy (policy : TrafficPolicy) (minted : Minted) (reasons : ReasonChain)

namespace CallerOp

/-- The call under the context of its caller. -/
def op (context : ServiceRequestContext) : CallerOp → ServiceOp
  | .registerCollective definition => .registerCollective context definition
  | .beginAttempt id generation attempt bytes => .beginAttempt context id generation attempt bytes
  | .cancelCollective id generation attempt reasons =>
    .cancelCollective context id generation attempt reasons
  | .retireCollective id generation attempt reasons =>
    .retireCollective context id generation attempt reasons
  | .publishParticipant p i node state => .publishParticipant context p i node state
  | .heartbeat p i => .heartbeat context p i
  | .ingestCapacity evidence minted reasons => .ingestCapacity context evidence minted reasons
  | .ingestCongestion evidence minted reasons => .ingestCongestion context evidence minted reasons
  | .ingestTopology evidence minted reasons => .ingestTopology context evidence minted reasons
  | .installPolicy policy minted reasons => .installPolicy context policy minted reasons

/-- What the call returns to its caller. -/
def status (s : CoordinatorService) (context : ServiceRequestContext) : CallerOp → Status
  | .registerCollective definition => (s.registerCollective context definition).1
  | .beginAttempt id generation attempt bytes =>
    (s.beginAttempt context id generation attempt bytes).1
  | .cancelCollective id generation attempt reasons =>
    (s.cancelCollective context id generation attempt reasons).1
  | .retireCollective id generation attempt reasons =>
    (s.retireCollective context id generation attempt reasons).1
  | .publishParticipant p i node state => (s.publishParticipant context p i node state).1
  | .heartbeat p i => (s.heartbeat context p i).1
  | .ingestCapacity evidence minted reasons =>
    (s.ingestCapacity context evidence minted reasons).1.status
  | .ingestCongestion evidence minted reasons =>
    (s.ingestCongestion context evidence minted reasons).1.status
  | .ingestTopology evidence minted reasons =>
    (s.ingestTopology context evidence minted reasons).1.status
  | .installPolicy policy minted reasons => (s.installPolicy context policy minted reasons).1.status

end CallerOp

/-- The call returns an error and leaves the catalog and the authority alone. -/
structure Refused
    (s : CoordinatorService) (context : ServiceRequestContext) (call : CallerOp) : Prop where
  error : (call.status s context).isOk = false
  catalog : (serviceStep s (call.op context)).catalog = s.catalog
  authority : (serviceStep s (call.op context)).authority = s.authority

/--
The caller is an open session under its own incarnation, on the current epoch
where it names one, and the service is running.
-/
def IsCurrent (s : CoordinatorService) (context : ServiceRequestContext) : Prop :=
  s.running = true ∧
    (∃ binding, s.sessions.find context.session = some binding ∧
      binding.incarnation = context.incarnation) ∧
    (context.epoch = Identity.none ∨ context.epoch = s.authority.epoch)

section Calls

variable {s : CoordinatorService} {context : ServiceRequestContext}

/-- A call that succeeds exactly on a condition, and otherwise changes nothing. -/
theorem refused_iff_of_isOk_iff {call : CallerOp} {Passes : Prop}
    (hisOk : (call.status s context).isOk = true ↔ Passes)
    (hcatalog : ¬ Passes → (serviceStep s (call.op context)).catalog = s.catalog)
    (hauthority : ¬ Passes → (serviceStep s (call.op context)).authority = s.authority) :
    Refused s context call ↔ ¬ Passes := by
  constructor
  · intro h hpasses
    have herror := h.error
    rw [hisOk.mpr hpasses] at herror
    cases herror
  · intro hnot
    refine ⟨?_, hcatalog hnot, hauthority hnot⟩
    exact Bool.eq_false_iff.mpr (fun hok => hnot (hisOk.mp hok))

/-- Under an open session the answer to a registration is the one of the catalog. -/
theorem registerCollective_isOk_eq (hrunning : s.running = true)
    (hopen : s.sessions.find context.session ≠ none) (definition : CollectiveDefinition) :
    (s.registerCollective context definition).1.isOk =
      !(s.catalog.registerDefinition definition context.nowMonotonicMs).1.result.isRejection := by
  simp only [registerCollective, hrunning, Bool.true_eq_false, if_false, hopen]
  cases (s.catalog.registerDefinition definition context.nowMonotonicMs).1.result <;> rfl

theorem registerCollective_isOk_iff (hsessions : SessionsCoherent s)
    (definition : CollectiveDefinition) :
    (s.registerCollective context definition).1.isOk = true ↔
      s.sessions.find context.session ≠ none ∧ Registers s.catalog definition := by
  by_cases hopen : s.sessions.find context.session = none
  · cases hrunning : s.running <;> simp [registerCollective, hrunning, hopen]
  · rw [registerCollective_isOk_eq (hsessions.running_of_open hopen) hopen]
    rcases registerDefinition_cases s.catalog definition context.nowMonotonicMs with
      ⟨hrejected, _, hnot⟩ | ⟨haccepted, hregisters⟩
    · simp [hrejected, hnot]
    · simp [haccepted, hregisters, hopen]

theorem registerCollective_refused_iff (hsessions : SessionsCoherent s)
    (definition : CollectiveDefinition) :
    Refused s context (.registerCollective definition) ↔
      ¬ (s.sessions.find context.session ≠ none ∧ Registers s.catalog definition) := by
  refine refused_iff_of_isOk_iff (registerCollective_isOk_iff hsessions definition) ?_ ?_
  · intro hnot
    refine (serviceStep_effect s (.registerCollective context definition)).catalog.trans ?_
    simp only [catalogTrace]
    split
    · rename_i hopen
      rcases registerDefinition_cases s.catalog definition context.nowMonotonicMs with
        ⟨_, hsame, _⟩ | ⟨_, hregisters⟩
      · exact hsame
      · exact absurd ⟨hopen.2, hregisters⟩ hnot
    · rfl
  · intro _
    exact (serviceStep_sameAccess s rfl).authority

theorem beginAttempt_refused_iff (id : CollectiveId) (generation : CollectiveGeneration)
    (attempt : CollectiveAttemptId) (bytes : UInt64) :
    Refused s context (.beginAttempt id generation attempt bytes) ↔
      ¬ OpensAttempt s id generation attempt := by
  have hresult := beginAttempt_result s context id generation attempt bytes
  refine refused_iff_of_isOk_iff ?_ ?_ fun _ => (serviceStep_sameAccess s rfl).authority
  · change (s.beginAttempt context id generation attempt bytes).1.isOk = true ↔ _
    generalize s.beginAttempt context id generation attempt bytes = result at hresult
    cases hresult with
    | refused _ closed failed _ => exact iff_of_false (by simp [failed]) closed
    | opened _ opens _ => exact iff_of_true rfl opens
  · intro hnot
    change (s.beginAttempt context id generation attempt bytes).2.2.catalog = _
    generalize s.beginAttempt context id generation attempt bytes = result at hresult
    cases hresult with
    | refused _ _ _ refuses => exact refuses.catalog
    | opened _ opens _ => exact absurd opens hnot

/-- Ending a collective fails, and leaves the catalog, exactly where it cannot be ended. -/
theorem endCollective_refused {texts : CoordinatorService.EndingTexts}
    (hcodes : ∀ state, texts.terminalCode state ≠ .ok) (id : CollectiveId)
    (generation : CollectiveGeneration) (attempt : CollectiveAttemptId) (reasons : ReasonChain) :
    ((s.endCollective texts context id generation attempt reasons).1.isOk = true ↔
        EndsCollective s id generation attempt) ∧
      (¬ EndsCollective s id generation attempt →
        (s.endCollective texts context id generation attempt reasons).2.2.2.catalog =
          s.catalog) := by
  have hresult := endCollective_result s context id generation attempt hcodes reasons
  generalize s.endCollective texts context id generation attempt reasons = result at hresult
  cases hresult with
  | refused closed failed refuses =>
    exact ⟨iff_of_false (by simp [failed]) closed, fun _ => refuses.catalog⟩
  | ended ends => exact ⟨iff_of_true rfl ends, fun hnot => absurd ends hnot⟩

theorem cancelCollective_refused_iff (id : CollectiveId) (generation : CollectiveGeneration)
    (attempt : CollectiveAttemptId) (reasons : ReasonChain) :
    Refused s context (.cancelCollective id generation attempt reasons) ↔
      ¬ EndsCollective s id generation attempt := by
  obtain ⟨hisOk, hcatalog⟩ :=
    endCollective_refused cancelTexts_terminalCode id generation attempt reasons
  exact refused_iff_of_isOk_iff hisOk hcatalog fun _ => (serviceStep_sameAccess s rfl).authority

theorem retireCollective_refused_iff (id : CollectiveId) (generation : CollectiveGeneration)
    (attempt : CollectiveAttemptId) (reasons : ReasonChain) :
    Refused s context (.retireCollective id generation attempt reasons) ↔
      ¬ EndsCollective s id generation attempt := by
  have hcodes : ∀ state, retireTexts.terminalCode state ≠ .ok := nofun
  obtain ⟨hisOk, hcatalog⟩ := endCollective_refused hcodes id generation attempt reasons
  exact refused_iff_of_isOk_iff hisOk hcatalog fun _ => (serviceStep_sameAccess s rfl).authority

/--
The publication is not refused: its identities are set, the incarnation rule
allows it unless it states nothing, and a live one finds room.
-/
def Publishes
    (s : AuthorityState) (p : ParticipantId) (i : BootIncarnation) (state : ParticipantState) :
    Prop :=
  p ≠ Identity.none ∧ i ≠ Identity.none ∧
    (state = .unspecified ∨ Supersedes s { participant := p, incarnation := i }) ∧
    (state = .live → HasRoom s p)

theorem publishParticipant_isOk_iff (hcoherent : PeersCoherent s.authority) (p : ParticipantId)
    (i : BootIncarnation) (node : NodeId) (state : ParticipantState) :
    (s.publishParticipant context p i node state).1.isOk = true ↔
      Publishes s.authority p i state := by
  by_cases hidentities : (p.isNone || i.isNone) = true
  · have hunset : p = Identity.none ∨ i = Identity.none := by simpa using hidentities
    simp only [publishParticipant, hidentities, if_true]
    refine ⟨fun h => by simp at h, ?_⟩
    rintro ⟨hset, hincarnation, _⟩
    exact absurd hunset (by simp [hset, hincarnation])
  · obtain ⟨hset, hincarnation⟩ := identities_set hidentities
    let liveness := s.publication context p i node state
    have hfenced : (s.authority.publishLiveness liveness).1 = .fencedStaleIncarnation ↔
        state ≠ .unspecified ∧ ¬ Supersedes s.authority { participant := p, incarnation := i } :=
      publishLiveness_fenced_iff hcoherent hset hincarnation
    simp only [publishParticipant, hidentities, Bool.false_eq_true, if_false]
    split
    · rename_i hresult
      obtain ⟨hstated, hrefused⟩ := hfenced.mp hresult
      simp [Publishes, hstated, hrefused]
    · rename_i hresult
      have hallowed := mt hfenced.mpr hresult
      rw [not_and_or, not_not, not_not] at hallowed
      split
      · rename_i hidle
        have hnotLive : state ≠ .live := by
          rintro rfl
          simp [participantStateHoldsAuthority] at hidle
        simp [Publishes, hset, hincarnation, hallowed, hnotLive]
      · rename_i hholds
        have hlive : state = .live := by simpa [participantStateHoldsAuthority] using hholds
        have hsupersedes := hallowed.resolve_left (by simp [hlive])
        split
        · rename_i hcapacity
          refine ⟨fun h => by simp at h, fun h => ?_⟩
          have haccepted := (publishLiveness_accepted_iff hcoherent liveness).mpr
            ⟨hset, hincarnation, by simp [liveness, publication, hlive], hsupersedes, h.2.2.2 hlive⟩
          rw [hcapacity] at haccepted
          cases haccepted
        · rename_i hroom
          refine ⟨fun _ => ⟨hset, hincarnation, .inr hsupersedes, fun _ => ?_⟩, fun _ => rfl⟩
          by_contra hfull
          exact hroom (publishLiveness_of_full hcoherent hset hincarnation
            (by simp [publication, hlive]) hfull)

theorem publishParticipant_refused_iff (hcoherent : PeersCoherent s.authority) (p : ParticipantId)
    (i : BootIncarnation) (node : NodeId) (state : ParticipantState) :
    Refused s context (.publishParticipant p i node state) ↔ ¬ Publishes s.authority p i state := by
  refine refused_iff_of_isOk_iff (publishParticipant_isOk_iff hcoherent p i node state) ?_ ?_
  · intro _
    exact (serviceStep_effect s (.publishParticipant context p i node state)).catalog
  · intro hnot
    refine (serviceStep_effect s (.publishParticipant context p i node state)).authority.trans ?_
    simp only [authorityTrace]
    split
    · rfl
    · rcases publishLiveness_cases s.authority (s.publication context p i node state) with
        ⟨_, hsame⟩ | ⟨haccepted, _⟩
      · exact hsame
      · obtain ⟨hset, hincarnation, _, hallowed, hroom⟩ :=
          (publishLiveness_accepted_iff hcoherent _).mp haccepted
        exact absurd ⟨hset, hincarnation, .inr hallowed, fun _ => hroom⟩ hnot

theorem heartbeat_isOk_iff (hcoherent : PeersCoherent s.authority) (p : ParticipantId)
    (i : BootIncarnation) : (s.heartbeat context p i).1.isOk = true ↔ Accepts s.authority p i := by
  rw [Accepts, ← heartbeat_accepted_iff hcoherent p i context.nowMonotonicMs
    s.config.participantTtlMs]
  unfold heartbeat
  split
  · rename_i hunset
    simp [AuthorityState.heartbeat, hunset]
  · simp only
    split
    · rename_i haccepted
      simp [haccepted]
    · rename_i hrefused
      simp [hrefused]

theorem heartbeat_refused_iff (hcoherent : PeersCoherent s.authority) (p : ParticipantId)
    (i : BootIncarnation) : Refused s context (.heartbeat p i) ↔ ¬ Accepts s.authority p i := by
  refine refused_iff_of_isOk_iff (heartbeat_isOk_iff hcoherent p i) ?_ ?_
  · intro _
    exact serviceStep_simulates_catalog s (.heartbeat context p i)
  · intro hnot
    refine (serviceStep_effect s (.heartbeat context p i)).authority.trans ?_
    simp only [authorityTrace]
    split
    · rfl
    · rcases heartbeat_cases s.authority p i context.nowMonotonicMs s.config.participantTtlMs with
        ⟨_, hsame⟩ | ⟨haccepted, _⟩
      · exact hsame
      · exact absurd ((heartbeat_accepted_iff hcoherent p i _ _).mp haccepted) hnot

/-- The check of the evidence operations passes exactly the current callers. -/
theorem checkContext_isOk_iff (hsessions : SessionsCoherent s) (reasons : ReasonChain) :
    (s.checkContext context reasons).1.isOk = true ↔ IsCurrent s context := by
  unfold checkContext IsCurrent
  split
  · rename_i hunknown
    simp [hunknown]
  · rename_i binding hbinding
    have hopen : s.sessions.find context.session ≠ none := by simp [hbinding]
    have hrunning := hsessions.running_of_open hopen
    have hincarnation := (hsessions.named _ _ hbinding).2.2
    split
    · rename_i hmismatch
      refine ⟨fun h => by simp at h, ?_⟩
      rintro ⟨_, ⟨found, hfound, hsame⟩, _⟩
      rw [hbinding] at hfound
      cases hfound
      rcases hmismatch with hunset | hdiffers
      · rw [Identity.isNone_eq_true_iff, ← hsame] at hunset
        exact absurd hunset hincarnation
      · exact absurd hsame hdiffers
    · rename_i hmatch
      rw [not_or, not_not] at hmatch
      split
      · rename_i hstale
        refine ⟨fun h => by simp at h, ?_⟩
        rintro ⟨_, _, hunset | hcurrent⟩
        · exact absurd hunset (by simpa using hstale.1)
        · exact absurd hcurrent hstale.2
      · rename_i hepoch
        refine ⟨fun _ => ⟨hrunning, ⟨binding, hbinding, hmatch.2⟩, ?_⟩, fun _ => rfl⟩
        by_cases hunset : context.epoch = Identity.none
        · exact .inl hunset
        · exact .inr (by simpa [hunset] using hepoch)

/-- The evidence operations and the policy installation refuse every caller that is not current. -/
theorem verified_refused (hsessions : SessionsCoherent s) (hcaller : ¬ IsCurrent s context) :
    (∀ evidence minted reasons, Refused s context (.ingestCapacity evidence minted reasons)) ∧
    (∀ evidence minted reasons, Refused s context (.ingestCongestion evidence minted reasons)) ∧
    (∀ evidence minted reasons, Refused s context (.ingestTopology evidence minted reasons)) ∧
    (∀ policy minted reasons, Refused s context (.installPolicy policy minted reasons)) := by
  have hfails : ∀ reasons, (s.checkContext context reasons).1.isOk = false := by
    intro reasons
    rw [← Bool.not_eq_true, checkContext_isOk_iff hsessions]
    exact hcaller
  refine ⟨?_, ?_, ?_, ?_⟩
  · intro evidence minted reasons
    refine ⟨?_, ?_, ?_⟩ <;> simp [CallerOp.status, CallerOp.op, serviceStep, ingestCapacity, hfails]
  · intro evidence minted reasons
    refine ⟨?_, ?_, ?_⟩ <;>
      simp [CallerOp.status, CallerOp.op, serviceStep, ingestCongestion, hfails]
  · intro evidence minted reasons
    refine ⟨?_, ?_, ?_⟩ <;> simp [CallerOp.status, CallerOp.op, serviceStep, ingestTopology, hfails]
  · intro policy minted reasons
    refine ⟨?_, ?_, ?_⟩ <;> simp [CallerOp.status, CallerOp.op, serviceStep, installPolicy, hfails]

end Calls

/--
What a call of a caller that is not current must pass to be carried out.  The
operations that verify their caller carry out none.
-/
def CallerOp.PassesOwnChecks (s : CoordinatorService) (context : ServiceRequestContext) :
    CallerOp → Prop
  | .registerCollective definition =>
    s.sessions.find context.session ≠ none ∧ Registers s.catalog definition
  | .beginAttempt id generation attempt _ => OpensAttempt s id generation attempt
  | .cancelCollective id generation attempt _ => EndsCollective s id generation attempt
  | .retireCollective id generation attempt _ => EndsCollective s id generation attempt
  | .publishParticipant p i _ state => Publishes s.authority p i state
  | .heartbeat p i => Accepts s.authority p i
  | .ingestCapacity _ _ _ => False
  | .ingestCongestion _ _ _ => False
  | .ingestTopology _ _ _ => False
  | .installPolicy _ _ _ => False

/--
A caller that is not a current session is refused, with nothing changed,
exactly when its call fails the checks of its own operation.
-/
theorem foreign_caller_refused_iff {s : CoordinatorService} {context : ServiceRequestContext}
    (hs : ServiceReachable s) (hcaller : ¬ IsCurrent s context) (call : CallerOp) :
    Refused s context call ↔ ¬ call.PassesOwnChecks s context := by
  have hcoherent := reachable_peersCoherent hs.authority
  have hsessions := hs.sessionsCoherent
  obtain ⟨hcapacity, hcongestion, htopology, hpolicy⟩ := verified_refused hsessions hcaller
  cases call with
  | registerCollective definition => exact registerCollective_refused_iff hsessions definition
  | beginAttempt id generation attempt bytes =>
    exact beginAttempt_refused_iff id generation attempt bytes
  | cancelCollective id generation attempt reasons =>
    exact cancelCollective_refused_iff id generation attempt reasons
  | retireCollective id generation attempt reasons =>
    exact retireCollective_refused_iff id generation attempt reasons
  | publishParticipant p i node state =>
    exact publishParticipant_refused_iff hcoherent p i node state
  | heartbeat p i => exact heartbeat_refused_iff hcoherent p i
  | ingestCapacity evidence minted reasons =>
    exact iff_of_true (hcapacity evidence minted reasons) not_false
  | ingestCongestion evidence minted reasons =>
    exact iff_of_true (hcongestion evidence minted reasons) not_false
  | ingestTopology evidence minted reasons =>
    exact iff_of_true (htopology evidence minted reasons) not_false
  | installPolicy policy minted reasons =>
    exact iff_of_true (hpolicy policy minted reasons) not_false

namespace TwoMembers

/-- A request under session 99, which was never opened. -/
def stranger (now : UInt64) : ServiceRequestContext where
  session := ⟨99, 0⟩
  incarnation := ⟨42, 0⟩
  nowMonotonicMs := now

/-- A request under session 41 with an incarnation it does not own. -/
def impostor (now : UInt64) : ServiceRequestContext where
  session := ⟨41, 0⟩
  incarnation := ⟨98, 0⟩
  nowMonotonicMs := now

theorem stranger_not_current (now : UInt64) : ¬ IsCurrent service (stranger now) := by
  rintro ⟨_, ⟨binding, hbinding, _⟩, _⟩
  have hunknown : service.sessions.find ⟨99, 0⟩ = none := by decide
  rw [stranger, hunknown] at hbinding
  cases hbinding

theorem impostor_not_current (now : UInt64) : ¬ IsCurrent service (impostor now) := by
  rintro ⟨_, ⟨binding, hbinding, hincarnation⟩, _⟩
  have hknown : (service.sessions.find ⟨41, 0⟩).map SessionBinding.incarnation =
      some ⟨42, 0⟩ := by decide
  rw [impostor] at hbinding
  rw [hbinding, Option.map_some, hincarnation] at hknown
  have hforeign : some (⟨98, 0⟩ : Identity) ≠ some ⟨42, 0⟩ := by decide
  exact hforeign hknown

end TwoMembers

open TwoMembers in
/--
A session that was never opened publishes a participant and cancels a
collective, and one with a foreign incarnation registers a collective.
-/
theorem foreign_callers_change_coordinator :
    ServiceReachable service ∧
      ¬ IsCurrent service (stranger 6) ∧ ¬ IsCurrent service (impostor 6) ∧
      (CallerOp.status service (stranger 6)
        (.publishParticipant ⟨3, 0⟩ ⟨13, 0⟩ ⟨21, 0⟩ .live)).isOk = true ∧
      ((serviceStep service (.publishParticipant (stranger 6) ⟨3, 0⟩ ⟨13, 0⟩ ⟨21, 0⟩
        .live)).authority.peers.find ⟨3, 0⟩).isSome = true ∧
      service.authority.peers.find ⟨3, 0⟩ = none ∧
      (CallerOp.status service (stranger 6)
        (.cancelCollective ⟨31, 0⟩ ⟨32, 0⟩ ⟨33, 0⟩ [])).isOk = true ∧
      ((serviceStep service (.cancelCollective (stranger 6) ⟨31, 0⟩ ⟨32, 0⟩ ⟨33, 0⟩
        [])).catalog.find ⟨31, 0⟩).map CollectiveRecord.state = some .cancelled ∧
      (CallerOp.status service (impostor 6)
        (.registerCollective { definition with id := ⟨35, 0⟩ })).isOk = true ∧
      ((serviceStep service (.registerCollective (impostor 6)
        { definition with id := ⟨35, 0⟩ })).catalog.find ⟨35, 0⟩).isSome = true := by
  refine ⟨service_reachable, stranger_not_current 6, impostor_not_current 6, ?_, ?_, ?_, ?_, ?_,
    ?_, ?_⟩ <;> decide

open TwoMembers in
/-- The stranger is refused evidence, and the retirement of a collective that is not registered. -/
theorem foreign_caller_refused_stranger :
    Refused service (stranger 6) (.ingestCapacity {} (minted 60 (by decide)) []) ∧
      Refused service (stranger 6) (.retireCollective ⟨36, 0⟩ ⟨32, 0⟩ ⟨33, 0⟩ []) := by
  have hunknown : service.catalog.find ⟨36, 0⟩ = none := by decide
  have hends : ¬ EndsCollective service ⟨36, 0⟩ ⟨32, 0⟩ ⟨33, 0⟩ := by
    rintro ⟨record, hrecord, _⟩
    rw [hunknown] at hrecord
    cases hrecord
  refine ⟨?_, ?_⟩
  · exact (foreign_caller_refused_iff service_reachable (stranger_not_current 6) _).mpr not_false
  · exact (foreign_caller_refused_iff service_reachable (stranger_not_current 6) _).mpr hends

end TrafficFabric
