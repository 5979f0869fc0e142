import TrafficFabric.AuthorityCoherence
import TrafficFabric.GrantSoundness
import TrafficFabric.Persistence
import TrafficFabric.Records

/-!
# Restoring a snapshot file

The service loads the file, restores the authority and then loads the catalog.
The authority keeps its epoch, and it is restored before the catalog has looked
at the records: a batch that the catalog refuses leaves the restored authority
in place.
-/

namespace TrafficFabric

open Lib

namespace CoordinatorService

/-- Restores the service from the file at the path. -/
def restoreFrom
    (service : CoordinatorService) (path : Text) (file : SnapshotFile)
    (nowMonotonicMs : UInt64) : Status × LoadDisposition × CoordinatorService :=
  match SnapshotStore.load path file with
  | .error (.missing, _) =>
    (.error .persistenceOpenFailed (text "no snapshot file exists at the configured path"),
      .missing, service)
  | .error (disposition, diagnostic) =>
    (.error .persistenceCorrupt
      (if diagnostic.isEmpty then text "snapshot rejected" else diagnostic),
      disposition, service)
  | .ok contents =>
    let (status, restored) := service.restore path contents nowMonotonicMs
    (status, if status.isOk then .loaded else .rejectedImpossible, restored)

/--
What starting the coordinator does to the service before the port is opened: a
boot, and the restoration of the snapshot where a path is configured.
-/
def startFrom
    (service : CoordinatorService) (path : Text) (draws : List Minted) (file : SnapshotFile)
    (configuredAt restoredAt reconfiguredAt : UInt64) : Option (Status × CoordinatorService) :=
  (service.start draws).map fun (status, booted) =>
    if status.isOk = false then
      (status, booted)
    else if path = [] then
      (Status.ok, booted)
    else
      let (restored, disposition, service) :=
        (booted.configurePersistence path configuredAt).restoreFrom path file restoredAt
      if restored.isOk = false ∧ disposition ≠ .missing then
        (Status.ok, service.configurePersistence path reconfiguredAt)
      else
        (Status.ok, service)

end CoordinatorService

section Restoring

variable (s : CoordinatorService) (path : Text) (now : UInt64)

/-- Everything a restoration of loaded contents can do. -/
theorem restore_cases (contents : SnapshotContents) :
    ((AuthorityState.validateDurable contents.authority).isOk = false ∧
        (s.restore path contents now).1.isOk = false ∧
        (s.restore path contents now).2 = s) ∨
      ((AuthorityState.validateDurable contents.authority).isOk = true ∧
        ¬ Loadable s.catalog.capacity contents.records ∧
        (s.restore path contents now).1.isOk = false ∧
        (s.restore path contents now).2 =
          { s with authority := restoredState s.authority contents.authority now }) ∨
      (Loadable s.catalog.capacity contents.records ∧
        (s.restore path contents now).1.isOk = true ∧
        (s.restore path contents now).2.authority =
          restoredState s.authority contents.authority now) := by
  unfold CoordinatorService.restore
  simp only
  rcases restoreDurable_cases s.authority contents.authority now with
    ⟨hinvalid, hrefused, _⟩ | ⟨hvalid, hrestored⟩
  · exact .inl ⟨hinvalid, by simp [hrefused], by simp [hrefused]⟩
  · rw [hrestored]
    cases hload : (s.catalog.load contents.records).1.isOk with
    | false =>
      have hrefused : ¬ Loadable s.catalog.capacity contents.records := by
        simp [← load_isOk_iff, hload]
      exact .inr (.inl ⟨hvalid, hrefused, by simp [hload], by simp⟩)
    | true => exact .inr (.inr ⟨(load_isOk_iff _ _).mp hload, by simp, by simp⟩)

/-- A file that does not load leaves the service. -/
theorem restoreFrom_of_error {file : SnapshotFile} {refusal : LoadDisposition × Text}
    (h : SnapshotStore.load path file = .error refusal) :
    (s.restoreFrom path file now).1.isOk = false ∧ (s.restoreFrom path file now).2.2 = s := by
  unfold CoordinatorService.restoreFrom
  rw [h]
  split <;> simp_all

theorem restoreFrom_of_ok {file : SnapshotFile} {contents : SnapshotContents}
    (h : SnapshotStore.load path file = .ok contents) :
    (s.restoreFrom path file now).1 = (s.restore path contents now).1 ∧
      (s.restoreFrom path file now).2.2 = (s.restore path contents now).2 := by
  unfold CoordinatorService.restoreFrom
  rw [h]
  exact ⟨rfl, rfl⟩

/-- No restoration changes the epoch. -/
theorem restoreFrom_epoch (file : SnapshotFile) :
    (s.restoreFrom path file now).2.2.authority.epoch = s.authority.epoch := by
  cases hload : SnapshotStore.load path file with
  | error refusal => rw [(restoreFrom_of_error s path now hload).2]
  | ok contents =>
    rw [(restoreFrom_of_ok s path now hload).2]
    rcases restore_cases s path now contents with
      ⟨_, _, hsame⟩ | ⟨_, _, _, hauthority⟩ | ⟨_, _, hrestored⟩
    · rw [hsame]
    · rw [hauthority]
      rfl
    · rw [hrestored]
      rfl

end Restoring

section Epochs

/-- The epoch is new: neither the one in force before nor the one of the snapshot. -/
def AdvancesEpoch
    (before after : CoordinatorService) (contents : SnapshotContents) : Prop :=
  after.authority.epoch ≠ before.authority.epoch ∧
    after.authority.epoch ≠ contents.authority.lastEpoch

/--
No restoration that succeeds advances the epoch, neither of a running
coordinator nor within a start.
-/
theorem restore_never_advances_epoch {s : CoordinatorService} {path : Text} {file : SnapshotFile}
    {contents : SnapshotContents} (hload : SnapshotStore.load path file = .ok contents) :
    (∀ now, (s.restoreFrom path file now).1.isOk = true →
      ¬ AdvancesEpoch s (s.restoreFrom path file now).2.2 contents) ∧
    ∀ draws booted configuredAt restoredAt reconfiguredAt,
      s.start draws = some (Status.ok, booted) →
      ((booted.configurePersistence path configuredAt).restoreFrom path file
        restoredAt).1.isOk = true →
      ∃ started,
        s.startFrom path draws file configuredAt restoredAt reconfiguredAt =
          some (Status.ok, started) ∧
        ¬ AdvancesEpoch booted started contents := by
  refine ⟨?_, ?_⟩
  · rintro now _ ⟨hadvanced, _⟩
    exact hadvanced (restoreFrom_epoch s path now file)
  · intro draws booted configuredAt restoredAt reconfiguredAt hstart hrestored
    have hpath : path ≠ [] := by
      rintro rfl
      cases hload
    refine ⟨((booted.configurePersistence path configuredAt).restoreFrom path file
      restoredAt).2.2, ?_, ?_⟩
    · simp only [CoordinatorService.startFrom, hstart, Option.map_some, Status.isOk_ok]
      simp [hpath, hrestored]
    · rintro ⟨hadvanced, _⟩
      exact hadvanced (restoreFrom_epoch _ path restoredAt file)

namespace TwoMembers

/-- The service before any evidence: the collective is registered and its attempt open. -/
def registered : CoordinatorService :=
  run serviceStep (.create {})
    (boot ++
      [ .registerCollective (context 4) definition,
        .beginAttempt (context 5) ⟨31, 0⟩ ⟨32, 0⟩ ⟨33, 0⟩ 0 ])

/-- What a flush at time 6 captures of it. -/
def saved : SnapshotContents :=
  (registered.prepareSave 6).contents

def snapshotPath : Text := [112]

/-- The file with the given contents. -/
def fileOf (contents : SnapshotContents) : SnapshotFile :=
  .whole ((encodeSnapshot contents).toOption.getD [])

set_option maxRecDepth 8000 in
theorem load_saved : SnapshotStore.load snapshotPath (fileOf saved) = .ok saved := by
  decide +kernel

/-- Publishes both members again and ingests a new congestion observation. -/
def revalidation : List ServiceOp :=
  [ .publishParticipant (context 9) ⟨1, 0⟩ ⟨11, 0⟩ ⟨21, 0⟩ .live,
    .publishParticipant (context 9) ⟨2, 0⟩ ⟨12, 0⟩ ⟨21, 0⟩ .live,
    .ingestCongestion (context 9)
      { generation := ⟨8, 0⟩
        topologyGeneration := ⟨6, 0⟩
        capturedMonotonicMs := 9
        validForMs := 2000 }
      congestionDraw [] ]

end TwoMembers

open TwoMembers in
/-- A request bound to the epoch before the restoration is admitted after it. -/
theorem restored_epoch_admitted :
    let restored := (service.restoreFrom snapshotPath (fileOf saved) 8).2.2
    let bound := { request with observedEpoch := service.authority.epoch }
    ServiceReachable service ∧
      (service.restoreFrom snapshotPath (fileOf saved) 8).1.isOk = true ∧
      restored.authority.epoch = service.authority.epoch ∧
      restored.authority.epoch = saved.authority.lastEpoch ∧
      bound.observedEpoch.isSome = true ∧
      ∃ decision,
        ((run serviceStep restored revalidation).planFlowGroup (context 10) bound).2.1 =
          some decision ∧
        decision.outcome = .admitted := by
  intro restored bound
  obtain ⟨hstatus, hrestored⟩ := restoreFrom_of_ok service snapshotPath 8 load_saved
  have hafter : restored = (service.restore snapshotPath saved 8).2 := hrestored
  have houtcome : ((run serviceStep (service.restore snapshotPath saved 8).2
      revalidation).planFlowGroup (context 10) bound).2.1.map DecisionRecord.outcome =
        some .admitted := by
    decide
  rw [hstatus, hafter]
  exact ⟨service_reachable, by decide, by decide, by decide, by decide, by simpa using houtcome⟩

open TwoMembers in
/-- The restoration of the saved file succeeds and keeps the epoch. -/
theorem restore_never_advances_epoch_of_saved :
    (service.restoreFrom snapshotPath (fileOf saved) 8).1.isOk = true ∧
      ¬ AdvancesEpoch service (service.restoreFrom snapshotPath (fileOf saved) 8).2.2 saved := by
  have hrestored : (service.restoreFrom snapshotPath (fileOf saved) 8).1.isOk = true := by
    rw [(restoreFrom_of_ok service snapshotPath 8 load_saved).1]
    decide
  exact ⟨hrestored, (restore_never_advances_epoch load_saved).1 8 hrestored⟩

end Epochs

section Atomicity

/-- What a refused restoration has to leave as it was. -/
structure Untouched (s s' : CoordinatorService) : Prop where
  epoch : s'.authority.epoch = s.authority.epoch
  policyGeneration : s'.authority.policyGeneration = s.authority.policyGeneration
  policy : s'.authority.policy = s.authority.policy
  topologyGeneration : s'.authority.topologyGeneration = s.authority.topologyGeneration
  topology : s'.authority.topology = s.authority.topology
  capacityGeneration : s'.authority.capacityGeneration = s.authority.capacityGeneration
  capacity : s'.authority.capacity = s.authority.capacity
  congestionGeneration : s'.authority.congestionGeneration = s.authority.congestionGeneration
  congestion : s'.authority.congestion = s.authority.congestion
  peers : s'.authority.peers = s.authority.peers
  highestIncarnation : s'.authority.highestIncarnation = s.authority.highestIncarnation
  catalog : s'.catalog = s.catalog
  persistencePath : s'.persistencePath = s.persistencePath
  persistenceDirty : s'.persistenceDirty = s.persistenceDirty

theorem Untouched.refl (s : CoordinatorService) : Untouched s s := by
  constructor <;> rfl

/-- The authority holds what the durable state puts in place, and nothing dynamic. -/
structure AlreadyRestored (s : AuthorityState) (durable : DurableAuthority) : Prop where
  policy : durable.policyGeneration.isSome = true →
    s.policyGeneration = durable.policyGeneration ∧ s.policy = some durable.policy
  topology : durable.topologyGeneration.isSome = true →
    s.topologyGeneration = durable.topologyGeneration ∧ s.topology = some durable.topology
  capacity : s.capacity = none ∧ s.capacityGeneration = {}
  congestion : s.congestion = none ∧ s.congestionGeneration = {}
  peers : s.peers = ∅ ∧ s.highestIncarnation = ∅

/-- The restored authority is the one before exactly when that held it already. -/
theorem untouched_restoredState_iff (s : CoordinatorService) (durable : DurableAuthority)
    (now : UInt64) :
    Untouched s { s with authority := restoredState s.authority durable now } ↔
      AlreadyRestored s.authority durable := by
  constructor
  · intro h
    refine ⟨?_, ?_, ⟨h.capacity.symm, h.capacityGeneration.symm⟩,
      ⟨h.congestion.symm, h.congestionGeneration.symm⟩,
      ⟨h.peers.symm, h.highestIncarnation.symm⟩⟩
    · intro hset
      have hgeneration := h.policyGeneration
      have hpolicy := h.policy
      simp only [restoredState, hset, if_true] at hgeneration hpolicy
      exact ⟨hgeneration.symm, hpolicy.symm⟩
    · intro hset
      have hgeneration := h.topologyGeneration
      have htopology := h.topology
      simp only [restoredState, hset, if_true] at hgeneration htopology
      exact ⟨hgeneration.symm, htopology.symm⟩
  · intro h
    have hpolicy : (restoredState s.authority durable now).policyGeneration =
          s.authority.policyGeneration ∧
        (restoredState s.authority durable now).policy = s.authority.policy := by
      by_cases hset : durable.policyGeneration.isSome = true
      · simp [restoredState, hset, (h.policy hset).1, (h.policy hset).2]
      · simp [restoredState, hset]
    have htopology : (restoredState s.authority durable now).topologyGeneration =
          s.authority.topologyGeneration ∧
        (restoredState s.authority durable now).topology = s.authority.topology := by
      by_cases hset : durable.topologyGeneration.isSome = true
      · simp [restoredState, hset, (h.topology hset).1, (h.topology hset).2]
      · simp [restoredState, hset]
    exact
      { epoch := rfl
        policyGeneration := hpolicy.1
        policy := hpolicy.2
        topologyGeneration := htopology.1
        topology := htopology.2
        capacityGeneration := h.capacity.2.symm
        capacity := h.capacity.1.symm
        congestionGeneration := h.congestion.2.symm
        congestion := h.congestion.1.symm
        peers := h.peers.1.symm
        highestIncarnation := h.peers.2.symm
        catalog := rfl
        persistencePath := rfl
        persistenceDirty := rfl }

/--
Restoring is all or nothing except on one kind of file: one that loads, whose
authority is usable and whose records the catalog refuses, on a service that
does not already hold what the authority part puts in place.
-/
theorem failed_restore_untouched_iff (s : CoordinatorService) (path : Text) (file : SnapshotFile)
    (now : UInt64) :
    ((s.restoreFrom path file now).1.isOk = false →
        Untouched s (s.restoreFrom path file now).2.2) ↔
      ∀ contents, SnapshotStore.load path file = .ok contents →
        (AuthorityState.validateDurable contents.authority).isOk = true →
        Loadable s.catalog.capacity contents.records ∨
          AlreadyRestored s.authority contents.authority := by
  cases hload : SnapshotStore.load path file with
  | error refusal => simp [(restoreFrom_of_error s path now hload).2, Untouched.refl]
  | ok contents =>
    obtain ⟨hstatus, hservice⟩ := restoreFrom_of_ok s path now hload
    rw [hstatus, hservice]
    rcases restore_cases s path now contents with
      ⟨hinvalid, _, hsame⟩ | ⟨hvalid, hrefused, hfailed, hafter⟩ | ⟨hloadable, hok, _⟩
    · rw [hsame]
      refine iff_of_true (fun _ => Untouched.refl s) ?_
      rintro _ ⟨⟩ hvalid
      exact absurd (hinvalid.symm.trans hvalid) (by decide)
    · rw [hafter, untouched_restoredState_iff]
      constructor
      · rintro huntouched _ ⟨⟩ _
        exact .inr (huntouched hfailed)
      · intro h _
        exact (h contents rfl hvalid).resolve_left hrefused
    · refine iff_of_true (fun hfailed => ?_) ?_
      · exact absurd (hok.symm.trans hfailed) (by decide)
      · rintro _ ⟨⟩ _
        exact .inl hloadable

namespace TwoMembers

/-- The saved contents with their record stated twice. -/
def savedTwice : SnapshotContents :=
  { saved with records := saved.records ++ saved.records }

set_option maxRecDepth 8000 in
theorem load_savedTwice : SnapshotStore.load snapshotPath (fileOf savedTwice) = .ok savedTwice := by
  decide +kernel

end TwoMembers

open TwoMembers in
/-- A file that states one collective twice is refused, and the participants are gone. -/
theorem failed_restore_drops_peers :
    ServiceReachable service ∧
      (service.restoreFrom snapshotPath (fileOf savedTwice) 8).1.isOk = false ∧
      (service.authority.peers.find ⟨1, 0⟩).isSome = true ∧
      (service.restoreFrom snapshotPath (fileOf savedTwice) 8).2.2.authority.peers.find ⟨1, 0⟩ =
        none := by
  obtain ⟨hstatus, hrestored⟩ := restoreFrom_of_ok service snapshotPath 8 load_savedTwice
  rw [hstatus, hrestored]
  exact ⟨service_reachable, by decide, by decide, by decide⟩

end Atomicity

end TrafficFabric
