import TrafficFabric.AuthorityCoherence
import TrafficFabric.Participants

/-!
# What an operation does to the congestion observation

An operation of the service leaves the installed congestion observation, drops
it, or replaces it by the one an accepted ingestion brought.  A boot and a
restoration drop it.
-/

namespace TrafficFabric

open Lib

section Authority

variable {s s' s'' : AuthorityState}

/-- The congestion observation is the same or was dropped. -/
def CongestionKeptOrDropped (s s' : AuthorityState) : Prop :=
  s'.congestion = s.congestion ∨ s'.congestion = none

theorem CongestionKeptOrDropped.trans (h : CongestionKeptOrDropped s s')
    (h' : CongestionKeptOrDropped s' s'') : CongestionKeptOrDropped s s'' := by
  rcases h' with hkept | hdropped
  · rcases h with hkept' | hdropped'
    · exact .inl (hkept.trans hkept')
    · exact .inr (hkept.trans hdropped')
  · exact .inr hdropped

theorem SameButPeers.congestion (h : SameButPeers s s') : CongestionKeptOrDropped s s' := by
  obtain ⟨peers, highest, rfl⟩ := h
  exact .inl rfl

/-- Every operation but an installation of congestion keeps or drops what is installed. -/
theorem authorityStep_congestion {op : AuthorityOp} (s : AuthorityState)
    (hop : ∀ congestion, op ≠ .installCongestion congestion) :
    CongestionKeptOrDropped s (authorityStep s op) := by
  have heffect := authorityStep_effect s op
  generalize authorityStep s op = s' at heffect
  cases heffect with
  | same | policy | capacity | freshness => exact .inl rfl
  | booted | topology | dropped | restored => exact .inr rfl
  | congestion congestion => exact absurd rfl (hop congestion)
  | peers _ _ rest => exact rest.congestion

theorem run_congestion {ops : List AuthorityOp} (s : AuthorityState)
    (hops : ∀ op ∈ ops, ∀ congestion, op ≠ .installCongestion congestion) :
    CongestionKeptOrDropped s (run authorityStep s ops) := by
  induction ops generalizing s with
  | nil => exact .inl rfl
  | cons op ops ih =>
    have hstep := authorityStep_congestion s (hops op (by simp))
    have hrest := ih (authorityStep s op) (fun other hother => hops other (by simp [hother]))
    exact hstep.trans hrest

end Authority

section Service

variable (s : CoordinatorService)

/-- The observation an ingestion hands to the authority: its window is clamped. -/
def clampedCongestion (evidence : CongestionEvidence) (minted : Minted) : CongestionEvidence :=
  { evidence with
    generation := CoordinatorService.statedOrMinted evidence.generation minted
    validForMs := min evidence.validForMs s.config.congestionValidForMs }

/-- The operation is an ingestion that succeeds and leaves this observation installed. -/
def IngestsCongestion (congestion : CongestionEvidence) (s : CoordinatorService) :
    ServiceOp → Prop
  | .ingestCongestion context evidence minted reasons =>
    (s.ingestCongestion context evidence minted reasons).1.status.isOk = true ∧
      congestion = (clampedCongestion s evidence minted).canonicalize
  | _ => False

/-- A boot or a restoration that takes effect. -/
def Restarted (s : CoordinatorService) : ServiceOp → Prop
  | .start draws => (s.start draws).map (fun started => started.1.isOk) = some true
  | .restore path contents now => (s.restore path contents now).1.isOk = true
  | _ => False

/-- Everything an operation can do to the congestion observation. -/
inductive CongestionChange (s s' : CoordinatorService) (op : ServiceOp) : Prop
  | kept
      (runsOn : ¬ Restarted s op)
      (congestion : s'.authority.congestion = s.authority.congestion)
  | dropped (congestion : s'.authority.congestion = none)
  | ingested
      (congestion : CongestionEvidence)
      (installs : IngestsCongestion congestion s op)
      (installed : s'.authority.congestion = some congestion)

theorem restarts_of_restarted {op : ServiceOp} (h : Restarted s op) : op.restarts = true := by
  cases op with
  | start draws => rfl
  | restore => rfl
  | _ => exact absurd h id

/-- A start takes effect exactly when the service does not run and a draw is usable. -/
theorem restarted_start_iff (draws : List Minted) :
    Restarted s (.start draws) ↔
      s.running = false ∧ (s.authority.bootDraw s.authority.epoch draws).isSome = true := by
  unfold Restarted CoordinatorService.start
  cases hrunning : s.running with
  | true => simp
  | false =>
    cases hdraw : s.authority.bootDraw s.authority.epoch draws with
    | none => simp [hdraw]
    | some draw => simp [hdraw]

theorem start_congestionChange (draws : List Minted) :
    CongestionChange s (serviceStep s (.start draws)) (.start draws) := by
  by_cases hstarts : s.running = false ∧
      (s.authority.bootDraw s.authority.epoch draws).isSome = true
  · refine .dropped ?_
    obtain ⟨draw, hdraw⟩ := Option.isSome_iff_exists.mp hstarts.2
    rw [(serviceStep_effect s (.start draws)).authority]
    simp [authorityTrace, hstarts.1, hdraw, authorityStep, AuthorityState.beginBoot,
      AuthorityState.setFreshnessPolicy, AuthorityState.clearPeers,
      AuthorityState.invalidateDynamicEvidence]
  · refine .kept ?_ ?_
    · rwa [restarted_start_iff]
    · rw [(serviceStep_effect s (.start draws)).authority]
      simp [authorityTrace, hstarts]

theorem restore_congestionChange (path : Text) (contents : SnapshotContents) (now : UInt64) :
    CongestionChange s (serviceStep s (.restore path contents now))
      (.restore path contents now) := by
  have hauthority := restore_authority s path contents now
  rcases restoreDurable_cases s.authority contents.authority now with
    ⟨_, hrefused, hsame⟩ | ⟨_, hrestored⟩
  · refine .kept ?_ (by rw [hauthority, hsame])
    simp [Restarted, CoordinatorService.restore, hrefused]
  · refine .dropped ?_
    rw [hauthority, hrestored]
    rfl

theorem ingestCongestion_congestionChange (context : ServiceRequestContext)
    (evidence : CongestionEvidence) (minted : Minted) (reasons : ReasonChain) :
    CongestionChange s (serviceStep s (.ingestCongestion context evidence minted reasons))
      (.ingestCongestion context evidence minted reasons) := by
  have hauthority :=
    (serviceStep_effect s (.ingestCongestion context evidence minted reasons)).authority
  cases hchecked : (s.checkContext context reasons).1.isOk with
  | false =>
    refine .kept id ?_
    simp [hauthority, authorityTrace, hchecked]
  | true =>
    simp only [authorityTrace, hchecked, if_true, run_cons, run_nil, authorityStep] at hauthority
    rcases installCongestion_cases s.authority (clampedCongestion s evidence minted) with
      ⟨_, hsame⟩ | ⟨_, _, _, _, _, hinstalled⟩
    · exact .kept id (by rw [hauthority]; exact congrArg AuthorityState.congestion hsame)
    · refine .ingested _ ⟨?_, rfl⟩ ?_
      · have hresult := congrArg Prod.fst hinstalled
        unfold clampedCongestion at hresult
        simp [CoordinatorService.ingestCongestion, hchecked, hresult,
          CoordinatorService.observationAnswer]
      · rw [hauthority]
        exact congrArg (fun r => r.2.congestion) hinstalled

/-- No other operation hands a congestion observation to the authority. -/
theorem authorityTrace_ne_installCongestion {op : ServiceOp}
    (hop : ∀ context evidence minted reasons,
      op ≠ .ingestCongestion context evidence minted reasons) :
    ∀ a ∈ authorityTrace s op, ∀ congestion, a ≠ .installCongestion congestion := by
  rintro a ha congestion rfl
  cases hands_of_mem_authorityTrace ha with
  | congestion context evidence _ minted reasons => exact hop context evidence minted reasons rfl

theorem serviceStep_congestionChange (op : ServiceOp) :
    CongestionChange s (serviceStep s op) op := by
  by_cases hrestart : op.restarts = true
  · cases op with
    | start draws => exact start_congestionChange s draws
    | restore path contents now => exact restore_congestionChange s path contents now
    | _ => simp [ServiceOp.restarts] at hrestart
  · by_cases hingest : ∃ context evidence minted reasons,
        op = .ingestCongestion context evidence minted reasons
    · obtain ⟨context, evidence, minted, reasons, rfl⟩ := hingest
      exact ingestCongestion_congestionChange s context evidence minted reasons
    · have hrun := run_congestion s.authority
        (authorityTrace_ne_installCongestion s
          (fun context evidence minted reasons h =>
            hingest ⟨context, evidence, minted, reasons, h⟩))
      rw [← serviceStep_simulates_authority s op] at hrun
      rcases hrun with hkept | hdropped
      · exact .kept (fun h => hrestart (restarts_of_restarted s h)) hkept
      · exact .dropped hdropped

end Service

end TrafficFabric
