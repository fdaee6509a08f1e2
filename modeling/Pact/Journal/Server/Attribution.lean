import Pact.Journal.PolicyService.Theorems
import Pact.Journal.Server.ApprovalChecks
import Pact.Journal.Server.Approvals
import Pact.Journal.State.Theorems

namespace Pact.Journal

open Pact.Library Pact.Common

-- The identity that the journal keeps of a request, if any. It comes from the body. Nothing in
-- a stored policy says who set it.
def recordedIdentity : Rpc → Option Identity
  | .AppendEntry request =>
    (request.body.entry.bind Proto.ConfigEntry.author).map ConfigService.protoToAuthor
  | .Evaluate _ request => some (PolicyService.requestIdentity request.body)
  | .UpdatePolicy _ => none
  | .DecideApproval request => request.body.approver.map PolicyService.protoToIdentity

-- A request that changes the journal and whose caller is told so.
inductive Accepted (platform : Platform) (s : JournalState) : Rpc → JournalState → Prop
  | AppendEntry (request : Request Proto.AppendEntryRequest) (now committed : DateTime)
      (response : Proto.AppendEntryResponse) (after : JournalState)
      (h : (intercepted (ConfigService.appendEntry now) request).finish platform
        (.Committed committed) s = (after, .ok response)) :
      Accepted platform s (.AppendEntry request) after
  | UpdatePolicy (request : Request Proto.UpdatePolicyRequest) (committed : DateTime)
      (response : Proto.UpdatePolicyResponse) (after : JournalState)
      (h : (intercepted (PolicyService.updatePolicy platform) request).finish platform
        (.Committed committed) s = (after, .ok response)) (hsuccess : response.success = true) :
      Accepted platform s (.UpdatePolicy request) after
  | DecideApproval (request : Request Proto.DecideApprovalRequest) (committed : DateTime)
      (response : Proto.DecideApprovalResponse) (after : JournalState)
      (h : (intercepted PolicyService.decideApproval request).finish platform
        (.Committed committed) s = (after, .ok response)) (hsuccess : response.success = true) :
      Accepted platform s (.DecideApproval request) after

-- A record that the change adds or replaces names this identity as author, approver or actor.
def NewlyNames (s after : JournalState) (identity : Identity) : Prop :=
  (∃ key entry, after.entries.get key = some entry ∧ s.entries.get key ≠ some entry ∧
    entry.author = identity) ∨
  (∃ approvalId approval, after.pendingApprovals.get approvalId = some approval ∧
    s.pendingApprovals.get approvalId ≠ some approval ∧ approval.approver = some identity) ∨
  ∃ operation ∈ after.auditLog, operation ∉ s.auditLog ∧ operation.actor = identity

def AttributedTo (s after : JournalState) (identity : Identity) : Prop :=
  ∀ other, NewlyNames s after other ↔ other = identity

theorem newlyNames_setPolicy (s : JournalState) (vclusterId : VClusterId) (policy : VClusterPolicy)
    (identity : Identity) :
    ¬NewlyNames s { s with policies := s.policies.insert vclusterId policy } identity := by
  rintro (⟨key, entry, hafter, hbefore, _⟩ | ⟨approvalId, approval, hafter, hbefore, _⟩ |
    ⟨operation, hafter, hbefore, _⟩)
  · exact hbefore hafter
  · exact hbefore hafter
  · exact hbefore hafter

theorem newlyNames_append (s : JournalState) (entry : ConfigEntry) (identity : Identity)
    (hwf : EntriesWellFormed s) :
    NewlyNames s { s with
      entries := s.entries.insert s.nextSequence entry
      nextSequence := s.nextSequence + 1 } identity ↔ identity = entry.author := by
  constructor
  · rintro (⟨key, stored, hafter, hbefore, rfl⟩ | ⟨approvalId, approval, hafter, hbefore, _⟩ |
      ⟨operation, hafter, hbefore, _⟩)
    · rcases insert_next_cases s entry key stored hafter with ⟨_, rfl⟩ | hold
      · rfl
      · exact absurd hold hbefore
    · exact absurd hafter hbefore
    · exact absurd hafter hbefore
  · rintro rfl
    refine .inl ⟨s.nextSequence, entry, Map.get_insert_self _ _ _, ?_, rfl⟩
    intro hstored
    exact Nat.lt_irrefl _ ((hwf.keys _).mp ⟨entry, hstored⟩)

theorem newlyNames_decide (s : JournalState) (approvalId : String) (approval : PendingApproval)
    (approver identity : Identity) (decision : ApprovalStatus)
    (hstored : s.pendingApprovals.get approvalId = some approval)
    (hdecision : decision ≠ approval.status) :
    NewlyNames s { s with
      pendingApprovals := s.pendingApprovals.insert approvalId
        { approval with status := decision, approver := some approver } } identity ↔
      identity = approver := by
  constructor
  · rintro (⟨key, stored, hafter, hbefore, _⟩ | ⟨otherId, other, hafter, hbefore, hname⟩ |
      ⟨operation, hafter, hbefore, _⟩)
    · exact absurd hafter hbefore
    · by_cases hid : otherId = approvalId
      · subst hid
        rw [Map.get_insert_self] at hafter
        obtain rfl := Option.some.inj hafter
        exact (Option.some.inj hname).symm
      · rw [Map.get_insert_of_ne _ _ hid] at hafter
        exact absurd hafter hbefore
    · exact absurd hafter hbefore
  · rintro rfl
    refine .inr (.inl ⟨approvalId, _, Map.get_insert_self _ _ _, ?_, rfl⟩)
    intro hsame
    rw [hstored] at hsame
    exact hdecision (congrArg PendingApproval.status (Option.some.inj hsame)).symm

section Accepted

variable (platform : Platform)

theorem appendEntry_accepted (now committed : DateTime) (s after : JournalState)
    (req : Proto.AppendEntryRequest) (response : Proto.AppendEntryResponse)
    (h : (ConfigService.appendEntry now req).finish platform (.Committed committed) s =
      (after, .ok response)) :
    ∃ entry, (req.entry.bind Proto.ConfigEntry.author).map ConfigService.protoToAuthor =
        some entry.author ∧
      after = { s with
        entries := s.entries.insert s.nextSequence entry
        nextSequence := s.nextSequence + 1 } := by
  obtain ⟨proto, entry, hentry, hdecode, _, _, hafter⟩ :=
    appendEntry_finish platform now (.Committed committed) s after req response h
  refine ⟨{ entry with sequence := s.nextSequence }, ?_, hafter⟩
  obtain ⟨author, _, hauthor, _, rfl⟩ := protoToConfigEntry_ok now proto entry hdecode
  simp [hentry, hauthor]

theorem updatePolicy_accepted (committed : DateTime) (s after : JournalState)
    (req : Proto.UpdatePolicyRequest) (response : Proto.UpdatePolicyResponse)
    (h : (PolicyService.updatePolicy platform req).finish platform (.Committed committed) s =
      (after, .ok response)) :
    ∃ vclusterId policy, after = { s with policies := s.policies.insert vclusterId policy } := by
  simp only [PolicyService.updatePolicy] at h
  cases hpolicy : req.policy with
  | none => simp [hpolicy, Handler.finish] at h
  | some policy =>
    simp only [hpolicy, finish_committed, apply, Prod.mk.injEq] at h
    exact ⟨_, _, h.1.symm⟩

theorem decideApproval_accepted (committed : DateTime) (s after : JournalState)
    (req : Proto.DecideApprovalRequest) (response : Proto.DecideApprovalResponse)
    (hsuccess : response.success = true)
    (h : (PolicyService.decideApproval req).finish platform (.Committed committed) s =
      (after, .ok response)) :
    ∃ approval approver decision,
      req.approver.map PolicyService.protoToIdentity = some approver ∧
      s.pendingApprovals.get req.approvalId = some approval ∧ decision ≠ approval.status ∧
      after = { s with
        pendingApprovals := s.pendingApprovals.insert req.approvalId
          { approval with status := decision, approver := some approver } } := by
  simp only [PolicyService.decideApproval] at h
  cases happrover : req.approver with
  | none => simp [happrover, Handler.finish] at h
  | some approver =>
    cases hparse : PolicyService.parseDecision req.decision with
    | error status => simp [happrover, hparse, Handler.finish] at h
    | ok decision =>
      simp only [happrover, hparse, finish_committed, apply, decideApproval] at h
      cases hget : s.pendingApprovals.get req.approvalId with
      | none =>
        simp only [hget, Prod.mk.injEq, Except.ok.injEq] at h
        rw [← h.2] at hsuccess
        cases hsuccess
      | some approval =>
        simp only [hget] at h
        split_ifs at h with hstatus hself
        · rw [Prod.mk.injEq, Except.ok.injEq] at h
          rw [← h.2] at hsuccess
          cases hsuccess
        · rw [Prod.mk.injEq, Except.ok.injEq] at h
          rw [← h.2] at hsuccess
          cases hsuccess
        · have hpending : approval.status = .Pending := not_not.mp hstatus
          have hdecided : decision ≠ approval.status := by
            rcases parseDecision_ok req.decision decision hparse with rfl | rfl <;>
              simp [hpending]
          exact ⟨approval, PolicyService.protoToIdentity approver, decision, rfl, rfl, hdecided,
            (Prod.mk.inj h).1.symm⟩

theorem accepted_newlyNames_iff (s after : JournalState) (rpc : Rpc) (identity : Identity)
    (hwf : EntriesWellFormed s) (h : Accepted platform s rpc after) :
    NewlyNames s after identity ↔ recordedIdentity rpc = some identity := by
  cases h with
  | AppendEntry request now committed response after h =>
    obtain ⟨entry, hname, rfl⟩ := appendEntry_accepted platform now committed s after request.body
      response (intercepted_ok _ _ _ _ _ _ _ h)
    rw [newlyNames_append s entry identity hwf, recordedIdentity, hname, Option.some.injEq, eq_comm]
  | UpdatePolicy request committed response after h _ =>
    obtain ⟨vclusterId, policy, rfl⟩ := updatePolicy_accepted platform committed s after
      request.body response (intercepted_ok _ _ _ _ _ _ _ h)
    simp [newlyNames_setPolicy s vclusterId policy identity, recordedIdentity]
  | DecideApproval request committed response after h hsuccess =>
    obtain ⟨approval, approver, decision, hname, hstored, hdecision, rfl⟩ :=
      decideApproval_accepted platform committed s after request.body response hsuccess
        (intercepted_ok _ _ _ _ _ _ _ h)
    rw [newlyNames_decide s _ approval approver identity decision hstored hdecision,
      recordedIdentity, hname, Option.some.injEq, eq_comm]

theorem accepted_attributedTo_iff (s after : JournalState) (rpc : Rpc) (identity : Identity)
    (hwf : EntriesWellFormed s) (h : Accepted platform s rpc after) :
    AttributedTo s after identity ↔ recordedIdentity rpc = some identity := by
  simp only [AttributedTo, accepted_newlyNames_iff platform s after rpc _ hwf h]
  constructor
  · intro hall
    exact (hall identity).mpr rfl
  · intro hname other
    rw [hname, Option.some.injEq, eq_comm]

theorem accepted_principals_iff (s s' after after' : JournalState) (rpc rpc' : Rpc)
    (hwf : EntriesWellFormed s) (hwf' : EntriesWellFormed s') (h : Accepted platform s rpc after)
    (h' : Accepted platform s' rpc' after') :
    (∀ recorded recorded', NewlyNames s after recorded → NewlyNames s' after' recorded' →
      recorded.principal = recorded'.principal) ↔
    ∀ declared ∈ recordedIdentity rpc, ∀ declared' ∈ recordedIdentity rpc',
      declared.principal = declared'.principal := by
  simp only [accepted_newlyNames_iff platform s after rpc _ hwf h,
    accepted_newlyNames_iff platform s' after' rpc' _ hwf' h', Option.mem_def]
  exact ⟨fun hall declared h declared' h' => hall declared declared' h h',
    fun hall declared declared' h h' => hall declared h declared' h'⟩

end Accepted

-- The journal attributes an accepted request to the identity of its token exactly when the body
-- names that identity; an accepted policy update is attributed to nobody. Two accepted requests
-- with one token are recorded under one principal exactly when their bodies declare one. In a run
-- where every evaluation and every decision names the identity of its token, an approved approval
-- was filed and approved with the tokens of two distinct principals.
theorem attribution_follows_body (platform : Platform) (opaClient : Option PolicyService.OpaClient)
    (validate : String → Option Identity) :
    (∀ commands rpc after token identity,
      Accepted platform (replay platform .default commands).1 rpc after →
      rpc.bearerToken = some token → validate token = some identity →
      (AttributedTo (replay platform .default commands).1 after identity ↔
        recordedIdentity rpc = some identity)) ∧
    (∀ commands commands' rpc rpc' after after' token,
      Accepted platform (replay platform .default commands).1 rpc after →
      Accepted platform (replay platform .default commands').1 rpc' after' →
      rpc.bearerToken = some token → rpc'.bearerToken = some token →
      ((∀ recorded recorded',
        NewlyNames (replay platform .default commands).1 after recorded →
        NewlyNames (replay platform .default commands').1 after' recorded' →
        recorded.principal = recorded'.principal) ↔
      ∀ declared ∈ recordedIdentity rpc, ∀ declared' ∈ recordedIdentity rpc',
        declared.principal = declared'.principal)) ∧
    ∀ steps last,
      Run (serverNext platform opaClient) (NamesTokenIdentity validate) ⟨.default, []⟩ steps last →
      ∀ approvalId approval, last.journal.pendingApprovals.get approvalId = some approval →
        approval.status = .Approved →
        approval.approvalId = approvalId ∧ Requested validate steps approval ∧
        ∃ approver, approval.approver = some approver ∧ Decided validate steps approvalId approver ∧
          approval.requester.principal ≠ approver.principal := by
  refine ⟨?_, ?_, ?_⟩
  · intro commands rpc after token identity haccepted _ _
    exact accepted_attributedTo_iff platform _ after rpc identity
      (replay_entriesWellFormed platform commands) haccepted
  · intro commands commands' rpc rpc' after after' token haccepted haccepted' _ _
    exact accepted_principals_iff platform _ _ after after' rpc rpc'
      (replay_entriesWellFormed platform commands) (replay_entriesWellFormed platform commands')
      haccepted haccepted'
  · intro steps last run approvalId approval hget happroved
    obtain ⟨rfl, htraced⟩ :=
      (run_traced platform opaClient steps last run).approvals approvalId approval hget
    exact ⟨rfl, htraced.requester, htraced.approver happroved⟩

def oneToken : Option MetadataValue := some (.Text "Bearer token-1")

def commitEntry (principal : String) : Proto.ConfigEntry where
  sequence := 0
  timestamp := none
  entryType := 1
  scope := some ⟨some (.VclusterId "ml")⟩
  author := some ⟨principal, "human", "pact-ops-ml"⟩
  parent := none
  stateDelta := none
  policyRef := ""
  ttl := none
  emergencyReason := none

def appendAs (principal : String) : Handler Proto.AppendEntryResponse :=
  intercepted (ConfigService.appendEntry 0) ⟨oneToken, ⟨some (commitEntry principal)⟩⟩

theorem appendAs_accepted (principal : String)
    (h : ((appendAs principal).finish .ascii (.Committed 0) .default).2 = .ok ⟨0⟩) :
    Accepted .ascii .default (.AppendEntry ⟨oneToken, ⟨some (commitEntry principal)⟩⟩)
      ((appendAs principal).finish .ascii (.Committed 0) .default).1 :=
  .AppendEntry _ 0 0 ⟨0⟩ _ (Prod.ext rfl h)

def tokenIdentity (token : String) : Option Identity :=
  if token = "token-1" then some ⟨"alice", .Human, "pact-regulated-ml"⟩
  else if token = "token-2" then some ⟨"bob", .Human, "pact-ops-ml"⟩
  else none

def twoTokenSteps : List ServerStep :=
  askedSteps ++ [.Receive 0 (.DecideApproval ⟨some (.Text "Bearer token-2"),
    ⟨"ap-1", some ⟨"bob", "human", "pact-ops-ml"⟩, "approved", none⟩⟩), .Commit 0 0]

theorem attribution_follows_body_two_tokens :
    AttributedTo .default ((appendAs "alice").finish .ascii (.Committed 0) .default).1
      ⟨"alice", .Human, "pact-ops-ml"⟩ ∧
    (¬∀ recorded recorded',
      NewlyNames .default ((appendAs "alice").finish .ascii (.Committed 0) .default).1 recorded →
      NewlyNames .default ((appendAs "mallory").finish .ascii (.Committed 0) .default).1 recorded' →
      recorded.principal = recorded'.principal) ∧
    ∃ last, Run (serverNext .ascii none) (NamesTokenIdentity tokenIdentity) ⟨.default, []⟩
        twoTokenSteps last ∧
      last.journal.pendingApprovals.get "ap-1" = some (decidedApproval "pact-ops-ml") ∧
      Requested tokenIdentity twoTokenSteps (decidedApproval "pact-ops-ml") ∧
      Decided tokenIdentity twoTokenSteps "ap-1" ⟨"bob", .Human, "pact-ops-ml"⟩ := by
  have halice := appendAs_accepted "alice" (by decide +kernel)
  have hmallory := appendAs_accepted "mallory" (by decide +kernel)
  refine ⟨?_, ?_, ?_⟩
  · exact ((attribution_follows_body .ascii none fun _ => some ⟨"alice", .Human, "pact-ops-ml"⟩).1
      [] _ _ "token-1" _ halice (by decide) rfl).mpr (by decide)
  · intro hone
    exact absurd (((attribution_follows_body .ascii none tokenIdentity).2.1 [] [] _ _ _ _ "token-1"
      halice hmallory (by decide) (by decide)).mp hone) (by decide)
  · obtain ⟨last, hexec⟩ : ∃ last, execWhere (serverNext .ascii none)
        (NamesTokenIdentity tokenIdentity) ⟨.default, []⟩ twoTokenSteps = some last :=
      Option.isSome_iff_exists.mp (by decide +kernel)
    have hget : (execWhere (serverNext .ascii none) (NamesTokenIdentity tokenIdentity)
        ⟨.default, []⟩ twoTokenSteps).map (fun last => last.journal.pendingApprovals.get "ap-1") =
        some (some (decidedApproval "pact-ops-ml")) := by
      decide +kernel
    rw [hexec, Option.map_some, Option.some.injEq] at hget
    have hrun := run_of_execWhere _ _ _ _ _ hexec
    obtain ⟨_, hrequested, approver, happrover, hdecided, _⟩ :=
      (attribution_follows_body .ascii none tokenIdentity).2.2 twoTokenSteps last hrun "ap-1" _ hget
        rfl
    obtain rfl := Option.some.inj happrover
    exact ⟨last, hrun, hget, hrequested, hdecided⟩

-- The holder of one token asks as one principal and approves as another.
def selfApprovalSteps : List ServerStep :=
  [.Receive 0 (.Evaluate "ap-1" ⟨oneToken, PolicyService.commitRequest (.VclusterId "ml")⟩),
    .Commit 0 0,
    .Receive 0 (.DecideApproval
      ⟨oneToken, ⟨"ap-1", some ⟨"bob", "human", "pact-ops-ml"⟩, "approved", none⟩⟩),
    .Commit 0 0]

theorem one_token_two_principals :
    ((appendAs "alice").finish .ascii (.Committed 0) .default).2 = .ok ⟨0⟩ ∧
    ((appendAs "mallory").finish .ascii (.Committed 0) .default).2 = .ok ⟨0⟩ ∧
    ((((appendAs "alice").finish .ascii (.Committed 0) .default).1.entries.get 0).map
      fun entry => entry.author.principal) = some "alice" ∧
    ((((appendAs "mallory").finish .ascii (.Committed 0) .default).1.entries.get 0).map
      fun entry => entry.author.principal) = some "mallory" ∧
    (exec (serverNext .ascii none) ⟨PolicyService.twoPersonJournal, []⟩ selfApprovalSteps).map
        (fun server => server.journal.pendingApprovals.get "ap-1") =
      some (some PolicyService.approvedCommit) := by
  refine ⟨?_, ?_, ?_, ?_, ?_⟩ <;> decide +kernel

end Pact.Journal
