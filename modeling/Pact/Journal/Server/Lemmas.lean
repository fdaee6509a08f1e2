import Pact.Journal.Server
import Pact.Journal.State.Lemmas

namespace Pact.Journal

open Pact.Library Pact.Common

def bearerToken (authorization : Option MetadataValue) : Option String :=
  match authorization with
  | some (.Text text) => stripPrefix text "Bearer "
  | _ => none

def Rpc.bearerToken : Rpc → Option String
  | .AppendEntry request => Journal.bearerToken request.authorization
  | .Evaluate _ request => Journal.bearerToken request.authorization
  | .UpdatePolicy request => Journal.bearerToken request.authorization
  | .DecideApproval request => Journal.bearerToken request.authorization

-- The interceptor looks for a bearer token and does nothing with it.
theorem authInterceptor_ok_iff (authorization : Option MetadataValue) :
    authInterceptor authorization = .ok () ↔ ∃ token, bearerToken authorization = some token := by
  cases authorization with
  | none => simp [authInterceptor, bearerToken]
  | some value =>
    cases value with
    | Binary bytes => simp [authInterceptor, bearerToken]
    | Text text =>
      by_cases h : startsWith text "Bearer " = true <;>
        simp [authInterceptor, bearerToken, stripPrefix, h]

theorem finish_committed {Answer : Type} (platform : Platform) (now : DateTime) (s : JournalState)
    (cmd : JournalCommand) (answer : JournalResponse → Except Status Answer) :
    (Handler.Write cmd answer).finish platform (.Committed now) s =
      ((apply platform now s cmd).1, answer (apply platform now s cmd).2) := rfl

theorem finish_cases {Answer : Type} (platform : Platform) (consensus : Consensus)
    (s : JournalState) (handler : Handler Answer) :
    (handler.finish platform consensus s).1 = s ∨
    ∃ cmd now, handler.command = some cmd ∧
      (handler.finish platform consensus s).1 = (apply platform now s cmd).1 := by
  cases handler with
  | Return result => exact .inl rfl
  | Write cmd answer =>
    cases consensus with
    | Committed now => exact .inr ⟨cmd, now, rfl, rfl⟩
    | Failed error applied =>
      cases applied with
      | none => exact .inl rfl
      | some now => exact .inr ⟨cmd, now, rfl, rfl⟩

section Intercepted

variable {Body Answer : Type} (handler : Body → Handler Answer) (request : Request Body)

theorem intercepted_of_token (token : String) (h : bearerToken request.authorization = some token) :
    intercepted handler request = handler request.body := by
  simp only [intercepted, (authInterceptor_ok_iff request.authorization).mpr ⟨token, h⟩]

theorem intercepted_cases :
    (∃ token, bearerToken request.authorization = some token ∧
      intercepted handler request = handler request.body) ∨
    ∃ status, intercepted handler request = .Return (.error status) := by
  cases hauth : authInterceptor request.authorization with
  | error status =>
    right
    exact ⟨status, by simp only [intercepted, hauth]⟩
  | ok _ =>
    obtain ⟨token, htoken⟩ := (authInterceptor_ok_iff request.authorization).mp hauth
    exact .inl ⟨token, htoken, intercepted_of_token handler request token htoken⟩

theorem intercepted_command (cmd : JournalCommand)
    (h : (intercepted handler request).command = some cmd) :
    (∃ token, bearerToken request.authorization = some token) ∧
      (handler request.body).command = some cmd := by
  rcases intercepted_cases handler request with ⟨token, htoken, heq⟩ | ⟨status, heq⟩
  · exact ⟨⟨token, htoken⟩, heq ▸ h⟩
  · rw [heq] at h
    cases h

end Intercepted

theorem protoToConfigEntry_ok (now : DateTime) (proto : Proto.ConfigEntry) (entry : ConfigEntry)
    (h : ConfigService.protoToConfigEntry now proto = .ok entry) :
    ∃ author entryType, proto.author = some author ∧
      ConfigService.protoToEntryType proto.entryType = some entryType ∧
      entry =
        { sequence := proto.sequence
          timestamp := now
          entryType := entryType
          scope := ConfigService.protoToScope proto.scope
          author := ConfigService.protoToAuthor author
          parent := proto.parent
          stateDelta := proto.stateDelta.map ConfigService.protoToStateDelta
          policyRef := if proto.policyRef = "" then none else some proto.policyRef
          ttlSeconds := ConfigService.protoToTtl proto.ttl
          emergencyReason := proto.emergencyReason } := by
  unfold ConfigService.protoToConfigEntry at h
  cases hauthor : proto.author with
  | none => simp [hauthor] at h
  | some author =>
    cases htype : ConfigService.protoToEntryType proto.entryType with
    | none => simp [hauthor, htype] at h
    | some entryType =>
      simp only [hauthor, htype, Except.ok.injEq] at h
      exact ⟨author, entryType, rfl, rfl, h.symm⟩

theorem appendEntry_command (now : DateTime) (req : Proto.AppendEntryRequest)
    (cmd : JournalCommand) (h : (ConfigService.appendEntry now req).command = some cmd) :
    ∃ proto entry, req.entry = some proto ∧
      ConfigService.protoToConfigEntry now proto = .ok entry ∧ cmd = .AppendEntry entry := by
  simp only [ConfigService.appendEntry] at h
  cases hentry : req.entry with
  | none => simp [hentry, Handler.command] at h
  | some proto =>
    cases hdecode : ConfigService.protoToConfigEntry now proto with
    | error status => simp [hentry, hdecode, Handler.command] at h
    | ok entry =>
      simp only [hentry, hdecode, Handler.command, Option.some.injEq] at h
      exact ⟨proto, entry, rfl, hdecode, h.symm⟩

theorem intercepted_ok {Body Answer : Type} (platform : Platform) (consensus : Consensus)
    (s after : JournalState) (handler : Body → Handler Answer) (request : Request Body)
    (response : Answer)
    (h : (intercepted handler request).finish platform consensus s = (after, .ok response)) :
    (handler request.body).finish platform consensus s = (after, .ok response) := by
  rcases intercepted_cases handler request with ⟨token, _, heq⟩ | ⟨status, heq⟩
  · rwa [heq] at h
  · rw [heq] at h
    cases h

theorem appendEntry_finish (platform : Platform) (now : DateTime) (consensus : Consensus)
    (s after : JournalState) (req : Proto.AppendEntryRequest) (response : Proto.AppendEntryResponse)
    (h : (ConfigService.appendEntry now req).finish platform consensus s = (after, .ok response)) :
    ∃ proto entry, req.entry = some proto ∧
      ConfigService.protoToConfigEntry now proto = .ok entry ∧ entryRejection s entry = none ∧
      response.sequence = s.nextSequence ∧
      after = { s with
        entries := s.entries.insert s.nextSequence { entry with sequence := s.nextSequence }
        nextSequence := s.nextSequence + 1 } := by
  simp only [ConfigService.appendEntry] at h
  cases hentry : req.entry with
  | none => simp [hentry, Handler.finish] at h
  | some proto =>
    cases hdecode : ConfigService.protoToConfigEntry now proto with
    | error status => simp [hentry, hdecode, Handler.finish] at h
    | ok entry =>
      cases consensus with
      | Failed error applied => simp [hentry, hdecode, Handler.finish, clientWrite] at h
      | Committed committed =>
        simp only [hentry, hdecode, finish_committed, apply, appendEntry] at h
        cases hrejection : entryRejection s entry with
        | some reason => simp [hrejection] at h
        | none =>
          simp only [hrejection, Prod.mk.injEq, Except.ok.injEq] at h
          obtain ⟨rfl, rfl⟩ := h
          exact ⟨proto, entry, rfl, hdecode, hrejection, rfl, rfl⟩

theorem evaluate_command (opaClient : Option PolicyService.OpaClient) (s : JournalState)
    (approvalId : String) (now : DateTime) (req : Proto.PolicyEvalRequest) (cmd : JournalCommand)
    (h : (PolicyService.evaluate opaClient s approvalId now req).command = some cmd) :
    cmd = .CreateApproval (PolicyService.newApproval req approvalId now) := by
  simp only [PolicyService.evaluate] at h
  split at h
  · cases h
  · cases h
  · split_ifs at h
    · exact (Option.some.inj h).symm
    · cases h

theorem updatePolicy_command (platform : Platform) (req : Proto.UpdatePolicyRequest)
    (cmd : JournalCommand) (h : (PolicyService.updatePolicy platform req).command = some cmd) :
    ∃ policy, req.policy = some policy ∧
      cmd = .SetPolicy req.vclusterId (PolicyService.protoToVclusterPolicy platform policy) := by
  simp only [PolicyService.updatePolicy] at h
  cases hpolicy : req.policy with
  | none => simp [hpolicy, Handler.command] at h
  | some policy =>
    simp only [hpolicy, Handler.command, Option.some.injEq] at h
    exact ⟨policy, rfl, h.symm⟩

theorem parseDecision_ok (text : String) (decision : ApprovalStatus)
    (h : PolicyService.parseDecision text = .ok decision) :
    decision = .Approved ∨ decision = .Rejected := by
  simp only [PolicyService.parseDecision] at h
  split_ifs at h
  · exact .inl (Except.ok.inj h).symm
  · exact .inr (Except.ok.inj h).symm

theorem decideApproval_command (req : Proto.DecideApprovalRequest) (cmd : JournalCommand)
    (h : (PolicyService.decideApproval req).command = some cmd) :
    ∃ approver decision, req.approver = some approver ∧
      PolicyService.parseDecision req.decision = .ok decision ∧
      cmd = .DecideApproval req.approvalId (PolicyService.protoToIdentity approver) decision := by
  simp only [PolicyService.decideApproval] at h
  cases happrover : req.approver with
  | none => simp [happrover, Handler.command] at h
  | some approver =>
    cases hdecision : PolicyService.parseDecision req.decision with
    | error status => simp [happrover, hdecision, Handler.command] at h
    | ok decision =>
      simp only [happrover, hdecision, Handler.command, Option.some.injEq] at h
      exact ⟨approver, decision, rfl, rfl, h.symm⟩

section Served

variable (platform : Platform) (opaClient : Option PolicyService.OpaClient)

theorem rpc_command_cases (s : JournalState) (now : DateTime) (rpc : Rpc) (cmd : JournalCommand)
    (hcmd : rpc.command platform opaClient s now = some cmd) :
    (∃ entry, cmd = .AppendEntry entry) ∨
    (∃ vclusterId policy, cmd = .SetPolicy vclusterId policy) ∨
    (∃ approvalId request, rpc = .Evaluate approvalId request ∧
      (∃ token, bearerToken request.authorization = some token) ∧
      cmd = .CreateApproval (PolicyService.newApproval request.body approvalId now)) ∨
    ∃ request approver decision, rpc = .DecideApproval request ∧
      (∃ token, bearerToken request.authorization = some token) ∧
      request.body.approver = some approver ∧
      PolicyService.parseDecision request.body.decision = .ok decision ∧
      cmd = .DecideApproval request.body.approvalId (PolicyService.protoToIdentity approver)
        decision := by
  cases rpc with
  | AppendEntry request =>
    obtain ⟨_, h⟩ := intercepted_command _ request cmd hcmd
    obtain ⟨_, entry, _, _, rfl⟩ := appendEntry_command now request.body cmd h
    exact .inl ⟨entry, rfl⟩
  | UpdatePolicy request =>
    obtain ⟨_, h⟩ := intercepted_command _ request cmd hcmd
    obtain ⟨policy, _, rfl⟩ := updatePolicy_command platform request.body cmd h
    exact .inr (.inl ⟨_, _, rfl⟩)
  | Evaluate approvalId request =>
    obtain ⟨htoken, h⟩ := intercepted_command _ request cmd hcmd
    obtain rfl := evaluate_command opaClient s approvalId now request.body cmd h
    exact .inr (.inr (.inl ⟨approvalId, request, rfl, htoken, rfl⟩))
  | DecideApproval request =>
    obtain ⟨htoken, h⟩ := intercepted_command _ request cmd hcmd
    obtain ⟨approver, decision, happrover, hdecision, rfl⟩ :=
      decideApproval_command request.body cmd h
    exact .inr (.inr (.inr ⟨request, approver, decision, rfl, htoken, happrover, hdecision, rfl⟩))

theorem rpc_filedPending (s : JournalState) (now : DateTime) (rpc : Rpc)
    (approval : PendingApproval)
    (hcmd : rpc.command platform opaClient s now = some (.CreateApproval approval)) :
    approval.status = .Pending := by
  rcases rpc_command_cases platform opaClient s now rpc _ hcmd with
    ⟨_, h⟩ | ⟨_, _, h⟩ | ⟨_, _, _, _, h⟩ | ⟨_, _, _, _, _, _, _, h⟩
  · cases h
  · cases h
  · rw [JournalCommand.CreateApproval.inj h]
    rfl
  · cases h

theorem serverNext_cases (server after : Server) (step : ServerStep)
    (h : serverNext platform opaClient server step = some after) :
    (∃ now rpc, step = .Receive now rpc ∧ after = server) ∨
    (∃ now rpc cmd, step = .Receive now rpc ∧
      rpc.command platform opaClient server.journal now = some cmd ∧
      after = { server with submissions := server.submissions ++ [⟨rpc, cmd⟩] }) ∨
    (∃ now index submission, step = .Commit now index ∧
      server.submissions[index]? = some submission ∧
      after = ⟨(apply platform now server.journal submission.cmd).1,
        server.submissions.eraseIdx index⟩) ∨
    (∃ index, step = .Lose index ∧
      after = { server with submissions := server.submissions.eraseIdx index }) ∨
    ∃ now cmd, step = .Background now cmd ∧ isBackground cmd = true ∧
      after = { server with journal := (apply platform now server.journal cmd).1 } := by
  cases step with
  | Receive now rpc =>
    cases hcmd : rpc.command platform opaClient server.journal now with
    | none =>
      simp only [serverNext, hcmd, Option.some.injEq] at h
      exact .inl ⟨now, rpc, rfl, h.symm⟩
    | some cmd =>
      simp only [serverNext, hcmd, Option.some.injEq] at h
      exact .inr (.inl ⟨now, rpc, cmd, rfl, hcmd, h.symm⟩)
  | Commit now index =>
    simp only [serverNext, Option.map_eq_some_iff] at h
    obtain ⟨submission, hget, rfl⟩ := h
    exact .inr (.inr (.inl ⟨now, index, submission, rfl, hget, rfl⟩))
  | Lose index =>
    simp only [serverNext] at h
    split_ifs at h
    exact .inr (.inr (.inr (.inl ⟨index, rfl, (Option.some.inj h).symm⟩)))
  | Background now cmd =>
    simp only [serverNext] at h
    split_ifs at h with hback
    exact .inr (.inr (.inr (.inr ⟨now, cmd, rfl, hback, (Option.some.inj h).symm⟩)))

end Served

end Pact.Journal
