import Pact.Journal.Ca.Theorems
import Pact.Journal.EnrollmentService.Theorems

namespace Pact.Journal.EnrollmentService

open Pact.Library Pact.Common Pact.Journal.Ca

section Renewal

variable (platform : Platform) (config : Config) (library : CertificateLibrary) (ca : CaKeyManager)
  (signing : SignDraw) (draw : Draw) (consensus : Consensus) (s later : JournalState)

-- A renew_cert call, with the lookup in one journal and the write in a later one.
def renewThrough (found : Option NodeId) (request : Request Proto.RenewCertRequest) :
    JournalState × Call :=
  match renewCert config found request with
  | .SignRenewal nodeId csr =>
    (((Call.SignRenewal nodeId csr).sign (ca.signCsr platform library signing csr nodeId
      config.domainId)).getD (.SignRenewal nodeId csr)).write platform config draw consensus later
  | call => (later, call)

-- An agent or service that may act for the node; `owns` says which ones may.
def ActsFor (owns : Identity → NodeId → Prop) (identity : Identity) (nodeId : NodeId) : Prop :=
  (identity.principalType = .Agent ∨ identity.principalType = .Service) ∧ owns identity nodeId

-- What a renewal for the node takes: any valid token, the serial recorded for the node, a request
-- that can be signed and a write that comes through.
structure Renews (nodeId : NodeId) (request : Request Proto.RenewCertRequest)
    (identity : Identity) : Prop where
  authenticated : authenticate config request.authorization = .ok identity
  recorded : findsRenewable s request.body.currentCertSerial (some nodeId) = true
  signs : ∃ signed, ca.signCsr platform library signing request.body.csr nodeId config.domainId =
    .ok signed
  committed : ∃ now, consensus = .Committed now

-- All that renew_cert can do: refuse and leave the journal as it is, record a certificate that its
-- caller never gets, or record the one it answers with.
inductive RenewOutcome (found : Option NodeId) (request : Request Proto.RenewCertRequest) :
    JournalState × Call → Prop
  | Refused (status : Status)
      (hnot : ∀ nodeId identity signed, found = some nodeId →
        authenticate config request.authorization = .ok identity →
        ca.signCsr platform library signing request.body.csr nodeId config.domainId = .ok signed →
        consensus.applies = false) :
      RenewOutcome found request (later, .Finished (.Renewed (.error status)))
  | Unanswered (nodeId : NodeId) (identity : Identity) (signed : SignedCertResult) (now : DateTime)
      (error : String) (hfound : found = some nodeId)
      (hauth : authenticate config request.authorization = .ok identity)
      (hsigns : ca.signCsr platform library signing request.body.csr nodeId config.domainId =
        .ok signed)
      (hconsensus : consensus = .Failed error (some now)) :
      RenewOutcome found request
        ((apply platform now later
          (.UpdateNodeCert nodeId signed.certSerial signed.certExpiresAt)).1,
          .Finished (.Renewed (.error (raftFailed error))))
  | Granted (nodeId : NodeId) (identity : Identity) (signed : SignedCertResult) (now : DateTime)
      (hfound : found = some nodeId)
      (hauth : authenticate config request.authorization = .ok identity)
      (hsigns : ca.signCsr platform library signing request.body.csr nodeId config.domainId =
        .ok signed)
      (hconsensus : consensus = .Committed now) :
      RenewOutcome found request
        ((apply platform now later
          (.UpdateNodeCert nodeId signed.certSerial signed.certExpiresAt)).1,
          .Finished (.Renewed (.ok
            ⟨signed.certPem, signed.caChainPem, signed.certSerial, signed.certExpiresAt⟩)))

theorem renewThrough_outcome (found : Option NodeId) (request : Request Proto.RenewCertRequest) :
    RenewOutcome platform config library ca signing consensus later found request
      (renewThrough platform config library ca signing draw consensus later found request) := by
  cases hauth : authenticate config request.authorization with
  | error status =>
    simp only [renewThrough, renewCert, hauth]
    exact .Refused status fun nodeId identity signed _ hidentity => by
      rw [hauth] at hidentity
      cases hidentity
  | ok identity =>
    cases found with
    | none =>
      simp only [renewThrough, renewCert, hauth]
      exact .Refused _ fun nodeId caller signed hfound => by cases hfound
    | some nodeId =>
      cases hsign : ca.signCsr platform library signing request.body.csr nodeId
          config.domainId with
      | error error =>
        simp only [renewThrough, renewCert, hauth, hsign, Call.sign, Option.getD_some,
          Call.write, Call.command]
        refine .Refused _ ?_
        rintro other caller signed ⟨⟩ _ hsigned
        rw [hsign] at hsigned
        cases hsigned
      | ok signed =>
        simp only [renewThrough, renewCert, hauth, hsign, Call.sign, Option.getD_some,
          Call.write, Call.command]
        cases consensus with
        | Committed now => exact .Granted nodeId identity signed now rfl hauth hsign rfl
        | Failed error applied =>
          cases applied with
          | some now => exact .Unanswered nodeId identity signed now error rfl hauth hsign rfl
          | none => exact .Refused _ fun _ _ _ _ _ _ => rfl

theorem renewThrough_of_renews (nodeId : NodeId) (request : Request Proto.RenewCertRequest)
    (identity : Identity)
    (h : Renews platform config library ca signing consensus s nodeId request identity) :
    ∃ response, (renewThrough platform config library ca signing draw consensus later
      (some nodeId) request).2 = .Finished (.Renewed (.ok response)) := by
  obtain ⟨hauth, _, ⟨signed, hsign⟩, now, rfl⟩ := h
  have houtcome := renewThrough_outcome platform config library ca signing draw (.Committed now)
    later (some nodeId) request
  generalize renewThrough platform config library ca signing draw (.Committed now) later
    (some nodeId) request = result at houtcome ⊢
  cases houtcome with
  | Refused status hnot => cases hnot nodeId identity signed rfl hauth hsign
  | Unanswered _ _ _ _ _ _ _ _ hconsensus => cases hconsensus
  | Granted => exact ⟨_, rfl⟩

theorem renews_of_ok (nodeId : NodeId) (request : Request Proto.RenewCertRequest)
    (response : Proto.RenewCertResponse)
    (hfound : findsRenewable s request.body.currentCertSerial (some nodeId) = true)
    (h : (renewThrough platform config library ca signing draw consensus later (some nodeId)
      request).2 = .Finished (.Renewed (.ok response))) :
    ∃ identity, Renews platform config library ca signing consensus s nodeId request identity := by
  have houtcome := renewThrough_outcome platform config library ca signing draw consensus later
    (some nodeId) request
  generalize renewThrough platform config library ca signing draw consensus later (some nodeId)
    request = result at houtcome h
  cases houtcome with
  | Refused => cases h
  | Unanswered => cases h
  | Granted other identity signed now hother hauth hsigns hconsensus =>
    obtain rfl := Option.some.inj hother
    exact ⟨identity, hauth, hfound, ⟨signed, hsigns⟩, now, hconsensus⟩

theorem renewThrough_run (found : Option NodeId) (request : Request Proto.RenewCertRequest)
    (hfound : findsRenewable s request.body.currentCertSerial found = true) :
    ∃ steps, Run (next platform config) Unrestricted ⟨s, []⟩ steps
      ⟨(renewThrough platform config library ca signing draw consensus s found request).1,
        [(renewThrough platform config library ca signing draw consensus s found request).2]⟩ := by
  have harrive : next platform config ⟨s, []⟩ (.RenewCert found request) =
      some ⟨s, [renewCert config found request]⟩ := by
    simp [next, hfound, System.arrive]
  cases hcall : renewCert config found request with
  | SignRenewal nodeId csr =>
    rw [hcall] at harrive
    cases hsign : ca.signCsr platform library signing csr nodeId config.domainId with
    | error error =>
      refine ⟨[.RenewCert found request, .Sign 0 (.error error)],
        .cons trivial harrive (.single trivial ?_)⟩
      simp [next, renewThrough, hcall, Call.sign, hsign, Call.write, Call.command]
    | ok signed =>
      refine ⟨[.RenewCert found request, .Sign 0 (.ok signed), .Write 0 draw consensus],
        .cons trivial harrive (.cons trivial rfl (.single trivial ?_))⟩
      simp [next, renewThrough, hcall, Call.sign, hsign, Call.write, Call.command]
  | _ =>
    rw [hcall] at harrive
    refine ⟨[.RenewCert found request], ?_⟩
    simp only [renewThrough, hcall]
    exact .single trivial harrive

theorem renewable_of_record (nodeId : NodeId) (record : NodeEnrollment) (serial : String)
    (hget : s.enrollments.get nodeId = some record) (hserial : record.certSerial = some serial) :
    record.nodeId ∈ renewable s serial := by
  refine List.mem_map.mpr ⟨record, List.mem_filter.mpr ⟨?_, by simp [hserial]⟩, rfl⟩
  exact (Map.mem_values_iff s.enrollments record).mpr ⟨nodeId, hget⟩

theorem inspected_renewable (inspection : Request Proto.InspectNodeRequest)
    (response : Proto.InspectNodeResponse)
    (h : inspectNode platform config s inspection = .ok response)
    (hserial : response.certSerial ≠ "") :
    findsRenewable s response.certSerial (some response.nodeId) = true := by
  simp only [inspectNode] at h
  split at h
  · cases h
  · split at h
    · cases h
    · rename_i record hget
      split_ifs at h
      obtain rfl := Except.ok.inj h
      cases hcert : record.certSerial with
      | none => simp [hcert] at hserial
      | some serial =>
        simpa [findsRenewable, hcert] using renewable_of_record s _ record serial hget hcert

-- A renewal is by an identity that may act for the node exactly if no other one tries with the
-- serial, and inspect_node gives the serial away.
theorem renewal_by_owner_iff (owns : Identity → NodeId → Prop) (nodeId : NodeId)
    (request : Request Proto.RenewCertRequest) :
    ((findsRenewable s request.body.currentCertSerial (some nodeId) = true →
      ∀ response, (renewThrough platform config library ca signing draw consensus later
        (some nodeId) request).2 = .Finished (.Renewed (.ok response)) →
      ∃ identity, authenticate config request.authorization = .ok identity ∧
        ActsFor owns identity nodeId) ↔
    ¬∃ identity, Renews platform config library ca signing consensus s nodeId request identity ∧
      ¬ActsFor owns identity nodeId) ∧
    ∀ inspection response, inspectNode platform config s inspection = .ok response →
      response.certSerial ≠ "" →
      findsRenewable s response.certSerial (some response.nodeId) = true := by
  refine ⟨⟨?_, ?_⟩, inspected_renewable platform config s⟩
  · rintro howner ⟨identity, hrenews, hother⟩
    obtain ⟨response, hok⟩ := renewThrough_of_renews platform config library ca signing draw
      consensus s later nodeId request identity hrenews
    obtain ⟨caller, hauth, hacts⟩ := howner hrenews.recorded response hok
    rw [hrenews.authenticated] at hauth
    obtain rfl := Except.ok.inj hauth
    exact hother hacts
  · intro hnone hfound response hok
    obtain ⟨identity, hrenews⟩ := renews_of_ok platform config library ca signing draw consensus s
      later nodeId request response hfound hok
    refine ⟨identity, hrenews.authenticated, ?_⟩
    by_contra hother
    exact hnone ⟨identity, hrenews, hother⟩

end Renewal

def viewerConfig : Config where
  domainId := "default"
  validate token :=
    if token = "viewer-token" then .ok ⟨"eve", .Human, "pact-viewer-ml"⟩ else .error "unknown token"

def assignedNode : JournalState :=
  (replay .ascii .default [⟨0, .RegisterNode (.sample "node-1" "aa:bb:cc:dd:ee:ff")⟩,
    ⟨0, .AssignNodeToVCluster "node-1" "ml"⟩,
    ⟨0, .ActivateNode "node-1" "serial-1" "1970-01-04T00:00:00Z"⟩]).1

-- A viewer inspects a node, and renews its certificate with a key of their own.
theorem viewer_renews_certificate :
    (inspectNode .ascii viewerConfig assignedNode
      ⟨some (.Text "Bearer viewer-token"), ⟨"node-1"⟩⟩).map (fun response =>
        (response.nodeId, response.certSerial)) = .ok ("node-1", "serial-1") ∧
    findsRenewable assignedNode "serial-1" (some "node-1") = true ∧
    (renewThrough printingPlatform viewerConfig sampleLibrary sampleCa sampleDraw ⟨0, ""⟩
      (.Committed 0) assignedNode (some "node-1")
      ⟨some (.Text "Bearer viewer-token"), ⟨"serial-1", [1]⟩⟩).2 =
        .Finished (.Renewed (.ok ⟨sampleSigned.certPem, sampleSigned.caChainPem,
          sampleSigned.certSerial, sampleSigned.certExpiresAt⟩)) ∧
    ∀ owns identity, authenticate viewerConfig (some (.Text "Bearer viewer-token")) =
      .ok identity → ¬ActsFor owns identity "node-1" := by
  refine ⟨by decide +kernel, by decide +kernel, by decide +kernel, ?_⟩
  rintro owns identity hauth ⟨hagent, _⟩
  have hhuman : authenticate viewerConfig (some (.Text "Bearer viewer-token")) =
      .ok ⟨"eve", .Human, "pact-viewer-ml"⟩ := by decide +kernel
  rw [hhuman] at hauth
  obtain rfl := Except.ok.inj hauth
  simp at hagent

end Pact.Journal.EnrollmentService
