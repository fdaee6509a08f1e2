import Pact.Journal.Ca

namespace Pact.Journal.Ca

open Pact.Library Pact.Common Pact.Journal.EnrollmentService

section Issue

variable (platform : Platform) (library : CertificateLibrary) (ca : CaKeyManager)

-- The parameters a request asks for; without a request, those of the library.
def requestedParams (csrDer : List UInt8) : Option CertificateParams :=
  if csrDer = [] then some library.default
  else (library.fromDer csrDer).toOption.map CertificateSigningRequestParams.params

-- The key that is certified: the one in the request, or a fresh one.
def certifiedKey (draw : SignDraw) (csrDer : List UInt8) : Option PublicKey :=
  if csrDer = [] then draw.nodeKey.toOption
  else (library.fromDer csrDer).toOption.map CertificateSigningRequestParams.publicKey

theorem certify_ok (params : CertificateParams) (key : PublicKey) (certificate : Certificate)
    (h : library.certify params key = .ok certificate) :
    certificate = ⟨params.serialNumber.getD (library.serialOf key), params.notAfter,
      params.distinguishedName, params.subjectAltNames, params.isCa, params.keyUsages,
      params.extendedKeyUsages, key⟩ := by
  unfold CertificateLibrary.certify at h
  split at h
  · cases h
  · rename_i signed hsigned
    cases h
    exact library.signedBy_ok params key certificate hsigned

-- A certificate is made from the requested parameters, of which it replaces the common name only.
theorem issue_ok (draw : SignDraw) (csrDer : List UInt8) (nodeId : NodeId) (domainId : DomainId)
    (certificate : Certificate) (h : issue library draw csrDer nodeId domainId = .ok certificate) :
    ∃ params key, requestedParams library csrDer = some params ∧
      certifiedKey library draw csrDer = some key ∧
      certificate = ⟨library.serialOf key, library.default.notAfter,
        library.push .CommonName (commonName nodeId domainId) params.distinguishedName,
        params.subjectAltNames, params.isCa, params.keyUsages, params.extendedKeyUsages, key⟩ := by
  simp only [issue] at h
  split_ifs at h with hempty
  · split at h
    · cases h
    · rename_i key hkey
      refine ⟨library.default, key, if_pos hempty, ?_, ?_⟩
      · rw [certifiedKey, if_pos hempty, hkey]
        rfl
      · rw [certify_ok library _ key certificate h]
        simp [CertificateLibrary.withIdentity, library.default_serial]
  · split at h
    · cases h
    · rename_i csr hcsr
      obtain ⟨hserial, hnotAfter⟩ := library.fromDer_unset csrDer csr hcsr
      refine ⟨csr.params, csr.publicKey, ?_, ?_, ?_⟩
      · rw [requestedParams, if_neg hempty, hcsr]
        rfl
      · rw [certifiedKey, if_neg hempty, hcsr]
        rfl
      · rw [certify_ok library _ csr.publicKey certificate h]
        simp [CertificateLibrary.withIdentity, hserial, hnotAfter]

theorem signCsr_ok (draw : SignDraw) (csrDer : List UInt8) (nodeId : NodeId) (domainId : DomainId)
    (signed : SignedCertResult)
    (h : ca.signCsr platform library draw csrDer nodeId domainId = .ok signed) :
    ∃ certificate, issue library draw csrDer nodeId domainId = .ok certificate ∧
      signed = ⟨library.pem certificate, ca.caCertPem, uuidText draw.serialUuid,
        platform.toRfc3339 (draw.now + DateTime.seconds ca.certLifetimeSeconds)⟩ := by
  simp only [CaKeyManager.signCsr] at h
  split at h
  · cases h
  · rename_i certificate hissue
    exact ⟨certificate, hissue, (Except.ok.inj h).symm⟩

def Certificate.Matches (certificate : Certificate) (certSerial certExpiresAt : String) : Prop :=
  uuidText certificate.serialNumber = certSerial ∧
    platform.toRfc3339 certificate.notAfter = certExpiresAt

-- The random id happens to be the serial that the library derives from the key, and the
-- configured lifetime happens to end when certificates of the library do.
def Coincides (draw : SignDraw) (csrDer : List UInt8) : Prop :=
  (∃ key, certifiedKey library draw csrDer = some key ∧
    uuidText (library.serialOf key) = uuidText draw.serialUuid) ∧
  platform.toRfc3339 library.default.notAfter =
    platform.toRfc3339 (draw.now + DateTime.seconds ca.certLifetimeSeconds)

-- Enroll and renew_cert record the serial and the expiry that come with the certificate, which
-- are its own exactly by coincidence.
theorem recorded_certificate_iff (draw : SignDraw) (csrDer : List UInt8) (nodeId : NodeId)
    (domainId : DomainId) (signed : SignedCertResult)
    (h : ca.signCsr platform library draw csrDer nodeId domainId = .ok signed) :
    ∃ certificate, issue library draw csrDer nodeId domainId = .ok certificate ∧
      signed.certPem = library.pem certificate ∧
      (certificate.Matches platform signed.certSerial signed.certExpiresAt ↔
        Coincides platform library ca draw csrDer) ∧
      (∀ vclusterId, ((Call.SignEnrollment nodeId csrDer vclusterId).sign (.ok signed)).bind
        Call.command = some (.UpdateNodeCert nodeId signed.certSerial signed.certExpiresAt)) ∧
      ((Call.SignRenewal nodeId csrDer).sign (.ok signed)).bind Call.command =
        some (.UpdateNodeCert nodeId signed.certSerial signed.certExpiresAt) := by
  obtain ⟨certificate, hissue, rfl⟩ := signCsr_ok platform library ca draw csrDer nodeId domainId
    signed h
  refine ⟨certificate, hissue, rfl, ?_, fun _ => rfl, rfl⟩
  obtain ⟨params, key, _, hkey, rfl⟩ := issue_ok library draw csrDer nodeId domainId certificate
    hissue
  simp [Certificate.Matches, Coincides, hkey]

-- The two certificates name the same subject and may be used for the same purposes.
structure SameIdentity (first second : Certificate) : Prop where
  subject : ∀ ty, library.get ty first.subject = library.get ty second.subject
  subjectAltNames : first.subjectAltNames = second.subjectAltNames
  keyUsages : first.keyUsages = second.keyUsages
  extendedKeyUsages : first.extendedKeyUsages = second.extendedKeyUsages
  isCa : first.isCa = second.isCa

-- The two requests ask for the same names, apart from the common name, and the same purposes.
structure SameRequest (first second : CertificateParams) : Prop where
  names : ∀ ty, ty ≠ .CommonName →
    library.get ty first.distinguishedName = library.get ty second.distinguishedName
  subjectAltNames : first.subjectAltNames = second.subjectAltNames
  keyUsages : first.keyUsages = second.keyUsages
  extendedKeyUsages : first.extendedKeyUsages = second.extendedKeyUsages
  isCa : first.isCa = second.isCa

-- All that a request asks for beside the common name ends up in the certificate.
theorem issued_identity_iff (draw other : SignDraw) (csrDer otherDer : List UInt8)
    (nodeId : NodeId) (domainId : DomainId) (first second : Certificate)
    (hfirst : issue library draw csrDer nodeId domainId = .ok first)
    (hsecond : issue library other otherDer nodeId domainId = .ok second) :
    SameIdentity library first second ↔
      ∃ params others, requestedParams library csrDer = some params ∧
        requestedParams library otherDer = some others ∧ SameRequest library params others := by
  obtain ⟨params, key, hparams, _, rfl⟩ := issue_ok library draw csrDer nodeId domainId first hfirst
  obtain ⟨others, _, hothers, _, rfl⟩ := issue_ok library other otherDer nodeId domainId second
    hsecond
  have hnames : (∀ ty, library.get ty (library.push .CommonName (commonName nodeId domainId)
        params.distinguishedName) = library.get ty (library.push .CommonName
        (commonName nodeId domainId) others.distinguishedName)) ↔
      ∀ ty, ty ≠ .CommonName →
        library.get ty params.distinguishedName = library.get ty others.distinguishedName := by
    simp only [library.get_push]
    constructor
    · intro hall ty hty
      simpa [hty] using hall ty
    · intro hall ty
      split_ifs with hty
      · rfl
      · exact hall ty hty
  constructor
  · intro h
    exact ⟨params, others, hparams, hothers, hnames.mp h.subject, h.subjectAltNames, h.keyUsages,
      h.extendedKeyUsages, h.isCa⟩
  · rintro ⟨asked, askedOther, hasked, haskedOther, h⟩
    obtain rfl := Option.some.inj (hparams.symm.trans hasked)
    obtain rfl := Option.some.inj (hothers.symm.trans haskedOther)
    exact ⟨hnames.mpr h.names, h.subjectAltNames, h.keyUsages, h.extendedKeyUsages, h.isCa⟩

theorem signed_identity_iff (draw other : SignDraw) (csrDer otherDer : List UInt8)
    (nodeId : NodeId) (domainId : DomainId) (signed signedOther : SignedCertResult)
    (h : ca.signCsr platform library draw csrDer nodeId domainId = .ok signed)
    (hother : ca.signCsr platform library other otherDer nodeId domainId = .ok signedOther) :
    ∃ first second, issue library draw csrDer nodeId domainId = .ok first ∧
      issue library other otherDer nodeId domainId = .ok second ∧
      signed.certPem = library.pem first ∧ signedOther.certPem = library.pem second ∧
      (SameIdentity library first second ↔
        ∃ params others, requestedParams library csrDer = some params ∧
          requestedParams library otherDer = some others ∧ SameRequest library params others) := by
  obtain ⟨first, hfirst, rfl⟩ := signCsr_ok platform library ca draw csrDer nodeId domainId signed h
  obtain ⟨second, hsecond, rfl⟩ := signCsr_ok platform library ca other otherDer nodeId domainId
    signedOther hother
  exact ⟨first, second, hfirst, hsecond, rfl, rfl,
    issued_identity_iff library draw other csrDer otherDer nodeId domainId first second hfirst
      hsecond⟩

end Issue

def printingPlatform : Platform :=
  { Platform.ascii with
    toRfc3339 := fun time =>
      if time = DateTime.hours 72 then "1970-01-04T00:00:00+00:00" else "4096-01-01T00:00:00+00:00" }

def sampleDefault : CertificateParams where
  notAfter := DateTime.hours (776506 * 24)
  serialNumber := none
  subjectAltNames := []
  distinguishedName := [(.CommonName, "rcgen self signed cert")]
  isCa := .NoCa
  keyUsages := []
  extendedKeyUsages := []

-- A request like those of the agent, and one that asks for the name of another host.
def sampleRequest (der : List UInt8) : Except String CertificateSigningRequestParams :=
  if der = [1] then .ok ⟨sampleDefault, ⟨[1]⟩⟩
  else if der = [2] then
    .ok ⟨{ sampleDefault with
        distinguishedName := [(.OrganizationName, "pact-journal"), (.CommonName, "node-2")]
        subjectAltNames := [.DnsName "node-2"]
        keyUsages := [.KeyCertSign] }, ⟨[2]⟩⟩
  else .error "invalid request"

theorem get_push_filter (ty : DnType) (value : String) (dn : DistinguishedName) (other : DnType) :
    ((dn.filter (fun entry => entry.1 ≠ ty) ++ [(ty, value)]).find? fun entry =>
        entry.1 = other).map Prod.snd =
      if other = ty then some value else (dn.find? fun entry => entry.1 = other).map Prod.snd := by
  split_ifs with hother
  · subst hother
    have hnone : (dn.filter fun entry => entry.1 ≠ other).find? (fun entry => entry.1 = other) =
        none := by
      simp
    rw [List.find?_append, hnone]
    simp
  · have hkept : (dn.filter fun entry => entry.1 ≠ ty).find? (fun entry => entry.1 = other) =
        dn.find? fun entry => entry.1 = other := by
      rw [List.find?_filter]
      congr 1
      funext entry
      by_cases hentry : entry.1 = other <;> simp [hentry, hother]
    rw [List.find?_append, hkept]
    simp [Ne.symm hother]

def sampleLibrary : CertificateLibrary where
  default := sampleDefault
  get ty dn := (dn.find? fun entry => entry.1 = ty).map Prod.snd
  push ty value dn := dn.filter (fun entry => entry.1 ≠ ty) ++ [(ty, value)]
  fromDer := sampleRequest
  serialOf key := List.replicate 20 (key.der.headD 0)
  signedBy params key := .ok ⟨params.serialNumber.getD (List.replicate 20 (key.der.headD 0)),
    params.notAfter, params.distinguishedName, params.subjectAltNames, params.isCa, params.keyUsages,
    params.extendedKeyUsages, key⟩
  pem certificate := uuidText certificate.serialNumber
  default_serial := rfl
  get_push := get_push_filter
  signedBy_ok _ _ _ h := (Except.ok.inj h).symm
  fromDer_unset der csr h := by
    unfold sampleRequest at h
    split_ifs at h <;> obtain rfl := Except.ok.inj h <;> exact ⟨rfl, rfl⟩

def sampleCa : CaKeyManager := ⟨"ca", 259200⟩

def sampleDraw : SignDraw :=
  ⟨[0, 1, 2, 3, 4, 5, 70, 7, 136, 9, 10, 11, 12, 13, 14, 15], .ok ⟨[3]⟩, 0⟩

def sampleSigned : SignedCertResult where
  certPem := "01010101-0101-0101-0101-01010101010101010101"
  caChainPem := "ca"
  certSerial := "00010203-0405-4607-8809-0a0b0c0d0e0f"
  certExpiresAt := "1970-01-04T00:00:00+00:00"

theorem recorded_certificate_not_by_coincidence :
    ∃ certificate, issue sampleLibrary sampleDraw [1] "node-1" "default" = .ok certificate ∧
      ¬certificate.Matches printingPlatform sampleSigned.certSerial sampleSigned.certExpiresAt := by
  obtain ⟨certificate, hissue, _, hmatches, _⟩ := recorded_certificate_iff printingPlatform
    sampleLibrary sampleCa sampleDraw [1] "node-1" "default" sampleSigned (by decide +kernel)
  refine ⟨certificate, hissue, ?_⟩
  rw [hmatches]
  rintro ⟨_, hexpires⟩
  revert hexpires
  decide

-- With and without a request, the result names one serial and one expiry and the certificate
-- carries others.
theorem recorded_serial_not_of_certificate :
    sampleCa.signCsr printingPlatform sampleLibrary sampleDraw [1] "node-1" "default" =
      .ok sampleSigned ∧
    (issue sampleLibrary sampleDraw [1] "node-1" "default").map (fun certificate =>
      (uuidText certificate.serialNumber, printingPlatform.toRfc3339 certificate.notAfter)) =
      .ok ("01010101-0101-0101-0101-01010101010101010101", "4096-01-01T00:00:00+00:00") ∧
    (sampleCa.signCsr printingPlatform sampleLibrary sampleDraw [] "node-1" "default").map
      (fun signed => (signed.certSerial, signed.certExpiresAt)) =
      .ok (sampleSigned.certSerial, sampleSigned.certExpiresAt) ∧
    (issue sampleLibrary sampleDraw [] "node-1" "default").map (fun certificate =>
      (uuidText certificate.serialNumber, printingPlatform.toRfc3339 certificate.notAfter)) =
      .ok ("03030303-0303-0303-0303-03030303030303030303", "4096-01-01T00:00:00+00:00") := by
  refine ⟨by decide +kernel, by decide +kernel, by decide +kernel, by decide +kernel⟩

def sampleSignedOther : SignedCertResult :=
  { sampleSigned with certPem := "02020202-0202-0202-0202-02020202020202020202" }

theorem signed_identity_follows_request :
    ∃ first second, issue sampleLibrary sampleDraw [1] "node-1" "default" = .ok first ∧
      issue sampleLibrary sampleDraw [2] "node-1" "default" = .ok second ∧
      ¬SameIdentity sampleLibrary first second := by
  obtain ⟨first, second, hfirst, hsecond, _, _, hsame⟩ := signed_identity_iff printingPlatform
    sampleLibrary sampleCa sampleDraw sampleDraw [1] [2] "node-1" "default" sampleSigned
    sampleSignedOther (by decide +kernel) (by decide +kernel)
  refine ⟨first, second, hfirst, hsecond, ?_⟩
  rw [hsame]
  rintro ⟨params, others, hparams, hothers, hrequest⟩
  obtain rfl : sampleDefault = params := Option.some.inj hparams
  obtain rfl := Option.some.inj hothers
  exact absurd hrequest.subjectAltNames (by decide)

-- For the same node, a request obtains a certificate with the host name of another node, a
-- foreign organization and the right to sign certificates.
theorem request_chooses_identity :
    (sampleCa.signCsr printingPlatform sampleLibrary sampleDraw [1] "node-1" "default").isOk ∧
    (sampleCa.signCsr printingPlatform sampleLibrary sampleDraw [2] "node-1" "default").isOk ∧
    (issue sampleLibrary sampleDraw [1] "node-1" "default").map (fun certificate =>
      (certificate.subject, certificate.subjectAltNames, certificate.keyUsages)) =
      .ok ([(.CommonName, "pact-service-agent/node-1@default")], [], []) ∧
    (issue sampleLibrary sampleDraw [2] "node-1" "default").map (fun certificate =>
      (certificate.subject, certificate.subjectAltNames, certificate.keyUsages)) =
      .ok ([(.OrganizationName, "pact-journal"),
        (.CommonName, "pact-service-agent/node-1@default")], [.DnsName "node-2"],
        [.KeyCertSign]) := by
  refine ⟨by decide +kernel, by decide +kernel, by decide +kernel, by decide +kernel⟩

end Pact.Journal.Ca
