import Pact.Journal.EnrollmentService

namespace Pact.Journal.Ca

open Pact.Library Pact.Common Pact.Journal.EnrollmentService

inductive DnType
  | CountryName
  | LocalityName
  | StateOrProvinceName
  | OrganizationName
  | OrganizationalUnitName
  | CommonName
  | CustomDnType (oid : List Nat)
  deriving DecidableEq

-- The attributes of a name in the order they were added.
abbrev DistinguishedName := List (DnType × String)

inductive SanType
  | Rfc822Name (name : String)
  | DnsName (name : String)
  | Uri (uri : String)
  | IpAddress (octets : List UInt8)
  | OtherName (oid : List Nat) (value : String)
  deriving DecidableEq

inductive BasicConstraints
  | Unconstrained
  | Constrained (pathLength : UInt8)
  deriving DecidableEq

inductive IsCa
  | NoCa
  | ExplicitNoCa
  | Authority (constraints : BasicConstraints)
  deriving DecidableEq

inductive KeyUsagePurpose
  | DigitalSignature
  | ContentCommitment
  | KeyEncipherment
  | DataEncipherment
  | KeyAgreement
  | KeyCertSign
  | CrlSign
  | EncipherOnly
  | DecipherOnly
  deriving DecidableEq

inductive ExtendedKeyUsagePurpose
  | Any
  | ServerAuth
  | ClientAuth
  | CodeSigning
  | EmailProtection
  | TimeStamping
  | OcspSigning
  | Other (oid : List Nat)
  deriving DecidableEq

structure CertificateParams where
  notAfter : DateTime
  serialNumber : Option (List UInt8)
  subjectAltNames : List SanType
  distinguishedName : DistinguishedName
  isCa : IsCa
  keyUsages : List KeyUsagePurpose
  extendedKeyUsages : List ExtendedKeyUsagePurpose
  deriving DecidableEq

structure PublicKey where
  der : List UInt8
  deriving DecidableEq

structure CertificateSigningRequestParams where
  params : CertificateParams
  publicKey : PublicKey
  deriving DecidableEq

structure Certificate where
  serialNumber : List UInt8
  notAfter : DateTime
  subject : DistinguishedName
  subjectAltNames : List SanType
  isCa : IsCa
  keyUsages : List KeyUsagePurpose
  extendedKeyUsages : List ExtendedKeyUsagePurpose
  publicKey : PublicKey
  deriving DecidableEq

-- The certificate library. A name has one value for each type. A request has no place for a
-- serial or an end of validity, so parsed parameters leave the first unset and have the default of
-- the second. A certificate has the parameters as given, and a serial of the library where none is
-- given.
structure CertificateLibrary where
  default : CertificateParams
  get : DnType → DistinguishedName → Option String
  push : DnType → String → DistinguishedName → DistinguishedName
  fromDer : List UInt8 → Except String CertificateSigningRequestParams
  serialOf : PublicKey → List UInt8
  signedBy : CertificateParams → PublicKey → Except String Certificate
  pem : Certificate → String
  default_serial : default.serialNumber = none
  get_push : ∀ ty value dn other,
    get other (push ty value dn) = if other = ty then some value else get other dn
  fromDer_unset : ∀ der csr, fromDer der = .ok csr →
    csr.params.serialNumber = none ∧ csr.params.notAfter = default.notAfter
  signedBy_ok : ∀ params publicKey certificate, signedBy params publicKey = .ok certificate →
    certificate = ⟨params.serialNumber.getD (serialOf publicKey), params.notAfter,
      params.distinguishedName, params.subjectAltNames, params.isCa, params.keyUsages,
      params.extendedKeyUsages, publicKey⟩

structure CaKeyManager where
  caCertPem : String
  certLifetimeSeconds : Nat

-- What signing draws: the random id, a fresh key pair where one is made, and the clock.
structure SignDraw where
  serialUuid : List UInt8
  nodeKey : Except String PublicKey
  now : DateTime

def hexDigits : List Char :=
  ['0', '1', '2', '3', '4', '5', '6', '7', '8', '9', 'a', 'b', 'c', 'd', 'e', 'f']

def hexByte (byte : UInt8) : List Char :=
  [hexDigits.getD (byte.toNat / 16) '0', hexDigits.getD (byte.toNat % 16) '0']

-- The hyphenated text of a random id, groups of 4, 2, 2, 2 and the remaining bytes.
def uuidText (bytes : List UInt8) : String :=
  join "-" ([bytes.take 4, (bytes.drop 4).take 2, (bytes.drop 6).take 2, (bytes.drop 8).take 2,
    bytes.drop 10].map fun group => String.ofList (group.flatMap hexByte))

def commonName (nodeId : NodeId) (domainId : DomainId) : String :=
  "pact-service-agent/" ++ nodeId ++ "@" ++ domainId

def CertificateLibrary.withIdentity (library : CertificateLibrary) (params : CertificateParams)
    (nodeId : NodeId) (domainId : DomainId) : CertificateParams :=
  { params with
    distinguishedName := library.push .CommonName (commonName nodeId domainId)
      params.distinguishedName }

def CertificateLibrary.certify (library : CertificateLibrary) (params : CertificateParams)
    (publicKey : PublicKey) : Except String Certificate :=
  match library.signedBy params publicKey with
  | .error error => .error ("certificate signing failed: " ++ error)
  | .ok certificate => .ok certificate

-- The part of sign_csr that makes the certificate.
def issue (library : CertificateLibrary) (draw : SignDraw) (csrDer : List UInt8) (nodeId : NodeId)
    (domainId : DomainId) : Except String Certificate :=
  if csrDer = [] then
    match draw.nodeKey with
    | .error error => .error ("keypair generation failed: " ++ error)
    | .ok nodeKey => library.certify (library.withIdentity library.default nodeId domainId) nodeKey
  else
    match library.fromDer csrDer with
    | .error error => .error ("CSR parsing failed: " ++ error)
    | .ok csr => library.certify (library.withIdentity csr.params nodeId domainId) csr.publicKey

def CaKeyManager.signCsr (platform : Platform) (library : CertificateLibrary) (ca : CaKeyManager)
    (draw : SignDraw) (csrDer : List UInt8) (nodeId : NodeId) (domainId : DomainId) :
    Except String SignedCertResult :=
  match issue library draw csrDer nodeId domainId with
  | .error error => .error error
  | .ok certificate => .ok
      { certPem := library.pem certificate
        caChainPem := ca.caCertPem
        certSerial := uuidText draw.serialUuid
        certExpiresAt :=
          platform.toRfc3339 (draw.now + DateTime.seconds ca.certLifetimeSeconds) }

end Pact.Journal.Ca
