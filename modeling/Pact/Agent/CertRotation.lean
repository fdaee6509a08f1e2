import Pact.Journal.EnrollmentService.Renewal

namespace Pact.Agent.CertRotation

open Pact.Library Pact.Common Pact.Journal Pact.Journal.EnrollmentService Pact.Journal.Ca

structure DualChannelManager where
  currentCertSerial : String
  certExpiresAt : String
  renewalBeforeExpirySeconds : Nat
  journalEndpoints : List String
  caCertPem : String
  currentKeyPem : String
  currentCertPem : String
  deriving DecidableEq

def DualChannelManager.shouldRenew (platform : Platform) (now : DateTime)
    (manager : DualChannelManager) : Bool :=
  if manager.certExpiresAt = "" then false
  else
    match platform.parseFromRfc3339 manager.certExpiresAt with
    | some expires =>
      Int.tdiv (expires - now) 1000000000 < (manager.renewalBeforeExpirySeconds : Int)
    | none => false

structure Credentials where
  caCertPem : String
  certPem : String
  keyPem : String
  deriving DecidableEq

-- How the transport behaves while one channel is built.
structure Dial where
  fromShared : String → Except String Unit
  tlsConfig : Credentials → Except String Unit
  connect : String → Credentials → Bool

def endpointUri (endpoint : String) : String :=
  if startsWith endpoint "http" then endpoint else "https://" ++ endpoint

def connectFirst (dial : Dial) (credentials : Credentials) : List String → Except String Unit
  | [] => .error "no reachable endpoint"
  | endpoint :: rest =>
    match dial.fromShared (endpointUri endpoint) with
    | .error error => .error ("invalid endpoint: " ++ error)
    | .ok () =>
      match dial.tlsConfig credentials with
      | .error error => .error ("TLS config error: " ++ error)
      | .ok () =>
        if dial.connect (endpointUri endpoint) credentials then .ok ()
        else connectFirst dial credentials rest

-- What becomes of the RenewCert call: it never reaches the journal, or the journal serves it and
-- its reply arrives or is lost.
inductive Rpc
  | Lost (error : String)
  | Served (found : Option NodeId) (signing : SignDraw) (draw : Draw) (consensus : Consensus)
      (lostReply : Option String)

structure Attempt where
  newKeyPem : Except String String
  csrDer : Except String (List UInt8)
  active : Dial
  rpc : Rpc
  passive : Dial

inductive RenewError
  | Failed (error : String)
  | Transport (error : String)
  | Rpc (status : Status)
  deriving DecidableEq

def renewalRequest (manager : DualChannelManager) (csrDer : List UInt8) :
    Request Proto.RenewCertRequest :=
  ⟨some (.Text "Bearer renewal-token"), ⟨manager.currentCertSerial, csrDer⟩⟩

section Renew

variable (platform : Platform) (config : Config) (library : CertificateLibrary) (ca : CaKeyManager)

def callRenewCert (journal : JournalState) (request : Request Proto.RenewCertRequest) :
    Rpc → JournalState × Except RenewError Proto.RenewCertResponse
  | .Lost error => (journal, .error (.Transport error))
  | .Served found signing draw consensus lostReply =>
    let (after, call) := renewThrough platform config library ca signing draw consensus journal
      found request
    match lostReply, call with
    | some error, _ => (after, .error (.Transport error))
    | none, .Finished (.Renewed (.ok response)) => (after, .ok response)
    | none, .Finished (.Renewed (.error status)) => (after, .error (.Rpc status))
    | none, _ => (after, .error (.Transport "no answer"))

structure Rotation where
  journal : JournalState
  manager : DualChannelManager
  deriving DecidableEq

-- The certificate in a response is text here, so it always decodes.
def renew (rotation : Rotation) (attempt : Attempt) : Rotation × Except RenewError Unit :=
  let manager := rotation.manager
  match attempt.newKeyPem with
  | .error error => (rotation, .error (.Failed ("keypair generation failed: " ++ error)))
  | .ok newKeyPem =>
    match attempt.csrDer with
    | .error error => (rotation, .error (.Failed ("CSR generation failed: " ++ error)))
    | .ok csrDer =>
      match connectFirst attempt.active
          ⟨manager.caCertPem, manager.currentCertPem, manager.currentKeyPem⟩
          manager.journalEndpoints with
      | .error error => (rotation, .error (.Failed error))
      | .ok () =>
        match callRenewCert platform config library ca rotation.journal
            (renewalRequest manager csrDer) attempt.rpc with
        | (journal, .error error) => (⟨journal, manager⟩, .error error)
        | (journal, .ok response) =>
          match connectFirst attempt.passive
              ⟨manager.caCertPem, response.signedCert, newKeyPem⟩
              manager.journalEndpoints with
          | .error error => (⟨journal, manager⟩, .error (.Failed error))
          | .ok () =>
            (⟨journal,
              { manager with
                currentCertSerial := response.certSerial
                certExpiresAt := response.certExpiresAt
                currentKeyPem := newKeyPem
                currentCertPem := response.signedCert }⟩, .ok ())

-- The journal finds what it holds under the serial that the agent sends.
def Attempt.possible (attempt : Attempt) (rotation : Rotation) : Bool :=
  match attempt.rpc with
  | .Served found _ _ _ _ =>
    findsRenewable rotation.journal rotation.manager.currentCertSerial found
  | .Lost _ => true

def rotationNext (rotation : Rotation) (attempt : Attempt) : Option Rotation :=
  if attempt.possible rotation then
    some (renew platform config library ca rotation attempt).1
  else none

-- One round of the renewal loop, which only logs how an attempt ended.
def loopNext (rotation : Rotation) (tick : DateTime × Attempt) : Option Rotation :=
  if rotation.manager.shouldRenew platform tick.1 then
    rotationNext platform config library ca rotation tick.2
  else some rotation

end Renew

end Pact.Agent.CertRotation
