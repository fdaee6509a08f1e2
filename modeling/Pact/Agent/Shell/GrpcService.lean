import Pact.Agent.Shell.Theorems

namespace Pact.Agent.Shell

open Pact.Common Pact.Journal

def AuthError.text : AuthError → String
  | .MissingToken => "missing authorization metadata"
  | .InvalidFormat => "invalid Bearer token format"
  | .TokenExpired => "token expired"
  | .InvalidAudience expected => "invalid audience: expected " ++ expected
  | .InvalidIssuer expected => "invalid issuer: expected " ++ expected
  | .InvalidToken reason => "invalid token: " ++ reason
  | .NoSigningKey => "no signing key configured"
  | .JwksFetchError reason => "JWKS fetch error: " ++ reason
  | .InsufficientPrivileges reason => "insufficient privileges: " ++ reason

namespace GrpcService

def extractAuth : Option MetadataValue → Except Status String
  | some (.Text header) => .ok header
  | _ => .error ⟨.Unauthenticated, "missing authorization header"⟩

-- The checks that shell and collect_diag make before anything else.
def requireOps (world : World) (server : ShellServer) (denied : String)
    (authorization : Option MetadataValue) : Except Status Identity :=
  match extractAuth authorization with
  | .error status => .error status
  | .ok header =>
    match authenticate world server header with
    | .error error => .error ⟨.Unauthenticated, error.text⟩
    | .ok identity =>
      if hasOpsRole identity server.vclusterId then .ok identity
      else .error ⟨.PermissionDenied, denied⟩

def shellAdmission (world : World) (server : ShellServer) (authorization : Option MetadataValue) :
    Except Status Identity :=
  requireOps world server
    ("shell requires pact-ops-" ++ server.vclusterId ++ " or pact-platform-admin role") authorization

def collectDiagAdmission (world : World) (server : ShellServer)
    (authorization : Option MetadataValue) : Except Status Identity :=
  requireOps world server "diag requires pact-ops or pact-platform-admin role" authorization

-- The header is extracted and then dropped: neither the server nor the token is looked at.
def extendCommitWindow (now : DateTime) (authorization : Option MetadataValue)
    (additionalMinutes : UInt32) (window : CommitWindowManager) :
    CommitWindowManager × Except Status ExtendWindowResponse :=
  match extractAuth authorization with
  | .error status => (window, .error status)
  | .ok _ =>
    let (extended, response) := Pact.Agent.extendCommitWindow now additionalMinutes window
    (extended, .ok response)

def HasOpsRights (world : World) (server : ShellServer) (authorization : Option MetadataValue) :
    Prop :=
  ∃ header identity, authorization = some (.Text header) ∧
    Validates world server header identity ∧
    (identity.role = "pact-platform-admin" ∨ identity.role = "pact-ops-" ++ server.vclusterId)

theorem extractAuth_ok_iff (authorization : Option MetadataValue) (header : String) :
    extractAuth authorization = .ok header ↔ authorization = some (.Text header) := by
  unfold extractAuth
  split
  case h_1 text => simp
  case h_2 hother => simpa using fun h => hother header h

theorem requireOps_ok_iff (world : World) (server : ShellServer) (denied : String)
    (authorization : Option MetadataValue) :
    (∃ identity, requireOps world server denied authorization = .ok identity) ↔
      HasOpsRights world server authorization := by
  simp only [HasOpsRights, ← extractAuth_ok_iff, ← authenticate_ok_iff, ← hasOpsRole_iff]
  unfold requireOps
  cases extractAuth authorization with
  | error status => simp
  | ok header =>
    cases hidentity : authenticate world server header with
    | error error => simp [hidentity]
    | ok identity =>
      by_cases hrole : hasOpsRole identity server.vclusterId <;> simp [hidentity, hrole]

theorem extend_ne_iff (seconds : UInt32) (window : CommitWindowManager) :
    window.extend seconds ≠ window ↔
      seconds ≠ 0 ∧ ∃ openedAt deadline, window.state = .Open openedAt deadline := by
  obtain ⟨config, state, emergency⟩ := window
  cases state with
  | Idle => simp [CommitWindowManager.extend]
  | Expired openedAt expiredAt => simp [CommitWindowManager.extend]
  | Open openedAt deadline =>
    have hzero : seconds = 0 ↔ seconds.toNat = 0 := by rw [← UInt32.toNat_inj]; rfl
    simp [CommitWindowManager.extend, DateTime.seconds, hzero]

theorem extendCommitWindow_ne_iff (now : DateTime) (authorization : Option MetadataValue)
    (additionalMinutes : UInt32) (window : CommitWindowManager) :
    (extendCommitWindow now authorization additionalMinutes window).1 ≠ window ↔
      (∃ header, authorization = some (.Text header)) ∧ additionalMinutes * 60 ≠ 0 ∧
        ∃ openedAt deadline, window.state = .Open openedAt deadline := by
  simp only [← extractAuth_ok_iff, ← extend_ne_iff]
  unfold extendCommitWindow Pact.Agent.extendCommitWindow
  cases extractAuth authorization with
  | error status => simp
  | ok header =>
    by_cases hminutes : additionalMinutes = 0
    · have hsame : ¬window.extend 0 ≠ window := by simp [extend_ne_iff]
      simpa [hminutes] using hsame
    · simp [hminutes]

-- A request cannot change anything if it has no header that is text, if its minutes come to no
-- seconds in 32 bits, or if no window is open.
def Ineffective (authorization : Option MetadataValue) (additionalMinutes : UInt32)
    (window : CommitWindowManager) : Prop :=
  (∀ header, authorization ≠ some (.Text header)) ∨ additionalMinutes * 60 = 0 ∨
    ∀ openedAt deadline, window.state ≠ .Open openedAt deadline

-- A change of the window shows that the caller has the ops rights which shell and collect_diag
-- require exactly if the request carries them or could not change the window at all.
theorem extend_authorized_iff (world : World) (server : ShellServer)
    (authorization : Option MetadataValue) (additionalMinutes : UInt32)
    (window : CommitWindowManager) :
    (((extendCommitWindow world.now authorization additionalMinutes window).1 ≠ window →
        HasOpsRights world server authorization) ↔
      HasOpsRights world server authorization ∨
        Ineffective authorization additionalMinutes window) ∧
    ((∃ identity, shellAdmission world server authorization = .ok identity) ↔
      HasOpsRights world server authorization) ∧
    ((∃ identity, collectDiagAdmission world server authorization = .ok identity) ↔
      HasOpsRights world server authorization) := by
  refine ⟨?_, requireOps_ok_iff world server _ authorization,
    requireOps_ok_iff world server _ authorization⟩
  have hineffective : Ineffective authorization additionalMinutes window ↔
      ¬(extendCommitWindow world.now authorization additionalMinutes window).1 ≠ window := by
    simp only [extendCommitWindow_ne_iff, Ineffective, not_and_or, not_exists, not_not, ne_eq]
  rw [hineffective, imp_iff_not_or, or_comm]

def openedWindow : CommitWindowManager :=
  { sampleShared.window with state := .Open 0 (DateTime.seconds 600) }

-- Any text in the header moves the deadline, by an hour here. The same header is refused by shell.
theorem forged_header_extends :
    extendCommitWindow 0 (some (.Text "nonsense")) 60 openedWindow =
      ({ openedWindow with state := .Open 0 (DateTime.seconds 4200) }, .ok ⟨true, 4200, none⟩) ∧
    shellAdmission (sampleWorld .Outlives) sampleServer (some (.Text "nonsense")) =
      .error ⟨.Unauthenticated, "invalid Bearer token format"⟩ := by
  decide +kernel

end GrpcService

end Pact.Agent.Shell
