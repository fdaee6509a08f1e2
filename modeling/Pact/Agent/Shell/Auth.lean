import Pact.Common.Types
import Pact.Library.Text

namespace Pact.Agent.Shell

open Pact.Library Pact.Common

structure TokenClaims where
  sub : String
  pactRole : Option String
  pactPrincipalType : Option String
  deriving DecidableEq

structure AuthConfig where
  issuer : String
  audience : String
  hmacSecret : Option (List UInt8)
  deriving DecidableEq

inductive AuthError
  | MissingToken
  | InvalidFormat
  | TokenExpired
  | InvalidAudience (expected : String)
  | InvalidIssuer (expected : String)
  | InvalidToken (reason : String)
  | NoSigningKey
  | JwksFetchError (reason : String)
  | InsufficientPrivileges (reason : String)
  deriving DecidableEq

-- How the JWT library refuses a token.
inductive JwtError
  | ExpiredSignature
  | InvalidAudience
  | InvalidIssuer
  | Other (text : String)
  deriving DecidableEq

-- The JWT library: it decodes a token under a shared secret for one audience and one issuer,
-- and checks the expiry.
structure Jwt where
  decode : List UInt8 → String → String → String → Except JwtError TokenClaims

def extractBearerToken (metadataValue : String) : Option String :=
  stripPrefix metadataValue "Bearer " <|> stripPrefix metadataValue "bearer "

def mapJwtError (config : AuthConfig) : JwtError → AuthError
  | .ExpiredSignature => .TokenExpired
  | .InvalidAudience => .InvalidAudience config.audience
  | .InvalidIssuer => .InvalidIssuer config.issuer
  | .Other text => .InvalidToken text

def validateToken (jwt : Jwt) (token : String) (config : AuthConfig) :
    Except AuthError TokenClaims :=
  match config.hmacSecret with
  | none => .error .NoSigningKey
  | some secret =>
    match jwt.decode secret config.audience config.issuer token with
    | .ok claims => .ok claims
    | .error error => .error (mapJwtError config error)

-- A role of an unknown pattern is kept as it is.
def claimsToIdentity (claims : TokenClaims) : Identity where
  principal := claims.sub
  principalType :=
    if claims.pactPrincipalType = some "agent" then .Agent
    else if claims.pactPrincipalType = some "service" then .Service
    else .Human
  role := claims.pactRole.getD ""

def isPlatformAdmin (identity : Identity) : Bool := identity.role = "pact-platform-admin"

def hasOpsRole (identity : Identity) (vcluster : VClusterId) : Bool :=
  identity.role = "pact-platform-admin" ∨ identity.role = "pact-ops-" ++ vcluster

def hasViewerRole (identity : Identity) (vcluster : VClusterId) : Bool :=
  hasOpsRole identity vcluster ∨ identity.role = "pact-viewer-" ++ vcluster

end Pact.Agent.Shell
