import Pact.Agent.Shell.GrpcService
import Pact.Library.Lines

namespace Pact.Agent.Shell.Diag

open Pact.Library Pact.Common Pact.Journal

-- The line limit is an u32.
structure DiagRequest where
  sourceFilter : String
  serviceName : String
  grepPattern : String
  lineLimit : Nat
  deriving DecidableEq

structure DiagChunk where
  source : String
  lines : List String
  truncated : Bool
  deriving DecidableEq

set_option linter.dupNamespace false in
inductive SupervisorBackend
  | Pact
  | Systemd
  deriving DecidableEq

-- What a collection does on the node, in order.
inductive Access
  | ReadFile (path : String)
  | Run (command : String) (args : List String)
  deriving DecidableEq

-- How the node answers: the files that can be read as text, and what a command prints unless it
-- cannot be started, fails or takes too long.
structure Node where
  readToString : String → Option String
  run : String → List String → Except String String

structure RegexLibrary where
  compile : String → Except String (String → Bool)

def normalizeLineLimit (limit : Nat) : Nat := if limit = 0 then 100 else min limit 10000

def readLastNLines (content : String) (n : Nat) : List String :=
  let found := lines content
  if found.length ≤ n then found else found.drop (found.length - n)

def applyGrep (found : List String) : Option (String → Bool) → List String
  | none => found
  | some pattern => found.filter pattern

def tailChunk (source content : String) (limit : Nat) (grep : Option (String → Bool)) :
    DiagChunk where
  source := source
  lines := applyGrep (readLastNLines content limit) grep
  truncated := (lines content).length > limit

section Collectors

variable (node : Node) (limit : Nat) (grep : Option (String → Bool))

def collectDmesg : List Access × DiagChunk :=
  match node.readToString "/dev/kmsg" with
  | some content => ([.ReadFile "/dev/kmsg"], tailChunk "dmesg" content limit grep)
  | none =>
    let accesses := [.ReadFile "/dev/kmsg", .Run "dmesg" []]
    match node.run "dmesg" [] with
    | .ok output => (accesses, tailChunk "dmesg" output limit grep)
    | .error _ => (accesses, ⟨"dmesg", [], false⟩)

def collectSyslog : List Access × DiagChunk :=
  match node.readToString "/var/log/syslog" with
  | some content => ([.ReadFile "/var/log/syslog"], tailChunk "syslog" content limit grep)
  | none =>
    let accesses := [.ReadFile "/var/log/syslog", .ReadFile "/var/log/messages"]
    match node.readToString "/var/log/messages" with
    | some content => (accesses, tailChunk "syslog" content limit grep)
    | none => (accesses, ⟨"syslog", [], false⟩)

def serviceLog (service : String) : String := "/run/pact/logs/" ++ service ++ ".log"

def journalArgs (service : String) (limit : Nat) : List String :=
  ["-u", service, "--no-pager", "-n", toString limit]

-- What is printed for systemd is not cut again, and never counts as truncated unless there is
-- nothing printed at all.
def collectServiceLog (backend : SupervisorBackend) (service : String) : List Access × DiagChunk :=
  let source := "service:" ++ service
  match backend with
  | .Pact =>
    let accesses := [.ReadFile (serviceLog service)]
    match node.readToString (serviceLog service) with
    | some content => (accesses, tailChunk source content limit grep)
    | none => (accesses, ⟨source, [], false⟩)
  | .Systemd =>
    let accesses := [.Run "journalctl" (journalArgs service limit)]
    match node.run "journalctl" (journalArgs service limit) with
    | .ok content => (accesses, ⟨source, applyGrep (lines content) grep, false⟩)
    | .error _ => (accesses, ⟨source, [], true⟩)

end Collectors

def DiagRequest.wantsSystem (request : DiagRequest) : Bool :=
  request.sourceFilter = "system" ∨ request.sourceFilter = "all" ∨ request.sourceFilter = ""

def DiagRequest.wantsServices (request : DiagRequest) : Bool :=
  request.sourceFilter = "service" ∨ request.sourceFilter = "all" ∨ request.sourceFilter = ""

def DiagRequest.grep (regex : RegexLibrary) (request : DiagRequest) : Option (String → Bool) :=
  if request.grepPattern = "" then none else (regex.compile request.grepPattern).toOption

-- The services whose logs are collected: all that are declared, or the one that is named.
def DiagRequest.services (declared : List String) (request : DiagRequest) : List String :=
  if request.serviceName = "" then declared else [request.serviceName]

def collectDiag (node : Node) (regex : RegexLibrary) (request : DiagRequest)
    (backend : SupervisorBackend) (declared : List String) : List (List Access × DiagChunk) :=
  let limit := normalizeLineLimit request.lineLimit
  let grep := request.grep regex
  (if request.wantsSystem then [collectDmesg node limit grep, collectSyslog node limit grep]
    else []) ++
  (if request.wantsServices then
    (request.services declared).map (collectServiceLog node limit grep backend)
    else [])

def validateGrepPattern (regex : RegexLibrary) (pattern : String) :
    Except Status (Option (String → Bool)) :=
  if pattern = "" then .ok none
  else if byteLength pattern > 255 then
    .error ⟨.InvalidArgument, "invalid grep pattern: exceeds maximum length of 255 chars"⟩
  else
    match regex.compile pattern with
    | .ok re => .ok (some re)
    | .error e => .error ⟨.InvalidArgument, "invalid grep pattern: " ++ e⟩

-- A service that is not declared is left to the collection.
def validateServiceName (name : String) (declared : List String) : Except Status Unit :=
  if name = "" then .ok ()
  else if contains name "/" ∨ contains name ".." then
    .error ⟨.InvalidArgument,
      "invalid service name: must not contain path separators: " ++ name⟩
  else if name ∉ declared then .ok ()
  else .ok ()

-- The RPC: the checks, and then the collection in a task of its own.
def collectDiagRpc (world : World) (server : ShellServer) (node : Node) (regex : RegexLibrary)
    (backend : SupervisorBackend) (declared : List String) (authorization : Option MetadataValue)
    (request : DiagRequest) : Except Status (List (List Access × DiagChunk)) := do
  let _ ← GrpcService.collectDiagAdmission world server authorization
  let _ ← validateGrepPattern regex request.grepPattern
  validateServiceName request.serviceName declared
  .ok (collectDiag node regex request backend declared)

end Pact.Agent.Shell.Diag
