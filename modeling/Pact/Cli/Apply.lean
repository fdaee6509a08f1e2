import Pact.Journal.ConfigService

namespace Pact.Cli

open Pact.Library Pact.Common Pact.Journal

structure MountSpec where
  fsType : String
  source : String
  options : String
  deriving DecidableEq

structure FileSpec where
  contentHash : Option String
  mode : Option String
  owner : Option String
  deriving DecidableEq

structure ServiceSpec where
  state : String
  deriving DecidableEq

structure VClusterSpec where
  sysctl : Map String String
  mounts : Map String MountSpec
  files : Map String FileSpec
  services : Map String ServiceSpec
  network : Map String String
  packages : Map String String
  deriving DecidableEq

def VClusterSpec.default : VClusterSpec where
  sysctl := .empty
  mounts := .empty
  files := .empty
  services := .empty
  network := .empty
  packages := .empty

structure ApplySpec where
  vcluster : Map String VClusterSpec
  deriving DecidableEq

def mountValue (mount : MountSpec) : String :=
  mount.fsType ++ ":" ++ mount.source ++ " (" ++ mount.options ++ ")"

-- The owner of a file goes where the other categories have the previous value, and its mode
-- nowhere.
def specToDelta (spec : VClusterSpec) : StateDelta where
  mounts := spec.mounts.toList.map fun (path, mount) =>
    ⟨.Add, path, some (mountValue mount), none⟩
  files := spec.files.toList.map fun (path, file) => ⟨.Modify, path, file.contentHash, file.owner⟩
  network := spec.network.toList.map fun (iface, detail) => ⟨.Modify, iface, some detail, none⟩
  services := spec.services.toList.map fun (name, service) =>
    ⟨.Modify, name, some service.state, none⟩
  kernel := spec.sysctl.toList.map fun (key, value) => ⟨.Modify, key, some value, none⟩
  packages := spec.packages.toList.map fun (name, version) => ⟨.Add, name, some version, none⟩
  gpu := []

def summaryLines (name : String) (spec : VClusterSpec) : List String :=
  let changes := spec.sysctl.toList.length + spec.mounts.toList.length +
    spec.files.toList.length + spec.services.toList.length + spec.network.toList.length +
    spec.packages.toList.length
  ["vCluster " ++ name ++ ": " ++ toString changes ++ " changes"] ++
    spec.sysctl.toList.map (fun (key, value) => "  sysctl: " ++ key ++ " = " ++ value) ++
    spec.mounts.toList.map (fun (path, mount) =>
      "  mount: " ++ path ++ " (" ++ mount.fsType ++ ":" ++ mount.source ++ ")") ++
    spec.services.toList.map (fun (name, service) => "  service: " ++ name ++ " → " ++ service.state)

def formatSpecSummary (spec : ApplySpec) : String :=
  join "\n" (spec.vcluster.toList.flatMap fun (name, vc) => summaryLines name vc)

-- Who runs the command, and the path of the spec file.
structure Invocation where
  specPath : String
  principal : String
  role : String
  token : String
  deriving DecidableEq

def applyEntry (invocation : Invocation) (name : String) (spec : VClusterSpec) :
    Proto.ConfigEntry where
  sequence := 0
  timestamp := none
  entryType := 1
  scope := some ⟨some (.VclusterId name)⟩
  author := some ⟨invocation.principal, "Human", invocation.role⟩
  parent := none
  stateDelta := some (ConfigService.stateDeltaToProto (specToDelta spec))
  policyRef := "apply:" ++ invocation.specPath
  ttl := none
  emergencyReason := none

-- What the command takes from the RPC library: the check of a metadata value and the text of a
-- status.
structure RpcLibrary where
  parseMetadata : String → Option MetadataValue
  statusText : Status → String

def authorize (library : RpcLibrary) (token : String) : Except Status (Option MetadataValue) :=
  if token = "" then .ok none
  else
    match library.parseMetadata ("Bearer " ++ token) with
    | some value => .ok (some value)
    | none => .error ⟨.Internal, "invalid token format"⟩

-- How one call goes: it does not get through, or the journal serves it after other commands,
-- and the answer may be lost on the way back.
inductive Delivery
  | Unreachable (status : Status)
  | Served (others : List Applied) (now : DateTime) (consensus : Consensus)
      (lostReply : Option Status)

def Delivery.finds (platform : Platform) (journal : JournalState) : Delivery → JournalState
  | .Unreachable _ => journal
  | .Served others _ _ _ => (replay platform journal others).1

def submit (platform : Platform) (library : RpcLibrary) (invocation : Invocation)
    (journal : JournalState) (delivery : Delivery) (name : String) (spec : VClusterSpec) :
    JournalState × Except Status Proto.AppendEntryResponse :=
  let found := delivery.finds platform journal
  match authorize library invocation.token with
  | .error status => (found, .error status)
  | .ok authorization =>
    match delivery with
    | .Unreachable status => (found, .error status)
    | .Served _ now consensus lostReply =>
      let (after, result) :=
        (intercepted (ConfigService.appendEntry now)
          ⟨authorization, ⟨some (applyEntry invocation name spec)⟩⟩).finish platform consensus
          found
      match lostReply with
      | none => (after, result)
      | some status => (after, .error status)

-- The loop over the vClusters of the spec. It stops at the first call that fails.
def submitAll (platform : Platform) (library : RpcLibrary) (invocation : Invocation)
    (delivery : String → Delivery) (journal : JournalState) :
    List (String × VClusterSpec) → JournalState × List (String × Nat) × Option String
  | [] => (journal, [], none)
  | (name, spec) :: rest =>
    match submit platform library invocation journal (delivery name) name spec with
    | (after, .error status) =>
      (after, [], some ("apply failed for " ++ name ++ ": " ++ library.statusText status))
    | (after, .ok response) =>
      let (last, applied, failure) :=
        submitAll platform library invocation delivery after rest
      (last, (name, response.sequence) :: applied, failure)

-- `loaded` is what reading and parsing the spec file gave.
def apply (platform : Platform) (library : RpcLibrary) (invocation : Invocation)
    (delivery : String → Delivery) (journal : JournalState) (loaded : Except String ApplySpec) :
    JournalState × Except String String :=
  match loaded with
  | .error error => (journal, .error error)
  | .ok spec =>
    if spec.vcluster.toList = [] then (journal, .ok "No changes in spec file.")
    else
      match submitAll platform library invocation delivery journal spec.vcluster.toList with
      | (last, _, some failure) => (last, .error failure)
      | (last, applied, none) =>
        (last, .ok (formatSpecSummary spec ++ "\n\n" ++
          join "\n" (applied.map fun (name, sequence) =>
            "Applied to " ++ name ++ " (seq:" ++ toString sequence ++ ")")))

end Pact.Cli
