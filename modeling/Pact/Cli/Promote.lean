import Pact.Cli.Apply
import Pact.Library.Toml

namespace Pact.Cli.Promote

open Pact.Library Pact.Common

def debugAction : DeltaAction → String
  | .Add => "Add"
  | .Remove => "Remove"
  | .Modify => "Modify"

def active (items : List DeltaItem) : List DeltaItem := items.filter (·.action ≠ .Remove)

-- Keys and values go into the line as they are.
def itemLine (item : DeltaItem) : String :=
  match item.value with
  | some value => item.key ++ " = \"" ++ value ++ "\""
  | none => "# " ++ item.key ++ " (action: " ++ debugAction item.action ++ ")"

def writeSection (name : String) (items : List DeltaItem) : List String :=
  if active items = [] then []
  else ("[" ++ name ++ "]") :: ((active items).map itemLine ++ [""])

def sections (delta : StateDelta) : List (String × List DeltaItem) :=
  [("kernel", delta.kernel), ("services", delta.services), ("mounts", delta.mounts),
    ("files", delta.files), ("network", delta.network), ("packages", delta.packages),
    ("gpu", delta.gpu)]

def exportLines (deltas : List StateDelta) : List String :=
  ["# Promoted from node deltas", "# Review and apply with: pact apply <this-file.toml>", ""] ++
    (deltas.flatMap sections).flatMap fun (name, items) => writeSection name items

def exportDeltasAsToml (deltas : List StateDelta) : String := unlines (exportLines deltas)

section Load

variable (toml : TomlLibrary)

def loadDefault {V : Type} (default : V) (read : toml.Value → Option V) :
    Option toml.Value → Option V
  | none => some default
  | some value => read value

def loadMap {V : Type} (read : toml.Value → Option V) (value : toml.Value) :
    Option (Map String V) := do
  let table ← toml.asTable value
  table.toList.foldlM (fun loaded (name, value) => (read value).map (loaded.insert name)) .empty

def loadMount (value : toml.Value) : Option MountSpec := do
  let fields ← toml.asRecord ["type", "source", "options"] value
  let fsType ← (fields.get "type").bind toml.asText
  let source ← (fields.get "source").bind toml.asText
  let options ← loadDefault toml "" toml.asText (fields.get "options")
  some ⟨fsType, source, options⟩

def loadOptional (value : toml.Value) : Option (Option String) := (toml.asText value).map some

def loadFile (value : toml.Value) : Option FileSpec := do
  let fields ← toml.asRecord ["content_hash", "mode", "owner"] value
  let contentHash ← loadDefault toml none (loadOptional toml) (fields.get "content_hash")
  let mode ← loadDefault toml none (loadOptional toml) (fields.get "mode")
  let owner ← loadDefault toml none (loadOptional toml) (fields.get "owner")
  some ⟨contentHash, mode, owner⟩

def loadService (value : toml.Value) : Option ServiceSpec := do
  let fields ← toml.asRecord ["state"] value
  let state ← (fields.get "state").bind toml.asText
  some ⟨state⟩

def loadVCluster (value : toml.Value) : Option VClusterSpec := do
  let fields ← toml.asRecord
    ["sysctl", "mounts", "files", "services", "network", "packages"] value
  let sysctl ← loadDefault toml .empty (loadMap toml toml.asText) (fields.get "sysctl")
  let mounts ← loadDefault toml .empty (loadMap toml (loadMount toml)) (fields.get "mounts")
  let files ← loadDefault toml .empty (loadMap toml (loadFile toml)) (fields.get "files")
  let services ← loadDefault toml .empty (loadMap toml (loadService toml)) (fields.get "services")
  let network ← loadDefault toml .empty (loadMap toml toml.asText) (fields.get "network")
  let packages ← loadDefault toml .empty (loadMap toml toml.asText) (fields.get "packages")
  some ⟨sysctl, mounts, files, services, network, packages⟩

-- Only the entry `vcluster` of the top table is read, and the others are passed over.
def loadTop (table : Map String toml.Value) : Option ApplySpec :=
  (loadDefault toml .empty (loadMap toml (loadVCluster toml)) (table.get "vcluster")).map
    ApplySpec.mk

-- What a spec file of this text gives. None where it is no TOML or does not have the shape of a
-- spec.
def loadSpec (text : String) : Option ApplySpec := (toml.parse text).bind (loadTop toml)

end Load

end Pact.Cli.Promote
