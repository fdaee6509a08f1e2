import Pact.Library.Arithmetic
import Pact.Library.Padding

namespace Pact.Agent.Capability

open Pact.Library

structure CpuInfo where
  model : String
  features : List String
  logicalCores : Nat
  physicalIds : Finset Nat
  coresPerSocket : Nat
  deriving DecidableEq

def CpuInfo.empty : CpuInfo := ⟨"", [], 0, ∅, 0⟩

def cpuinfoField (line : String) : Option (String × String) :=
  if trim line = "" then none
  else (splitOnce (trim line) ':').map fun (key, value) => (trim key, trim value)

def cpuinfoKey (line : String) : Option String := (cpuinfoField line).map Prod.fst

-- The counts are words of 32 bits, and none stands for a panic.
section Parser

variable (word : Nat → Option Nat)

def cpuinfoLine (info : CpuInfo) (line : String) : Option CpuInfo :=
  match cpuinfoField line with
  | none => some info
  | some (key, value) =>
    if key = "model name" ∧ info.model = "" then some { info with model := value }
    else if key = "CPU implementer" ∧ info.model = "" then
      some { info with model := "ARM implementer " ++ value }
    else if key = "CPU part" ∧ startsWith info.model "ARM implementer" then
      some { info with model := info.model ++ " part " ++ value }
    else if (key = "flags" ∨ key = "Features") ∧ info.features = [] then
      some { info with features := splitWhitespace value }
    else if key = "processor" then
      match parseUnsigned 32 value with
      | some _ => (word (info.logicalCores + 1)).map fun cores => { info with logicalCores := cores }
      | none => some info
    else if key = "physical id" then
      match parseUnsigned 32 value with
      | some id => some { info with physicalIds := insert id info.physicalIds }
      | none => some info
    else if key = "cpu cores" ∧ info.coresPerSocket = 0 then
      match parseUnsigned 32 value with
      | some cores => some { info with coresPerSocket := cores }
      | none => some info
    else some info

-- The number of sockets is cut to 32 bits before it is multiplied.
def socketCores (physicalIds : Finset Nat) (coresPerSocket : Nat) : Nat :=
  physicalIds.card % 2 ^ 32 * coresPerSocket

def CpuInfo.physicalCores (info : CpuInfo) : Option Nat :=
  if info.physicalIds ≠ ∅ ∧ info.coresPerSocket > 0 then
    word (socketCores info.physicalIds info.coresPerSocket)
  else if info.logicalCores > 0 then some info.logicalCores
  else some 0

def parseCpuinfo (content : String) : Option (String × List String × Nat × Nat) :=
  ((lines content).foldlM (cpuinfoLine word) .empty).bind fun info =>
    (info.physicalCores word).map fun physicalCores =>
      (info.model, info.features, physicalCores, info.logicalCores)

end Parser

-- What a line makes of each of the variables by itself.
def modelAfter (model line : String) : String :=
  match cpuinfoField line with
  | none => model
  | some (key, value) =>
    if key = "model name" ∧ model = "" then value
    else if key = "CPU implementer" ∧ model = "" then "ARM implementer " ++ value
    else if key = "CPU part" ∧ startsWith model "ARM implementer" then model ++ " part " ++ value
    else model

def featuresAfter (features : List String) (line : String) : List String :=
  match cpuinfoField line with
  | none => features
  | some (key, value) =>
    if (key = "flags" ∨ key = "Features") ∧ features = [] then splitWhitespace value else features

def coresAfter (word : Nat → Option Nat) (cores : Nat) (line : String) : Option Nat :=
  match cpuinfoField line with
  | none => some cores
  | some (key, value) =>
    if key = "processor" ∧ (parseUnsigned 32 value).isSome then word (cores + 1) else some cores

def physicalId (line : String) : Option Nat :=
  match cpuinfoField line with
  | none => none
  | some (key, value) => if key = "physical id" then parseUnsigned 32 value else none

def idsAfter (ids : Finset Nat) (line : String) : Finset Nat :=
  match physicalId line with
  | none => ids
  | some id => insert id ids

def socketAfter (cores : Nat) (line : String) : Nat :=
  match cpuinfoField line with
  | none => cores
  | some (key, value) =>
    if key = "cpu cores" ∧ cores = 0 then (parseUnsigned 32 value).getD 0 else cores

theorem cpuinfoLine_eq (word : Nat → Option Nat) (info : CpuInfo) (line : String) :
    cpuinfoLine word info line =
      (coresAfter word info.logicalCores line).map fun cores =>
        ⟨modelAfter info.model line, featuresAfter info.features line, cores,
          idsAfter info.physicalIds line, socketAfter info.coresPerSocket line⟩ := by
  unfold cpuinfoLine modelAfter featuresAfter coresAfter idsAfter physicalId socketAfter
  cases hfield : cpuinfoField line with
  | none => rfl
  | some field =>
    obtain ⟨key, value⟩ := field
    simp only
    by_cases hname : key = "model name"
    · subst hname
      by_cases hmodel : info.model = "" <;> simp [hmodel]
    by_cases himplementer : key = "CPU implementer"
    · subst himplementer
      by_cases hmodel : info.model = "" <;> simp [hmodel]
    by_cases hpart : key = "CPU part"
    · subst hpart
      by_cases hmodel : startsWith info.model "ARM implementer" = true <;> simp [hmodel]
    by_cases hflags : key = "flags" ∨ key = "Features"
    · rcases hflags with rfl | rfl <;> by_cases hfeatures : info.features = [] <;>
        simp [hfeatures]
    by_cases hprocessor : key = "processor"
    · subst hprocessor
      cases parseUnsigned 32 value <;> simp
    by_cases hphysical : key = "physical id"
    · subst hphysical
      cases parseUnsigned 32 value <;> simp
    by_cases hcores : key = "cpu cores"
    · subst hcores
      obtain ⟨model, features, cores, ids, socket⟩ := info
      by_cases hsocket : socket = 0 <;> cases parseUnsigned 32 value <;> simp [hsocket]
    · simp [hname, himplementer, hpart, hflags, hprocessor, hphysical, hcores]

theorem foldlM_cpuinfoLine (word : Nat → Option Nat) (info : CpuInfo) (parts : List String) :
    parts.foldlM (cpuinfoLine word) info =
      (parts.foldlM (coresAfter word) info.logicalCores).map fun cores =>
        ⟨parts.foldl modelAfter info.model, parts.foldl featuresAfter info.features, cores,
          parts.foldl idsAfter info.physicalIds, parts.foldl socketAfter info.coresPerSocket⟩ := by
  induction parts generalizing info with
  | nil => rfl
  | cons line rest ih =>
    simp only [List.foldlM_cons, List.foldl_cons, Option.bind_eq_bind, cpuinfoLine_eq]
    cases coresAfter word info.logicalCores line with
    | none => rfl
    | some cores => rw [Option.map_some, Option.bind_some, Option.bind_some, ih]

theorem cpuinfoField_trim (line : String) : cpuinfoField (trim line) = cpuinfoField line := by
  rw [cpuinfoField, trim_trim, cpuinfoField]

theorem cpuinfoLine_trim (word : Nat → Option Nat) (info : CpuInfo) (line : String) :
    cpuinfoLine word info (trim line) = cpuinfoLine word info line := by
  rw [cpuinfoLine, cpuinfoField_trim, cpuinfoLine]

-- What is written line by line is read line by line, whatever the lines end in.
theorem foldlM_unlines (word : Nat → Option Nat) (info : CpuInfo) (parts : List String)
    (h : ∀ line ∈ parts, '\n' ∉ line.toList) :
    (lines (unlines parts)).foldlM (cpuinfoLine word) info =
      parts.foldlM (cpuinfoLine word) info := by
  have htrim : ∀ texts : List String,
      (texts.map trim).foldlM (cpuinfoLine word) info = texts.foldlM (cpuinfoLine word) info := by
    intro texts
    rw [List.foldlM_map]
    simp only [cpuinfoLine_trim]
  rw [← htrim, map_trim_lines_unlines parts h, htrim]

def cpuName (line : String) : Option String :=
  match cpuinfoField line with
  | none => none
  | some (key, value) =>
    if key = "model name" ∧ value ≠ "" then some value
    else if key = "CPU implementer" then some ("ARM implementer " ++ value)
    else none

def processorLine (number : Nat) : String := "processor\t: " ++ toString number

-- A block of /proc/cpuinfo but for the number of its processor: the lines before and after that
-- line, of which none is another of its kind. The empty line that ends a block is one of them.
structure CpuBlock where
  before : List String
  after : List String
  unbroken : ∀ line ∈ before ++ after, '\n' ∉ line.toList
  unnumbered : ∀ line ∈ before ++ after, cpuinfoKey line ≠ some "processor"

namespace CpuBlock

variable (block : CpuBlock)

def others : List String := block.before ++ block.after

def numbered (number : Nat) : List String := block.before ++ processorLine number :: block.after

def text (numbers : List Nat) : String := unlines (numbers.flatMap block.numbered)

def model : String := block.others.foldl modelAfter ""

def features : List String := block.others.foldl featuresAfter []

def physicalIds : Finset Nat := block.others.foldl idsAfter ∅

def coresPerSocket : Nat := block.others.foldl socketAfter 0

-- The first line that names the CPU does so by its implementer, or as if it did, and some line
-- is for a part: the description gets another part with every such line.
def Grows : Prop :=
  (∃ name ∈ block.others.findSome? cpuName, startsWith name "ARM implementer" = true) ∧
    ∃ line ∈ block.others, cpuinfoKey line = some "CPU part"

end CpuBlock

theorem cpuinfoField_processorLine (number : Nat) :
    cpuinfoField (processorLine number) = some ("processor", toString number) := by
  have hprocessor : Trimmed "processor" := trimmed_of_no_blank _ (by decide)
  have htrimmed : Trimmed (processorLine number) :=
    hprocessor.append _ "\t: " _ (trimmed_toString number) (by decide) (toString_ne_empty number)
  have hne : processorLine number ≠ "" := by simp [processorLine]
  have hsplit : splitOnce (processorLine number) ':' =
      some ("processor\t", " " ++ toString number) :=
    splitOnce_append "processor\t" (" " ++ toString number) ':' (by decide)
  have hvalue : trim (" " ++ toString number) = toString number := by
    rw [trim_blank_append _ _ (by decide), trim_eq_self _ (trimmed_toString number)]
  have hkey : trim "processor\t" = "processor" := by decide
  rw [cpuinfoField, trim_eq_self _ htrimmed, if_neg hne, hsplit]
  simp only [Option.map_some, hvalue, hkey]

end Pact.Agent.Capability
