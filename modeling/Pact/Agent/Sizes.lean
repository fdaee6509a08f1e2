import Pact.Library.Arithmetic
import Pact.Library.Lines

namespace Pact.Agent.Sizes

open Pact.Library

inductive GpuVendor
  | Nvidia
  | Amd
  deriving DecidableEq

inductive GpuHealth
  | Healthy
  | Degraded
  | Failed
  deriving DecidableEq

structure GpuCapability where
  index : Nat
  vendor : GpuVendor
  model : String
  memoryBytes : Nat
  health : GpuHealth
  pciBusId : String
  deriving DecidableEq

-- The parsers multiply through `word`, from the exact product: a machine word in the program, and
-- `some` for the sizes as numbers of any size. None stands for a panic.
section Parsers

variable (word : Nat → Option Nat)

def memoryUnit (text : String) : String × Nat :=
  match stripSuffix text "G" <|> stripSuffix text "g" with
  | some number => (number, 1024 * 1024 * 1024)
  | none =>
    match stripSuffix text "M" <|> stripSuffix text "m" with
    | some number => (number, 1024 * 1024)
    | none =>
      match stripSuffix text "K" <|> stripSuffix text "k" with
      | some number => (number, 1024)
      | none => (text, 1)

def parseMemoryValue (text : String) : Option (Option Nat) :=
  if trim text = "" then some none
  else
    let (number, multiplier) := memoryUnit (trim text)
    match parseUnsigned 64 (trim number) with
    | none => some none
    | some value => (word (value * multiplier)).map some

def parseMeminfoKb (line : String) : Option Nat := do
  let number ← (splitWhitespace line)[1]?
  parseUnsigned 64 number

structure MemInfo where
  total : Nat
  available : Nat
  hpTotal : Nat
  hpFree : Nat
  hpSizeKb : Nat
  deriving DecidableEq

def meminfoLine (info : MemInfo) (line : String) : Option MemInfo :=
  match parseMeminfoKb line with
  | none => some info
  | some kb =>
    if startsWith line "MemTotal:" then
      (word (kb * 1024)).map fun total => { info with total := total }
    else if startsWith line "MemAvailable:" then
      (word (kb * 1024)).map fun available => { info with available := available }
    else if startsWith line "HugePages_Total:" then some { info with hpTotal := kb }
    else if startsWith line "HugePages_Free:" then some { info with hpFree := kb }
    else if startsWith line "Hugepagesize:" then some { info with hpSizeKb := kb }
    else some info

-- The counts of huge pages are reported only if their size is 2 MB.
def MemInfo.report (info : MemInfo) : Nat × Nat × Nat × Nat :=
  let hugepages := if info.hpSizeKb = 2048 then (info.hpTotal, info.hpFree) else (0, 0)
  (info.total, info.available, hugepages)

def parseMeminfo (content : String) : Option (Nat × Nat × Nat × Nat) :=
  ((lines content).foldlM (meminfoLine word) ⟨0, 0, 0, 0, 0⟩).map MemInfo.report

def parseCacheSize (text : String) : Option Nat :=
  if trim text = "" then some 0
  else
    match stripSuffix (trim text) "K" with
    | some kb => word ((parseUnsigned 64 kb).getD 0 * 1024)
    | none =>
      match stripSuffix (trim text) "M" with
      | some mb => (word ((parseUnsigned 64 mb).getD 0 * 1024)).bind fun kb => word (kb * 1024)
      | none => some ((parseUnsigned 64 (trim text)).getD 0)

-- The fields of one line of nvidia-smi. A line that is not understood is skipped.
def nvidiaFields (line : String) : Option (Nat × String × Nat × String) :=
  if trim line = "" then none
  else
    match (splitn ',' 4 (trim line)).map trim with
    | [index, model, memory, pciBusId] => do
        let index ← parseUnsigned 32 index
        let memoryMib ← parseUnsigned 64 memory
        some (index, model, memoryMib, pciBusId)
    | _ => none

def nvidiaLine (gpus : List GpuCapability) (line : String) : Option (List GpuCapability) :=
  match nvidiaFields line with
  | none => some gpus
  | some (index, model, memoryMib, pciBusId) =>
    (word (memoryMib * 1024)).bind fun memoryKib =>
      (word (memoryKib * 1024)).map fun memoryBytes =>
        gpus ++ [⟨index, .Nvidia, model, memoryBytes, .Healthy, pciBusId⟩]

def parseNvidiaCsv (output : String) : Option (List GpuCapability) :=
  (lines output).foldlM (nvidiaLine word) []

end Parsers

-- The product that a parser computes from a text, if it computes one.
def memoryProduct (text : String) : Option Nat :=
  if trim text = "" then none
  else
    let (number, multiplier) := memoryUnit (trim text)
    (parseUnsigned 64 (trim number)).map (· * multiplier)

def meminfoProduct (line : String) : Option Nat :=
  if startsWith line "MemTotal:" ∨ startsWith line "MemAvailable:" then
    (parseMeminfoKb line).map (· * 1024)
  else none

def cacheProduct (text : String) : Option Nat :=
  if trim text = "" then none
  else
    match stripSuffix (trim text) "K" with
    | some kb => some ((parseUnsigned 64 kb).getD 0 * 1024)
    | none => (stripSuffix (trim text) "M").map fun mb => (parseUnsigned 64 mb).getD 0 * 1024 * 1024

def nvidiaProduct (line : String) : Option Nat :=
  (nvidiaFields line).map fun (_, _, memoryMib, _) => memoryMib * 1024 * 1024

def Fits (product : Option Nat) : Prop := ∀ bytes, product = some bytes → bytes < 2 ^ 64

theorem fits_none : Fits none := by
  intro bytes h
  cases h

theorem fits_some_iff (bytes : Nat) : Fits (some bytes) ↔ bytes < 2 ^ 64 := by
  simp [Fits]

theorem parseMemoryValue_exactWhere (text : String) :
    ExactWhere 64 (parseMemoryValue · text) (Fits (memoryProduct text)) := by
  unfold parseMemoryValue memoryProduct
  split_ifs
  · exact .of_result _ _ none fits_none (fun _ => rfl)
  · cases hvalue : parseUnsigned 64 (trim (memoryUnit (trim text)).1) with
    | none =>
      simp only [hvalue, Option.map_none]
      exact .of_result _ _ none fits_none (fun _ => rfl)
    | some value =>
      simp only [hvalue, Option.map_some]
      exact .of_word _ _ (value * (memoryUnit (trim text)).2) some (fits_some_iff _) rfl
        (fun _ => rfl)

theorem meminfoLine_exactWhere (info : MemInfo) (line : String) :
    ExactWhere 64 (meminfoLine · info line) (Fits (meminfoProduct line)) := by
  unfold meminfoLine meminfoProduct
  cases parseMeminfoKb line with
  | none =>
    simp only [Option.map_none, ite_self]
    exact .of_result _ _ info fits_none (fun _ => rfl)
  | some kb =>
    by_cases htotal : startsWith line "MemTotal:" = true
    · simp only [htotal, true_or, if_true, Option.map_some]
      exact .of_word _ _ (kb * 1024) _ (fits_some_iff _) rfl (fun _ => rfl)
    · by_cases havailable : startsWith line "MemAvailable:" = true
      · simp only [htotal, havailable, or_true, reduceIte, Option.map_some, Bool.false_eq_true]
        exact .of_word _ _ (kb * 1024) _ (fits_some_iff _) rfl (fun _ => rfl)
      · -- The other lines hold counts.
        simp only [htotal, havailable, or_self, reduceIte, Bool.false_eq_true]
        split_ifs <;> exact .of_result _ _ _ fits_none (fun _ => rfl)

theorem parseMeminfo_exactWhere (content : String) :
    ExactWhere 64 (parseMeminfo · content) (∀ line ∈ lines content, Fits (meminfoProduct line)) :=
  .map _ _ MemInfo.report (.foldlM meminfoLine (fun line => Fits (meminfoProduct line))
    (lines content) (fun info line _ => meminfoLine_exactWhere info line) ⟨0, 0, 0, 0, 0⟩)

theorem parseCacheSize_exactWhere (text : String) :
    ExactWhere 64 (parseCacheSize · text) (Fits (cacheProduct text)) := by
  unfold parseCacheSize cacheProduct
  split_ifs
  · exact .of_result _ _ 0 fits_none (fun _ => rfl)
  · cases stripSuffix (trim text) "K" with
    | some kb =>
      refine .of_word _ _ ((parseUnsigned 64 kb).getD 0 * 1024) id (fits_some_iff _) rfl ?_
      intro overflowChecks
      rw [Option.map_id_fun, id_eq]
    | none =>
      cases stripSuffix (trim text) "M" with
      | some mb =>
        refine .of_word _ _ ((parseUnsigned 64 mb).getD 0 * 1024 * 1024) id (fits_some_iff _)
          rfl ?_
        intro overflowChecks
        rw [Option.map_id_fun, id_eq]
        exact wordResult_mul overflowChecks 64 _ 1024 (by omega)
      | none => exact .of_result _ _ _ fits_none (fun _ => rfl)

theorem nvidiaLine_exactWhere (gpus : List GpuCapability) (line : String) :
    ExactWhere 64 (nvidiaLine · gpus line) (Fits (nvidiaProduct line)) := by
  unfold nvidiaLine nvidiaProduct
  cases nvidiaFields line with
  | none => exact .of_result _ _ gpus fits_none (fun _ => rfl)
  | some fields =>
    obtain ⟨index, model, memoryMib, pciBusId⟩ := fields
    refine .of_word _ _ (memoryMib * 1024 * 1024)
      (fun memoryBytes => gpus ++ [⟨index, .Nvidia, model, memoryBytes, .Healthy, pciBusId⟩])
      (fits_some_iff _) rfl ?_
    intro overflowChecks
    rw [← wordResult_mul overflowChecks 64 _ 1024 (by omega), Option.map_bind]
    rfl

theorem parseNvidiaCsv_exactWhere (output : String) :
    ExactWhere 64 (parseNvidiaCsv · output) (∀ line ∈ lines output, Fits (nvidiaProduct line)) :=
  .foldlM nvidiaLine (fun line => Fits (nvidiaProduct line)) (lines output)
    (fun gpus line _ => nvidiaLine_exactWhere gpus line) []

-- Each parser gives the exact size or its default, and never panics, exactly where the products
-- it computes are below 2^64.
theorem size_parsers_exact_iff (text : String) :
    (ExactOrDefault 64 (parseMemoryValue · text) none ↔ Fits (memoryProduct text)) ∧
    (ExactOrDefault 64 (parseMeminfo · text) (0, 0, 0, 0) ↔
      ∀ line ∈ lines text, Fits (meminfoProduct line)) ∧
    (ExactOrDefault 64 (parseCacheSize · text) 0 ↔ Fits (cacheProduct text)) ∧
    (ExactOrDefault 64 (parseNvidiaCsv · text) [] ↔
      ∀ line ∈ lines text, Fits (nvidiaProduct line)) := by
  refine ⟨?_, ?_, ?_, ?_⟩
  · exact (parseMemoryValue_exactWhere text).exactOrDefault_iff _ _ none
  · exact (parseMeminfo_exactWhere text).exactOrDefault_iff _ _ (0, 0, 0, 0)
  · exact (parseCacheSize_exactWhere text).exactOrDefault_iff _ _ 0
  · exact (parseNvidiaCsv_exactWhere text).exactOrDefault_iff _ _ []

-- Sixteen exbibytes and a little more: without the checks a limit of one gibibyte is set, and the
-- node reports next to no memory; with them the agent panics.
theorem size_parsers_wrap :
    parseMemoryValue (wordResult false 64) "17179869185G" = some (some (1024 * 1024 * 1024)) ∧
    parseMemoryValue (wordResult true 64) "17179869185G" = none ∧
    parseMemoryValue some "17179869185G" = some (some (2 ^ 64 + 1024 * 1024 * 1024)) ∧
    parseMeminfo (wordResult false 64) "MemTotal: 18014398509481985 kB" = some (1024, 0, 0, 0) ∧
    parseMeminfo (wordResult true 64) "MemTotal: 18014398509481985 kB" = none ∧
    parseCacheSize (wordResult false 64) "18014398509481985K" = some 1024 ∧
    parseCacheSize (wordResult true 64) "18014398509481985K" = none ∧
    parseNvidiaCsv (wordResult false 64) "0,A100,17592186044417,3B" =
      some [⟨0, .Nvidia, "A100", 1024 * 1024, .Healthy, "3B"⟩] ∧
    parseNvidiaCsv (wordResult true 64) "0,A100,17592186044417,3B" = none := by
  have hlimit : ∀ word, parseMemoryValue word "17179869185G" =
      (word (17179869185 * (1024 * 1024 * 1024))).map some := by
    have hunit : trim "17179869185G" ≠ "" ∧
        memoryUnit (trim "17179869185G") = ("17179869185", 1024 * 1024 * 1024) ∧
        parseUnsigned 64 (trim "17179869185") = some 17179869185 := by decide +kernel
    intro word
    simp only [parseMemoryValue, hunit, if_false]
  have hmemory : ∀ word, parseMeminfo word "MemTotal: 18014398509481985 kB" =
      (word (18014398509481985 * 1024)).map fun total => (total, 0, 0, 0) := by
    have hline : lines "MemTotal: 18014398509481985 kB" = ["MemTotal: 18014398509481985 kB"] ∧
        parseMeminfoKb "MemTotal: 18014398509481985 kB" = some 18014398509481985 ∧
        startsWith "MemTotal: 18014398509481985 kB" "MemTotal:" = true := by decide +kernel
    intro word
    cases hword : word (18014398509481985 * 1024) <;>
      simp [parseMeminfo, hline, meminfoLine, hword, MemInfo.report]
  have hcache : ∀ word, parseCacheSize word "18014398509481985K" =
      word (18014398509481985 * 1024) := by
    have hunit : trim "18014398509481985K" ≠ "" ∧
        stripSuffix (trim "18014398509481985K") "K" = some "18014398509481985" ∧
        parseUnsigned 64 "18014398509481985" = some 18014398509481985 := by decide +kernel
    intro word
    simp only [parseCacheSize, hunit, if_false, Option.getD_some]
  have hgpu : ∀ word, parseNvidiaCsv word "0,A100,17592186044417,3B" =
      (word (17592186044417 * 1024)).bind fun memoryKib =>
        (word (memoryKib * 1024)).map fun memoryBytes =>
          [⟨0, .Nvidia, "A100", memoryBytes, .Healthy, "3B"⟩] := by
    have hline : lines "0,A100,17592186044417,3B" = ["0,A100,17592186044417,3B"] ∧
        nvidiaFields "0,A100,17592186044417,3B" = some (0, "A100", 17592186044417, "3B") := by
      decide +kernel
    intro word
    simp only [parseNvidiaCsv, hline, List.foldlM_cons, List.foldlM_nil, nvidiaLine,
      List.nil_append]
    exact bind_pure _
  simp only [hlimit, hmemory, hcache, hgpu]
  decide

end Pact.Agent.Sizes
