import Pact.Agent.Capability.CpuInfo
import Pact.Library.Sequence

namespace Pact.Agent.Capability

open Pact.Library

theorem mem_foldl_idsAfter_iff (ids : Finset Nat) (parts : List String) (id : Nat) :
    id ∈ parts.foldl idsAfter ids ↔ id ∈ ids ∨ ∃ line ∈ parts, physicalId line = some id := by
  induction parts generalizing ids with
  | nil => simp
  | cons line rest ih =>
    rw [List.foldl_cons, ih, idsAfter]
    cases hline : physicalId line with
    | none => simp [hline]
    | some other => simp [hline, or_assoc, or_left_comm, eq_comm]

theorem foldl_idsAfter_again (parts : List String) :
    parts.foldl idsAfter (parts.foldl idsAfter ∅) = parts.foldl idsAfter ∅ := by
  ext id
  rw [mem_foldl_idsAfter_iff, mem_foldl_idsAfter_iff, or_assoc, or_self]

namespace CpuBlock

variable (block : CpuBlock)

-- The processor line is for the count alone, so that to every other variable the blocks are all
-- the same.
theorem foldl_blocks {α : Type*} (step : α → String → α)
    (hprocessor : ∀ state number, step state (processorLine number) = state) (start : α)
    (numbers : List Nat) :
    (numbers.flatMap block.numbered).foldl step start =
      (fun state => block.others.foldl step state)^[numbers.length] start := by
  have hblock : ∀ state number,
      (block.numbered number).foldl step state = block.others.foldl step state := by
    intro state number
    rw [numbered, List.foldl_append, List.foldl_cons, hprocessor, others, List.foldl_append]
  rw [List.foldl_flatMap]
  simp only [hblock]
  exact List.foldl_const _ _ _

theorem foldl_blocks_again {α : Type*} (step : α → String → α)
    (hprocessor : ∀ state number, step state (processorLine number) = state) (start : α)
    (hagain : block.others.foldl step (block.others.foldl step start) =
      block.others.foldl step start) (number : Nat) (numbers : List Nat) :
    ((number :: numbers).flatMap block.numbered).foldl step start =
      block.others.foldl step start :=
  (block.foldl_blocks step hprocessor start (number :: numbers)).trans
    (iterate_succ_of_again _ start hagain numbers.length)

end CpuBlock

theorem modelAfter_processorLine (model : String) (number : Nat) :
    modelAfter model (processorLine number) = model := by
  simp [modelAfter, cpuinfoField_processorLine]

theorem featuresAfter_processorLine (features : List String) (number : Nat) :
    featuresAfter features (processorLine number) = features := by
  simp [featuresAfter, cpuinfoField_processorLine]

theorem idsAfter_processorLine (ids : Finset Nat) (number : Nat) :
    idsAfter ids (processorLine number) = ids := by
  simp [idsAfter, physicalId, cpuinfoField_processorLine]

theorem socketAfter_processorLine (cores number : Nat) :
    socketAfter cores (processorLine number) = cores := by
  simp [socketAfter, cpuinfoField_processorLine]

theorem coresAfter_processorLine (word : Nat → Option Nat) (cores number : Nat)
    (h : number < 2 ^ 32) : coresAfter word cores (processorLine number) = word (cores + 1) := by
  simp only [coresAfter, cpuinfoField_processorLine, parseUnsigned_toString 32 number h,
    Option.isSome_some, and_self, if_true]

theorem coresAfter_other (word : Nat → Option Nat) (cores : Nat) (line : String)
    (h : cpuinfoKey line ≠ some "processor") : coresAfter word cores line = some cores := by
  unfold coresAfter
  cases hfield : cpuinfoField line with
  | none => rfl
  | some field =>
    have hkey : field.1 ≠ "processor" := by simpa [cpuinfoKey, hfield] using h
    simp [hkey]

theorem foldlM_coresAfter_others (word : Nat → Option Nat) (cores : Nat) (parts : List String)
    (h : ∀ line ∈ parts, cpuinfoKey line ≠ some "processor") :
    parts.foldlM (coresAfter word) cores = some cores := by
  induction parts with
  | nil => rfl
  | cons line rest ih =>
    obtain ⟨hline, hrest⟩ := List.forall_mem_cons.mp h
    rw [List.foldlM_cons, coresAfter_other word cores line hline]
    exact ih hrest

theorem featuresAfter_of_ne (features : List String) (h : features ≠ []) (line : String) :
    featuresAfter features line = features := by
  unfold featuresAfter
  cases cpuinfoField line with
  | none => rfl
  | some field => simp [h]

theorem socketAfter_of_ne (cores : Nat) (h : cores ≠ 0) (line : String) :
    socketAfter cores line = cores := by
  unfold socketAfter
  cases cpuinfoField line with
  | none => rfl
  | some field => simp [h]

namespace CpuBlock

variable (block : CpuBlock)

theorem foldlM_coresAfter_blocks (word : Nat → Option Nat) (cores : Nat) (numbers : List Nat)
    (h : ∀ number ∈ numbers, number < 2 ^ 32) :
    (numbers.flatMap block.numbered).foldlM (coresAfter word) cores =
      numbers.foldlM (fun cores _ => word (cores + 1)) cores := by
  obtain ⟨hbefore, hafter⟩ := List.forall_mem_append.mp block.unnumbered
  have hrest : ∀ cores, block.after.foldlM (coresAfter word) cores = some cores :=
    fun cores => foldlM_coresAfter_others word cores _ hafter
  induction numbers generalizing cores with
  | nil => rfl
  | cons number rest ih =>
    obtain ⟨hnumber, hnumbers⟩ := List.forall_mem_cons.mp h
    rw [List.flatMap_cons, numbered, List.append_assoc, List.foldlM_append,
      foldlM_coresAfter_others word cores _ hbefore, List.cons_append]
    simp only [Option.bind_eq_bind, Option.bind_some, List.foldlM_cons,
      coresAfter_processorLine word cores number hnumber]
    cases word (cores + 1) with
    | none => rfl
    | some counted =>
      rw [Option.bind_some, Option.bind_some, List.foldlM_append, hrest]
      exact ih counted hnumbers

def description (more : Nat) : String :=
  (fun model => block.others.foldl modelAfter model)^[more] block.model

theorem text_unbroken (numbers : List Nat) :
    ∀ line ∈ numbers.flatMap block.numbered, '\n' ∉ line.toList := by
  obtain ⟨hbefore, hafter⟩ := List.forall_mem_append.mp block.unbroken
  intro line hline
  obtain ⟨number, -, hmem⟩ := List.mem_flatMap.mp hline
  rcases List.mem_append.mp hmem with hmem | hmem
  · exact hbefore line hmem
  · rcases List.mem_cons.mp hmem with rfl | hmem
    · rw [processorLine, String.toList_append, List.mem_append, not_or]
      exact ⟨by decide, not_mem_toString number '\n' rfl⟩
    · exact hafter line hmem

theorem parseCpuinfo_text (word : Nat → Option Nat) (number : Nat) (numbers : List Nat)
    (h : ∀ other ∈ number :: numbers, other < 2 ^ 32) :
    parseCpuinfo word (block.text (number :: numbers)) =
      ((number :: numbers).foldlM (fun cores _ => word (cores + 1)) 0).bind fun cores =>
        (CpuInfo.physicalCores word ⟨block.description numbers.length, block.features, cores,
          block.physicalIds, block.coresPerSocket⟩).map fun physicalCores =>
            (block.description numbers.length, block.features, physicalCores, cores) := by
  have hfeatures := block.foldl_blocks_again featuresAfter featuresAfter_processorLine []
    (foldl_again featuresAfter [] block.others featuresAfter_of_ne) number numbers
  have hids := block.foldl_blocks_again idsAfter idsAfter_processorLine ∅
    (foldl_idsAfter_again block.others) number numbers
  have hsocket := block.foldl_blocks_again socketAfter socketAfter_processorLine 0
    (foldl_again socketAfter 0 block.others socketAfter_of_ne) number numbers
  have hmodel := block.foldl_blocks modelAfter modelAfter_processorLine "" (number :: numbers)
  rw [List.length_cons, Function.iterate_succ_apply] at hmodel
  rw [parseCpuinfo, text, foldlM_unlines word _ _ (block.text_unbroken _), foldlM_cpuinfoLine]
  simp only [CpuInfo.empty, block.foldlM_coresAfter_blocks word 0 _ h, hfeatures, hids, hsocket,
    hmodel, Option.bind_map]
  rfl

end CpuBlock

-- What a line adds to a description made of the implementer.
def partText (line : String) : String :=
  match cpuinfoField line with
  | none => ""
  | some (key, value) => if key = "CPU part" then " part " ++ value else ""

def partTexts (parts : List String) : String :=
  String.ofList (parts.flatMap fun line => (partText line).toList)

theorem partTexts_eq_empty_iff (parts : List String) :
    partTexts parts = "" ↔ ∀ line ∈ parts, cpuinfoKey line ≠ some "CPU part" := by
  have hpart : ∀ line, (partText line).toList = [] ↔ cpuinfoKey line ≠ some "CPU part" := by
    intro line
    unfold partText cpuinfoKey
    cases cpuinfoField line with
    | none => simp
    | some field =>
      by_cases hkey : field.1 = "CPU part" <;> simp [hkey]
  simp only [partTexts, ← String.toList_inj, String.toList_ofList, String.toList_empty,
    List.flatMap_eq_nil_iff, hpart]

theorem modelAfter_arm (model line : String) (h : startsWith model "ARM implementer" = true) :
    modelAfter model line = model ++ partText line := by
  have hne : model ≠ "" := by
    rintro rfl
    exact absurd h (by decide)
  unfold modelAfter partText
  cases cpuinfoField line with
  | none => simp
  | some field =>
    by_cases hkey : field.1 = "CPU part" <;> simp [hkey, hne, h, String.append_assoc]

theorem foldl_modelAfter_arm (model : String) (parts : List String)
    (h : startsWith model "ARM implementer" = true) :
    parts.foldl modelAfter model = model ++ partTexts parts := by
  induction parts generalizing model with
  | nil => simp [partTexts]
  | cons line rest ih =>
    have hline := modelAfter_arm model line h
    rw [List.foldl_cons, hline, ih _ (startsWith_append_left model _ _ h)]
    simp [← String.toList_inj, partTexts]

theorem foldl_modelAfter_kept (model : String) (parts : List String) (hne : model ≠ "")
    (h : startsWith model "ARM implementer" ≠ true) : parts.foldl modelAfter model = model := by
  refine foldl_kept modelAfter _ _ ?_
  intro line _
  unfold modelAfter
  cases cpuinfoField line with
  | none => rfl
  | some field => simp [hne, h]

theorem modelAfter_empty (line : String) : modelAfter "" line = (cpuName line).getD "" := by
  have hempty : startsWith "" "ARM implementer" = false := by decide
  unfold modelAfter cpuName
  cases cpuinfoField line with
  | none => rfl
  | some field =>
    by_cases hname : field.1 = "model name"
    · by_cases hvalue : field.2 = "" <;> simp [hname, hvalue]
    · by_cases himplementer : field.1 = "CPU implementer" <;> simp [hname, himplementer, hempty]

theorem cpuName_ne_empty (line name : String) (h : cpuName line = some name) : name ≠ "" := by
  unfold cpuName at h
  split at h
  · cases h
  · split_ifs at h with hvalue
    · cases h
      exact hvalue.2
    · cases h
      simp

-- The first name decides whether parts are added to it.
theorem foldl_modelAfter_startsWith (parts : List String) :
    startsWith (parts.foldl modelAfter "") "ARM implementer" = true ↔
      ∃ name ∈ parts.findSome? cpuName, startsWith name "ARM implementer" = true := by
  induction parts with
  | nil => simp [startsWith]
  | cons line rest ih =>
    rw [List.foldl_cons, modelAfter_empty, List.findSome?_cons]
    cases hname : cpuName line with
    | none => exact ih
    | some name =>
      simp only [Option.getD_some, Option.mem_def, Option.some.injEq, exists_eq_left']
      by_cases harm : startsWith name "ARM implementer" = true
      · rw [foldl_modelAfter_arm name rest harm]
        exact iff_of_true (startsWith_append_left name _ _ harm) harm
      · rw [foldl_modelAfter_kept name rest (cpuName_ne_empty line name hname) harm]

theorem iterate_modelAfter_arm (model : String) (parts : List String) (more : Nat)
    (h : startsWith model "ARM implementer" = true) :
    ∃ rest, (fun model => parts.foldl modelAfter model)^[more + 1] model =
      model ++ (partTexts parts ++ rest) := by
  induction more generalizing model with
  | zero => exact ⟨"", by simp [foldl_modelAfter_arm model parts h]⟩
  | succ more ih =>
    obtain ⟨rest, hrest⟩ := ih _ (startsWith_append_left model (partTexts parts) _ h)
    refine ⟨partTexts parts ++ rest, ?_⟩
    rw [Function.iterate_succ_apply, foldl_modelAfter_arm model parts h, hrest,
      String.append_assoc]

namespace CpuBlock

variable (block : CpuBlock)

theorem foldl_model_of_not_grows (h : ¬block.Grows) :
    block.others.foldl modelAfter block.model = block.model := by
  by_cases hempty : block.model = ""
  · rw [hempty]
    exact hempty
  by_cases harm : startsWith block.model "ARM implementer" = true
  · have hnone : partTexts block.others = "" := by
      rw [partTexts_eq_empty_iff]
      intro line hline hkey
      exact h ⟨(foldl_modelAfter_startsWith block.others).mp harm, line, hline, hkey⟩
    rw [foldl_modelAfter_arm _ _ harm, hnone, String.append_empty]
  · exact foldl_modelAfter_kept block.model block.others hempty harm

theorem description_eq_iff (more : Nat) :
    block.description more = block.model ↔ more = 0 ∨ ¬block.Grows := by
  constructor
  · intro heq
    cases more with
    | zero => exact Or.inl rfl
    | succ more =>
      refine Or.inr ?_
      rintro ⟨hnamed, line, hline, hkey⟩
      have harm : startsWith block.model "ARM implementer" = true :=
        (foldl_modelAfter_startsWith block.others).mpr hnamed
      obtain ⟨rest, hrest⟩ := iterate_modelAfter_arm block.model block.others more harm
      have hnone : partTexts block.others = "" := by
        have hsame := hrest.symm.trans heq
        rw [← String.toList_inj, String.toList_append, List.append_right_eq_self,
          String.toList_append, List.append_eq_nil_iff] at hsame
        exact String.toList_inj.mp hsame.1
      exact (partTexts_eq_empty_iff _).mp hnone line hline hkey
  · rintro (rfl | hgrows)
    · rfl
    · exact Function.iterate_fixed (block.foldl_model_of_not_grows hgrows) more

end CpuBlock

-- A panic can only come from the product of sockets and cores.
theorem physicalCores_isSome_iff (overflowChecks : Bool) (info : CpuInfo) :
    (∃ cores, info.physicalCores (wordResult overflowChecks 32) = some cores) ↔
      (overflowChecks = true → socketCores info.physicalIds info.coresPerSocket < 2 ^ 32) := by
  unfold CpuInfo.physicalCores
  by_cases hsockets : info.physicalIds ≠ ∅ ∧ info.coresPerSocket > 0
  · rw [if_pos hsockets]
    cases overflowChecks with
    | false => simp [wordResult_unchecked]
    | true =>
      by_cases hfits : socketCores info.physicalIds info.coresPerSocket < 2 ^ 32
      · exact iff_of_true ⟨_, wordResult_of_lt true 32 _ hfits⟩ fun _ => hfits
      · rw [wordResult_checked 32 _ (Nat.not_lt.mp hfits)]
        exact iff_of_false (by simp) fun hall => hfits (hall rfl)
  · have hzero : socketCores info.physicalIds info.coresPerSocket = 0 := by
      rw [socketCores, Nat.mul_eq_zero]
      by_cases hids : info.physicalIds = ∅
      · exact Or.inl (by rw [hids]; rfl)
      · exact Or.inr (by by_contra hcores; exact hsockets ⟨hids, Nat.pos_of_ne_zero hcores⟩)
    rw [if_neg hsockets, hzero]
    split_ifs <;> simp

-- What the parser makes of one block, it makes of all of them, with the count of the blocks.
def DescribedAlike (overflowChecks : Bool) (block : CpuBlock) (number : Nat) (numbers : List Nat) :
    Prop :=
  ∃ model features physicalOne physicalAll,
    parseCpuinfo (wordResult overflowChecks 32) (block.text [number]) =
      some (model, features, physicalOne, 1) ∧
    parseCpuinfo (wordResult overflowChecks 32) (block.text (number :: numbers)) =
      some (model, features, physicalAll, numbers.length + 1)

theorem parseCpuinfo_text_eq_some_iff (overflowChecks : Bool) (block : CpuBlock) (number : Nat)
    (numbers : List Nat) (h : ∀ other ∈ number :: numbers, other < 2 ^ 32) (model : String)
    (features : List String) :
    (∃ physicalCores, parseCpuinfo (wordResult overflowChecks 32) (block.text (number :: numbers)) =
        some (model, features, physicalCores, numbers.length + 1)) ↔
      numbers.length + 1 < 2 ^ 32 ∧
        (overflowChecks = true → socketCores block.physicalIds block.coresPerSocket < 2 ^ 32) ∧
        block.description numbers.length = model ∧ block.features = features := by
  rw [block.parseCpuinfo_text _ number numbers h, foldlM_wordResult_succ, List.length_cons]
  have hphysical := physicalCores_isSome_iff overflowChecks ⟨block.description numbers.length,
    block.features, numbers.length + 1, block.physicalIds, block.coresPerSocket⟩
  constructor
  · rintro ⟨physicalCores, hsome⟩
    obtain ⟨cores, hcores, hrest⟩ := Option.bind_eq_some_iff.mp hsome
    obtain ⟨physical, hsockets, hresult⟩ := Option.map_eq_some_iff.mp hrest
    simp only [Prod.mk.injEq] at hresult
    obtain ⟨hmodel, hfeatures, -, rfl⟩ := hresult
    exact ⟨(wordResult_exact_iff overflowChecks 32 _).mp hcores, hphysical.mp ⟨physical, hsockets⟩,
      hmodel, hfeatures⟩
  · rintro ⟨hcount, hfits, rfl, rfl⟩
    obtain ⟨physical, hsockets⟩ := hphysical.mpr hfits
    refine ⟨physical, ?_⟩
    rw [wordResult_of_lt overflowChecks 32 _ hcount, Option.bind_some, hsockets, Option.map_some]

-- The blocks are described as one of them exactly if their count and the physical cores fit a
-- word, and there is only one or none of its lines adds a part to the description again.
theorem cpu_description_independent_iff (overflowChecks : Bool) (block : CpuBlock) (number : Nat)
    (numbers : List Nat) (h : ∀ other ∈ number :: numbers, other < 2 ^ 32) :
    DescribedAlike overflowChecks block number numbers ↔
      numbers.length + 1 < 2 ^ 32 ∧
        (overflowChecks = true → socketCores block.physicalIds block.coresPerSocket < 2 ^ 32) ∧
        (numbers = [] ∨ ¬block.Grows) := by
  have hone : ∀ other ∈ [number], other < 2 ^ 32 := fun other hother =>
    h other (List.mem_cons.mpr (Or.inl (List.mem_singleton.mp hother)))
  have hsingle := parseCpuinfo_text_eq_some_iff overflowChecks block number [] hone
  have hall := parseCpuinfo_text_eq_some_iff overflowChecks block number numbers h
  have hlength : numbers.length = 0 ↔ numbers = [] := List.length_eq_zero_iff
  rw [← hlength, ← block.description_eq_iff]
  constructor
  · rintro ⟨model, features, physicalOne, physicalAll, hparsed, hparsedAll⟩
    obtain ⟨-, -, hmodel, -⟩ := (hsingle model features).mp ⟨physicalOne, hparsed⟩
    obtain ⟨hcount, hfits, hmodelAll, -⟩ := (hall model features).mp ⟨physicalAll, hparsedAll⟩
    exact ⟨hcount, hfits, hmodelAll.trans hmodel.symm⟩
  · rintro ⟨hcount, hfits, hmodel⟩
    obtain ⟨physicalOne, hparsed⟩ :=
      (hsingle block.model block.features).mpr ⟨by decide, hfits, rfl, rfl⟩
    obtain ⟨physicalAll, hparsedAll⟩ :=
      (hall block.model block.features).mpr ⟨hcount, hfits, hmodel, rfl⟩
    exact ⟨block.model, block.features, physicalOne, physicalAll, hparsed, hparsedAll⟩

def xeonBlock : CpuBlock where
  before := []
  after := ["model name\t: Xeon", "flags\t: avx", ""]
  unbroken := by decide
  unnumbered := by decide +kernel

theorem cpu_description_independent_xeon : DescribedAlike true xeonBlock 0 [1, 2, 3] := by
  refine (cpu_description_independent_iff true xeonBlock 0 [1, 2, 3] (by decide)).mpr
    ⟨by decide, fun _ => ?_, Or.inr ?_⟩
  · decide +kernel
  · rintro ⟨hnamed, -⟩
    exact absurd hnamed (by decide +kernel)

def armBlock : CpuBlock where
  before := []
  after := ["CPU implementer\t: 0x41", "CPU part\t: 0xd40", ""]
  unbroken := by decide
  unnumbered := by decide +kernel

theorem cpu_description_grows :
    armBlock.text [0, 1] = "processor\t: 0\nCPU implementer\t: 0x41\nCPU part\t: 0xd40\n\n" ++
        "processor\t: 1\nCPU implementer\t: 0x41\nCPU part\t: 0xd40\n\n" ∧
      parseCpuinfo (wordResult false 32) (armBlock.text [0]) =
        some ("ARM implementer 0x41 part 0xd40", [], 1, 1) ∧
      parseCpuinfo (wordResult false 32) (armBlock.text [0, 1]) =
        some ("ARM implementer 0x41 part 0xd40 part 0xd40", [], 2, 2) ∧
      ¬DescribedAlike false armBlock 0 [1] := by
  have hone : parseCpuinfo (wordResult false 32) (armBlock.text [0]) =
      some ("ARM implementer 0x41 part 0xd40", [], 1, 1) := by decide +kernel
  have htwo : parseCpuinfo (wordResult false 32) (armBlock.text [0, 1]) =
      some ("ARM implementer 0x41 part 0xd40 part 0xd40", [], 2, 2) := by decide +kernel
  refine ⟨by decide +kernel, hone, htwo, ?_⟩
  rintro ⟨model, features, physicalOne, physicalAll, hparsed, hparsedAll⟩
  rw [hone, Option.some.injEq, Prod.mk.injEq] at hparsed
  rw [htwo, Option.some.injEq, Prod.mk.injEq, ← hparsed.1] at hparsedAll
  exact absurd hparsedAll.1 (by decide)

end Pact.Agent.Capability
