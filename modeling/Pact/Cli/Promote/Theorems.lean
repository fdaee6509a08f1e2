import Pact.Cli.Promote

namespace Pact.Cli.Promote

open Pact.Library Pact.Common

-- The categories that a spec file can hold.
inductive Category
  | Kernel
  | Services
  | Mounts
  | Files
  | Network
  | Packages
  deriving DecidableEq

def Category.items : Category → StateDelta → List DeltaItem
  | .Kernel, delta => delta.kernel
  | .Services, delta => delta.services
  | .Mounts, delta => delta.mounts
  | .Files, delta => delta.files
  | .Network, delta => delta.network
  | .Packages, delta => delta.packages

-- The values that the deltas give a key, in order, without the removals.
def valuesOf (category : Category) (deltas : List StateDelta) (key : String) : List String :=
  ((active (deltas.flatMap category.items)).filter (·.key = key)).filterMap DeltaItem.value

def latest (category : Category) (deltas : List StateDelta) (key : String) : Option String :=
  (valuesOf category deltas key).getLast?

-- What applying a spec changes for one vCluster: nothing where the spec does not name it.
def appliedTo (vclusterId : String) (spec : ApplySpec) : StateDelta :=
  specToDelta ((spec.vcluster.get vclusterId).getD .default)

def Sets (category : Category) (delta : StateDelta) (key value : String) : Prop :=
  ∃ item ∈ category.items delta, item.key = key ∧ item.value = some value

-- The value that a key of the category has in the part of a spec for one vCluster.
def Category.valueIn : Category → VClusterSpec → String → Option String
  | .Kernel, spec, key => spec.sysctl.get key
  | .Services, spec, key => (spec.services.get key).map ServiceSpec.state
  | .Mounts, spec, key => (spec.mounts.get key).map mountValue
  | .Files, spec, key => (spec.files.get key).bind FileSpec.contentHash
  | .Network, spec, key => spec.network.get key
  | .Packages, spec, key => spec.packages.get key

-- No line of what is written for an item opens a table. A key or a value that holds line breaks
-- is written over several lines, and a key stands at the start of one.
def Contained (deltas : List StateDelta) : Prop :=
  ∀ entry ∈ deltas.flatMap sections, ∀ item ∈ active entry.2,
    ∀ line ∈ split (itemLine item) '\n', Toml.opensTable line = false

instance (deltas : List StateDelta) : Decidable (Contained deltas) :=
  inferInstanceAs (Decidable (∀ entry ∈ deltas.flatMap sections, ∀ item ∈ active entry.2,
    ∀ line ∈ split (itemLine item) '\n', Toml.opensTable line = false))

def NothingToPromote (deltas : List StateDelta) : Prop :=
  ∀ category : Category, ∀ delta ∈ deltas, ∀ item ∈ active (category.items delta),
    item.value = none

section Export

variable (deltas : List StateDelta)

def sectionNames : List String :=
  ["kernel", "services", "mounts", "files", "network", "packages", "gpu"]

theorem name_mem_sectionNames (entry : String × List DeltaItem)
    (hentry : entry ∈ deltas.flatMap sections) : entry.1 ∈ sectionNames := by
  obtain ⟨delta, -, hsection⟩ := List.mem_flatMap.mp hentry
  have hname : entry.1 ∈ (sections delta).map Prod.fst := List.mem_map_of_mem hsection
  exact hname

theorem header_lines (name : String) (hname : name ∈ sectionNames) :
    split ("[" ++ name ++ "]") '\n' = ["[" ++ name ++ "]"] ∧
      Toml.opensTable ("[" ++ name ++ "]") = true ∧ Toml.isBareKey name = true := by
  have hall : ∀ name ∈ sectionNames,
      split ("[" ++ name ++ "]") '\n' = ["[" ++ name ++ "]"] ∧
        Toml.opensTable ("[" ++ name ++ "]") = true ∧ Toml.isBareKey name = true := by
    decide +kernel
  exact hall name hname

theorem split_unlines (parts : List String) :
    split (unlines parts) '\n' = parts.flatMap (split · '\n') ++ [""] := by
  induction parts with
  | nil => rfl
  | cons line rest ih =>
    have hcons : split (unlines (line :: rest)) '\n' =
        split line '\n' ++ split (unlines rest) '\n' :=
      split_append_singleton '\n' line (unlines rest)
    rw [hcons, ih, List.flatMap_cons, List.append_assoc]

-- The sections of the export, as they are written one after the other.
def body (sections : List (String × List DeltaItem)) : List String :=
  sections.flatMap fun (name, items) => writeSection name items

theorem split_export :
    split (exportDeltasAsToml deltas) '\n' =
      ["# Promoted from node deltas", "# Review and apply with: pact apply <this-file.toml>", ""] ++
        ((body (deltas.flatMap sections)).flatMap (split · '\n') ++ [""]) := by
  rw [exportDeltasAsToml, exportLines, split_unlines, List.flatMap_append, List.append_assoc]
  exact congrArg (· ++ _) (by decide +kernel)

theorem mem_writeSection (name : String) (items : List DeltaItem) (line : String)
    (hline : line ∈ writeSection name items) :
    line = "[" ++ name ++ "]" ∨ (∃ item ∈ active items, line = itemLine item) ∨ line = "" := by
  rw [writeSection] at hline
  split at hline
  · cases hline
  · simpa [eq_comm] using hline

-- Where nothing that is written for an item opens a table, only the headers of the sections do.
theorem header_of_opensTable (hcontained : Contained deltas) (line : String)
    (hline : line ∈ split (exportDeltasAsToml deltas) '\n')
    (hopens : Toml.opensTable line = true) : ∃ name ∈ sectionNames, line = "[" ++ name ++ "]" := by
  rw [split_export, List.mem_append, List.mem_append] at hline
  rcases hline with hcomment | hbody | hlast
  · have hsilent : ∀ line ∈ ["# Promoted from node deltas",
        "# Review and apply with: pact apply <this-file.toml>", ""],
        Toml.opensTable line = false := by
      decide
    rw [hsilent line hcomment] at hopens
    cases hopens
  · obtain ⟨written, hwritten, hpart⟩ := List.mem_flatMap.mp hbody
    obtain ⟨entry, hentry, hsection⟩ := List.mem_flatMap.mp hwritten
    have hname := name_mem_sectionNames deltas entry hentry
    rcases mem_writeSection entry.1 entry.2 written hsection with rfl | ⟨item, hitem, rfl⟩ | rfl
    · rw [(header_lines entry.1 hname).1] at hpart
      exact ⟨entry.1, hname, List.mem_singleton.mp hpart⟩
    · rw [hcontained entry hentry item hitem line hpart] at hopens
      cases hopens
    · have hempty : line ∈ [""] := hpart
      rw [List.mem_singleton.mp hempty] at hopens
      cases hopens
  · rw [List.mem_singleton.mp hlast] at hopens
    cases hopens

theorem body_head (all : List (String × List DeltaItem))
    (hnames : ∀ entry ∈ all, entry.1 ∈ sectionNames) :
    body all = [] ∨ ∃ name ∈ sectionNames, ∃ rest, body all = ("[" ++ name ++ "]") :: rest := by
  induction all with
  | nil => exact .inl rfl
  | cons entry all ih =>
    obtain ⟨hname, hlater⟩ := List.forall_mem_cons.mp hnames
    have hbody : body (entry :: all) = writeSection entry.1 entry.2 ++ body all := rfl
    rw [hbody]
    by_cases hactive : active entry.2 = []
    · simpa [writeSection, hactive] using ih hlater
    · rw [writeSection, if_neg hactive, List.cons_append]
      exact .inr ⟨entry.1, hname, _, rfl⟩

-- Before the first header stand comments only, whatever the deltas hold.
theorem isSilent_of_before_header (line : String)
    (hline : line ∈ (split (exportDeltasAsToml deltas) '\n').takeWhile
      fun line => !Toml.opensTable line) : Toml.isSilent line = true := by
  have hcomments : ∀ line ∈ ["# Promoted from node deltas",
      "# Review and apply with: pact apply <this-file.toml>", ""],
      (!Toml.opensTable line) = true ∧ Toml.isSilent line = true := by
    decide
  rw [split_export, List.takeWhile_append_of_pos fun line hmem => (hcomments line hmem).1,
    List.mem_append] at hline
  rcases hline with hcomment | hrest
  · exact (hcomments line hcomment).2
  · rcases body_head (deltas.flatMap sections) (name_mem_sectionNames deltas) with
      hnone | ⟨name, hname, rest, hbody⟩
    · rw [hnone] at hrest
      have hempty : line ∈ [""] := (List.takeWhile_prefix _).subset hrest
      rw [List.mem_singleton.mp hempty]
      rfl
    · obtain ⟨hsplit, hopens, -⟩ := header_lines name hname
      rw [hbody, List.flatMap_cons, hsplit, List.append_assoc, List.singleton_append,
        List.takeWhile_cons_of_neg (by simp [hopens])] at hrest
      cases hrest

end Export

theorem latest_eq_none_iff (category : Category) (deltas : List StateDelta) :
    (∀ key, latest category deltas key = none) ↔
      ∀ delta ∈ deltas, ∀ item ∈ active (category.items delta), item.value = none := by
  have hmem : ∀ item : DeltaItem, item ∈ active (deltas.flatMap category.items) ↔
      ∃ delta ∈ deltas, item ∈ active (category.items delta) := by
    intro item
    simp only [active, List.mem_filter, List.mem_flatMap]
    tauto
  have hlatest : ∀ key, latest category deltas key = none ↔
      ∀ item ∈ active (deltas.flatMap category.items), item.key = key → item.value = none := by
    intro key
    simp [latest, valuesOf]
  constructor
  · intro hnone delta hdelta item hitem
    exact (hlatest item.key).mp (hnone item.key) item ((hmem item).mpr ⟨delta, hdelta, hitem⟩) rfl
  · intro hnone key
    rw [hlatest key]
    intro item hitem _
    obtain ⟨delta, hdelta, hin⟩ := (hmem item).mp hitem
    exact hnone delta hdelta item hin

theorem sets_specToDelta_iff (category : Category) (spec : VClusterSpec) (key value : String) :
    Sets category (specToDelta spec) key value ↔ category.valueIn spec key = some value := by
  cases category <;>
    simp [Sets, Category.items, Category.valueIn, specToDelta, Map.mem_toList_iff,
      Option.bind_eq_some_iff]

section Promote

variable (toml : TomlLibrary) (deltas : List StateDelta) (vclusterId : String)

-- The export is TOML, it loads as a spec, and that spec sets each key to its latest value and
-- nothing else.
def PromotesFaithfully : Prop :=
  ∃ spec, loadSpec toml (exportDeltasAsToml deltas) = some spec ∧
    ∀ category key value,
      Sets category (appliedTo vclusterId spec) key value ↔
        latest category deltas key = some value

def HoldsLatest (spec : ApplySpec) : Prop :=
  ∀ (category : Category) key,
    category.valueIn ((spec.vcluster.get vclusterId).getD .default) key =
      latest category deltas key

theorem loadSpec_contained (htoml : toml.Lawful) (hcontained : Contained deltas) (spec : ApplySpec)
    (hspec : loadSpec toml (exportDeltasAsToml deltas) = some spec) : spec = ⟨.empty⟩ := by
  obtain ⟨table, hparse, htop⟩ := Option.bind_eq_some_iff.mp hspec
  have hnone : table.get "vcluster" = none := by
    cases hget : table.get "vcluster" with
    | none => rfl
    | some value =>
      rcases htoml.declared _ table "vcluster" value hparse hget with
        ⟨line, hline, hloud⟩ | ⟨line, hline, hopens, hplain⟩
      · rw [isSilent_of_before_header deltas line hline] at hloud
        cases hloud
      · obtain ⟨name, hname, hheader⟩ :=
          header_of_opensTable deltas hcontained line hline hopens
        have hvcluster := hplain name (header_lines name hname).2.2 hheader
        rw [hvcluster] at hname
        exact absurd hname (by decide)
  rw [loadTop, hnone] at htop
  exact (Option.some.inj htop).symm

theorem holdsLatest_iff (spec : ApplySpec) :
    (∀ category key value, Sets category (appliedTo vclusterId spec) key value ↔
      latest category deltas key = some value) ↔ HoldsLatest deltas vclusterId spec := by
  simp only [appliedTo, sets_specToDelta_iff, HoldsLatest]
  constructor
  · intro h category key
    exact Option.ext (h category key)
  · intro h category key value
    rw [h category key]

theorem holdsLatest_empty_iff :
    HoldsLatest deltas vclusterId ⟨.empty⟩ ↔ NothingToPromote deltas := by
  have hempty : ∀ (category : Category) key,
      category.valueIn ((Map.empty.get vclusterId).getD .default) key = none := by
    intro category key
    cases category <;> rfl
  simp only [HoldsLatest, hempty]
  constructor
  · intro h category
    exact (latest_eq_none_iff category deltas).mp fun key => (h category key).symm
  · intro h category key
    exact ((latest_eq_none_iff category deltas).mpr (h category) key).symm

end Promote

def silentToml : TomlLibrary where
  Value := Unit
  parse _ := some .empty
  asText _ := none
  asTable _ := none
  asRecord _ _ := none

-- A parameter of the kernel, and a value for a GPU that closes its string and writes the
-- parameter once more under the vCluster.
def injectingDelta : StateDelta :=
  ⟨[], [], [], [], [⟨.Modify, "vm.swappiness", some "10", none⟩], [],
    [⟨.Modify, "0", some "A100\"\n[vcluster.ml.sysctl]\n\"vm.swappiness\" = \"10", none⟩]⟩

-- The values of one document are numbered: the tables `vcluster`, `vcluster.ml` and
-- `vcluster.ml.sysctl`, and the one text.
def nestedTable : Nat → Option (Map String Nat)
  | 0 => some (Map.empty.insert "ml" 1)
  | 1 => some (Map.empty.insert "sysctl" 2)
  | 2 => some (Map.empty.insert "vm.swappiness" 3)
  | _ => none

def injectedToml : TomlLibrary where
  Value := Nat
  parse text :=
    if text = exportDeltasAsToml [injectingDelta] then some (Map.empty.insert "vcluster" 0)
    else none
  asText value := if value = 3 then some "10" else none
  asTable := nestedTable
  asRecord _ := nestedTable

theorem silentToml_lawful : silentToml.Lawful where
  declared text table key value hparse hget := by
    rw [← Option.some.inj hparse] at hget
    cases hget

theorem injectedToml_lawful : injectedToml.Lawful where
  declared text table key value hparse _ := by
    refine .inr ⟨"[vcluster.ml.sysctl]", ?_, by decide, ?_⟩
    · have htext : text = exportDeltasAsToml [injectingDelta] := by
        by_contra hother
        simp only [injectedToml, if_neg hother] at hparse
        cases hparse
      rw [htext]
      decide +kernel
    · intro name hname hheader
      have hchars : "[".toList ++ "vcluster.ml.sysctl".toList ++ "]".toList =
          "[".toList ++ name.toList ++ "]".toList := by
        simpa [String.toList_append] using congrArg String.toList hheader
      have hsame := List.append_cancel_left (List.append_cancel_right hchars)
      rw [← String.toList_inj.mp hsame] at hname
      exact absurd hname (by decide)

def kernelDelta (key value : String) : StateDelta :=
  ⟨[], [], [], [], [⟨.Modify, key, some value, none⟩], [], []⟩

end Pact.Cli.Promote
