import Pact.Cli.Apply
import Pact.Journal.Server.Lemmas

namespace Pact.Cli

open Pact.Library Pact.Common Pact.Journal

-- What is left of a spec once the journal has decoded it: everything but what is mounted.
theorem decoded_specToDelta (spec : VClusterSpec) :
    ConfigService.protoToStateDelta (ConfigService.stateDeltaToProto (specToDelta spec)) =
      { specToDelta spec with
        mounts := spec.mounts.toList.map fun stored => ⟨.Add, stored.1, none, none⟩ } := by
  simp only [ConfigService.protoToStateDelta, ConfigService.stateDeltaToProto, specToDelta,
    List.map_map, StateDelta.mk.injEq, List.map_nil]
  exact ⟨rfl, rfl, rfl, rfl, rfl, rfl, trivial⟩

theorem decoded_eq_iff (spec : VClusterSpec) :
    ConfigService.protoToStateDelta (ConfigService.stateDeltaToProto (specToDelta spec)) =
      specToDelta spec ↔ spec.mounts = .empty := by
  rw [decoded_specToDelta, ← Map.toList_eq_nil_iff]
  constructor
  · intro h
    have hmounts := congrArg StateDelta.mounts h
    simp only [specToDelta] at hmounts
    cases hlist : spec.mounts.toList with
    | nil => rfl
    | cons first rest => simp [hlist] at hmounts
  · intro h
    simp [specToDelta, h]

-- Nothing that was stored is touched again.
structure Extends (s after : JournalState) : Prop where
  grows : s.nextSequence ≤ after.nextSequence
  keeps : ∀ key, key < s.nextSequence → after.entries.get key = s.entries.get key

theorem Extends.refl (s : JournalState) : Extends s s := ⟨Nat.le_refl _, fun _ _ => rfl⟩

theorem Extends.trans {s after last : JournalState} (first : Extends s after)
    (second : Extends after last) : Extends s last := by
  refine ⟨Nat.le_trans first.grows second.grows, ?_⟩
  intro key hkey
  rw [second.keeps key (Nat.lt_of_lt_of_le hkey first.grows), first.keeps key hkey]

section Submission

variable (platform : Platform) (library : RpcLibrary) (invocation : Invocation)

theorem extends_apply (now : DateTime) (s : JournalState) (cmd : JournalCommand) :
    Extends s (Journal.apply platform now s cmd).1 := by
  rcases apply_entries platform now s cmd with ⟨hentries, hnext⟩ | ⟨entry, _, _, hentries, hnext⟩
  · exact ⟨hnext ▸ Nat.le_refl _, fun key _ => by rw [hentries]⟩
  · refine ⟨by omega, ?_⟩
    intro key hkey
    rw [hentries, Map.get_insert_of_ne _ _ (Nat.ne_of_lt hkey)]

theorem extends_replay (s : JournalState) (commands : List Applied) :
    Extends s (replay platform s commands).1 :=
  (replay_run platform s commands).invariant (Extends s)
    (fun reached applied after h _ hnext => by
      obtain rfl := Option.some.inj hnext
      exact h.trans (extends_apply platform applied.now reached applied.command))
    (.refl s)

theorem extends_finds (journal : JournalState) (delivery : Delivery) :
    Extends journal (delivery.finds platform journal) := by
  cases delivery with
  | Unreachable status => exact .refl journal
  | Served others now consensus lostReply => exact extends_replay platform journal others

theorem appendEntry_applyEntry (now : DateTime) (name : String) (spec : VClusterSpec)
    (authorization : Option MetadataValue) (cmd : JournalCommand)
    (h : (intercepted (ConfigService.appendEntry now)
      ⟨authorization, ⟨some (applyEntry invocation name spec)⟩⟩).command = some cmd) :
    ∃ entry, cmd = .AppendEntry entry ∧ entry.stateDelta =
      some (ConfigService.protoToStateDelta (ConfigService.stateDeltaToProto (specToDelta spec))) := by
  obtain ⟨_, hhandler⟩ := intercepted_command _ _ cmd h
  obtain ⟨proto, entry, hproto, hdecoded, rfl⟩ := appendEntry_command now _ cmd hhandler
  obtain rfl := Option.some.inj hproto
  obtain rfl := Except.ok.inj hdecoded
  exact ⟨_, rfl, rfl⟩

section Submission

variable (journal : JournalState) (delivery : Delivery) (name : String) (spec : VClusterSpec)

theorem submit_cases :
    (submit platform library invocation journal delivery name spec).1 =
      delivery.finds platform journal ∨
    ∃ now entry, entry.stateDelta = some (ConfigService.protoToStateDelta
        (ConfigService.stateDeltaToProto (specToDelta spec))) ∧
      (submit platform library invocation journal delivery name spec).1 =
        (Journal.apply platform now (delivery.finds platform journal) (.AppendEntry entry)).1 := by
  simp only [submit]
  cases authorize library invocation.token with
  | error status => exact .inl rfl
  | ok authorization =>
    cases delivery with
    | Unreachable status => exact .inl rfl
    | Served others now consensus lostReply =>
      rcases finish_cases platform consensus (replay platform journal others).1
        (intercepted (ConfigService.appendEntry now)
          ⟨authorization, ⟨some (applyEntry invocation name spec)⟩⟩) with
        hsame | ⟨cmd, applied, hcmd, hafter⟩
      · refine .inl ?_
        cases lostReply <;> exact hsame
      · obtain ⟨entry, rfl, hdelta⟩ :=
          appendEntry_applyEntry invocation now name spec authorization cmd hcmd
        refine .inr ⟨applied, entry, hdelta, ?_⟩
        cases lostReply <;> exact hafter

theorem extends_submit :
    Extends journal (submit platform library invocation journal delivery name spec).1 := by
  rcases submit_cases platform library invocation journal delivery name spec with
    hsame | ⟨now, entry, _, hafter⟩
  · rw [hsame]
    exact extends_finds platform journal delivery
  · rw [hafter]
    exact (extends_finds platform journal delivery).trans (extends_apply platform now _ _)

theorem submit_delta_iff (key : Nat) (entry : ConfigEntry)
    (hget : (submit platform library invocation journal delivery name spec).1.entries.get key =
      some entry)
    (hnew : (delivery.finds platform journal).entries.get key ≠ some entry) :
    entry.stateDelta = some (specToDelta spec) ↔ spec.mounts = .empty := by
  rcases submit_cases platform library invocation journal delivery name spec with
    hsame | ⟨now, sent, hdelta, hafter⟩
  · rw [hsame] at hget
    exact absurd hget hnew
  · rw [hafter] at hget
    rcases apply_entries platform now (delivery.finds platform journal) (.AppendEntry sent) with
      ⟨hentries, _⟩ | ⟨added, hadded, _, hentries, _⟩
    · rw [hentries] at hget
      exact absurd hget hnew
    · obtain rfl := JournalCommand.AppendEntry.inj hadded
      rw [hentries, Map.get_insert] at hget
      split_ifs at hget
      · obtain rfl := Option.some.inj hget
        rw [← decoded_eq_iff spec]
        simp only [hdelta, Option.some.injEq]
      · exact absurd hget hnew

theorem submit_ok (response : Proto.AppendEntryResponse)
    (h : (submit platform library invocation journal delivery name spec).2 = .ok response) :
    response.sequence <
      (submit platform library invocation journal delivery name spec).1.nextSequence ∧
    ∃ entry, (submit platform library invocation journal delivery name spec).1.entries.get
        response.sequence = some entry ∧
      (entry.stateDelta = some (specToDelta spec) ↔ spec.mounts = .empty) := by
  simp only [submit] at h ⊢
  cases hauthorize : authorize library invocation.token with
  | error status => simp [hauthorize] at h
  | ok authorization =>
    cases delivery with
    | Unreachable status => simp [hauthorize] at h
    | Served others now consensus lostReply =>
      cases lostReply with
      | some status => simp [hauthorize] at h
      | none =>
        simp only [hauthorize, Delivery.finds] at h ⊢
        generalize hfinish : (intercepted (ConfigService.appendEntry now)
          ⟨authorization, ⟨some (applyEntry invocation name spec)⟩⟩).finish platform consensus
          (replay platform journal others).1 = result at h ⊢
        obtain ⟨after, answer⟩ := result
        obtain rfl : answer = .ok response := h
        obtain ⟨proto, entry, hproto, hdecoded, _, hsequence, rfl⟩ :=
          appendEntry_finish platform now consensus _ after _ response
            (intercepted_ok platform consensus _ after _ _ response hfinish)
        obtain rfl := Option.some.inj hproto
        obtain rfl := Except.ok.inj hdecoded
        rw [hsequence]
        refine ⟨Nat.lt_succ_self _, _, Map.get_insert_self _ _ _, ?_⟩
        rw [← decoded_eq_iff spec]
        simp [applyEntry]

end Submission

theorem extends_submitAll (delivery : String → Delivery) (journal : JournalState)
    (specs : List (String × VClusterSpec)) :
    Extends journal (submitAll platform library invocation delivery journal specs).1 := by
  induction specs generalizing journal with
  | nil => exact .refl journal
  | cons first rest ih =>
    obtain ⟨name, spec⟩ := first
    have hsubmit := extends_submit platform library invocation journal (delivery name) name spec
    simp only [submitAll]
    split
    · rename_i after status heq
      rw [heq] at hsubmit
      exact hsubmit
    · rename_i after response heq
      rw [heq] at hsubmit
      exact hsubmit.trans (ih after)

theorem submitAll_applied (delivery : String → Delivery) (journal : JournalState)
    (specs : List (String × VClusterSpec)) (name : String) (sequence : Nat)
    (h : (name, sequence) ∈ (submitAll platform library invocation delivery journal specs).2.1) :
    ∃ spec entry, (name, spec) ∈ specs ∧
      (submitAll platform library invocation delivery journal specs).1.entries.get sequence =
        some entry ∧
      (entry.stateDelta = some (specToDelta spec) ↔ spec.mounts = .empty) := by
  induction specs generalizing journal with
  | nil => cases h
  | cons first rest ih =>
    obtain ⟨other, spec⟩ := first
    have hok := submit_ok platform library invocation journal (delivery other) other spec
    simp only [submitAll] at h ⊢
    split at h
    · cases h
    · rename_i after response heq
      simp only [heq] at hok ⊢
      rcases List.mem_cons.mp h with hfirst | hrest
      · obtain ⟨rfl, rfl⟩ := Prod.mk.inj hfirst
        obtain ⟨hless, entry, hget, hiff⟩ := hok response rfl
        refine ⟨spec, entry, List.mem_cons_self, ?_, hiff⟩
        rw [(extends_submitAll platform library invocation delivery after rest).keeps _ hless, hget]
      · obtain ⟨found, entry, hmem, hget, hiff⟩ := ih after hrest
        exact ⟨found, entry, List.mem_cons_of_mem _ hmem, hget, hiff⟩

theorem apply_journal (delivery : String → Delivery) (journal : JournalState) (spec : ApplySpec) :
    (apply platform library invocation delivery journal (.ok spec)).1 =
      (submitAll platform library invocation delivery journal spec.vcluster.toList).1 := by
  simp only [apply]
  split_ifs with hempty
  · rw [hempty]
    rfl
  · split <;> rename_i heq <;> rw [heq]

-- Every entry that pact apply stores has the delta of its spec exactly if the spec mounts nothing,
-- and so do those it reports as applied, in the journal it leaves behind.
theorem apply_lossless_iff (delivery : String → Delivery) (journal : JournalState)
    (spec : ApplySpec) :
    (∀ reached name vc key entry,
      (submit platform library invocation reached (delivery name) name vc).1.entries.get key =
        some entry →
      ((delivery name).finds platform reached).entries.get key ≠ some entry →
      (entry.stateDelta = some (specToDelta vc) ↔ vc.mounts = .empty)) ∧
    ∀ name sequence,
      (name, sequence) ∈
        (submitAll platform library invocation delivery journal spec.vcluster.toList).2.1 →
      ∃ vc entry, spec.vcluster.get name = some vc ∧
        (apply platform library invocation delivery journal (.ok spec)).1.entries.get sequence =
          some entry ∧
        (entry.stateDelta = some (specToDelta vc) ↔ vc.mounts = .empty) := by
  refine ⟨?_, ?_⟩
  · intro reached name vc key entry hget hnew
    exact submit_delta_iff platform library invocation reached (delivery name) name vc key entry
      hget hnew
  · intro name sequence hmem
    obtain ⟨vc, entry, hspec, hget, hiff⟩ :=
      submitAll_applied platform library invocation delivery journal _ name sequence hmem
    refine ⟨vc, entry, (Map.mem_toList_iff _ _ _).mp hspec, ?_, hiff⟩
    rw [apply_journal, hget]

end Submission

def scratchSpec : VClusterSpec :=
  { VClusterSpec.default with
    mounts := Map.empty.insert "/local-scratch" ⟨"nfs", "storage03:/scratch", "rw"⟩ }

def swapSpec : VClusterSpec :=
  { VClusterSpec.default with sysctl := Map.empty.insert "vm.swappiness" "10" }

-- Takes every text for a metadata value, as the real check does with printable ASCII.
def plainRpc : RpcLibrary where
  parseMetadata text := some (.Text text)
  statusText status := status.message

def scratchApplied : JournalState × Except String String :=
  apply .ascii plainRpc ⟨"spec.toml", "alice", "pact-ops-ml", "token"⟩
    (fun _ => .Served [] 0 (.Committed 0) none) .default
    (.ok ⟨Map.empty.insert "ml-training" scratchSpec⟩)

theorem apply_lossless_without_mounts : ∃ entry,
    (apply .ascii plainRpc ⟨"spec.toml", "alice", "pact-ops-ml", "token"⟩
      (fun _ => .Served [] 0 (.Committed 0) none) .default
      (.ok ⟨Map.empty.insert "ml-training" swapSpec⟩)).1.entries.get 0 = some entry ∧
      entry.stateDelta = some (specToDelta swapSpec) := by
  obtain ⟨vc, entry, hspec, hget, hiff⟩ := (apply_lossless_iff .ascii plainRpc
    ⟨"spec.toml", "alice", "pact-ops-ml", "token"⟩ (fun _ => .Served [] 0 (.Committed 0) none)
    .default ⟨Map.empty.insert "ml-training" swapSpec⟩).2 "ml-training" 0 (by decide +kernel)
  rw [Map.get_insert_self, Option.some.injEq] at hspec
  subst hspec
  exact ⟨entry, hget, hiff.mpr rfl⟩

-- The mount is stored without its type, source and options.
theorem applied_mount_loses_source :
    scratchApplied.2 = .ok ("vCluster ml-training: 1 changes\n" ++
      "  mount: /local-scratch (nfs:storage03:/scratch)\n\nApplied to ml-training (seq:0)") ∧
    (scratchApplied.1.entries.get 0).bind ConfigEntry.stateDelta =
      some { specToDelta .default with mounts := [⟨.Add, "/local-scratch", none, none⟩] } ∧
    (scratchApplied.1.entries.get 0).bind ConfigEntry.stateDelta ≠
      some (specToDelta scratchSpec) := by
  decide +kernel

end Pact.Cli
