import Pact.Journal.Server.Lemmas
import Pact.Journal.State.Theorems

namespace Pact.Journal.ConfigService

open Pact.Library Pact.Common

section Codec

theorem protoAction_domainAction (action : DeltaAction) :
    protoAction (domainAction action) = action := by
  cases action <;> rfl

theorem gpuIndex_of_key (index : UInt32) :
    UInt32.ofNat ((parseUnsigned 32 (toString index)).getD 0) = index := by
  have hparsed : parseUnsigned 32 (toString index) = some index.toNat :=
    parseUnsigned_toString 32 index.toNat index.toNat_lt
  rw [hparsed, Option.getD_some, UInt32.ofNat_toNat]

-- What a message says about mounts is the one part of it that is not sent back.
theorem stateDelta_roundTrip (proto : Proto.StateDelta)
    (hmounts : (protoToStateDelta proto).mounts = []) :
    protoToStateDelta (stateDeltaToProto (protoToStateDelta proto)) = protoToStateDelta proto := by
  have hnone : proto.mounts = [] := List.map_eq_nil_iff.mp hmounts
  simp only [protoToStateDelta, stateDeltaToProto, List.map_map, Function.comp_def,
    protoAction_domainAction, gpuIndex_of_key, hnone, List.map_nil]

theorem entryTypeToProto_received (code : Int) (entryType : EntryType)
    (h : protoToEntryType code = some entryType) : entryTypeToProto entryType = code := by
  have hrange : 1 ≤ code ∧ code ≤ 13 := by
    by_contra hout
    have hnone : protoToEntryType code = none := by
      unfold protoToEntryType
      repeat rw [if_neg (by omega)]
    rw [hnone] at h
    cases h
  obtain ⟨hlow, hhigh⟩ := hrange
  interval_cases code <;> cases h <;> rfl

theorem scope_roundTrip (scope : Scope) : protoToScope (some (scopeToProto scope)) = scope := by
  cases scope <;> rfl

theorem author_roundTrip (author : Identity) :
    protoToAuthor ⟨author.principal, principalTypeToProto author.principalType, author.role⟩ =
      author := by
  obtain ⟨principal, principalType, role⟩ := author
  cases principalType <;> rfl

theorem ttl_roundTrip (ttl : Option Proto.Duration) :
    protoToTtl ((protoToTtl ttl).map fun (seconds : Nat) => ⟨seconds, 0⟩) = protoToTtl ttl := by
  cases ttl with
  | none => rfl
  | some duration =>
    have hseconds : 0 ≤ duration.seconds % 2 ^ 32 := Int.emod_nonneg _ (by decide)
    simp only [protoToTtl, Option.map_some, Int.toNat_of_nonneg hseconds, Int.emod_emod]

theorem policyRef_sent (text : String) :
    (if text = "" then none else some text).getD "" = text := by
  by_cases h : text = "" <;> simp [h]

-- What the journal has received it sends back unchanged, but for the time stamp and for what is
-- mounted where.
theorem codec_faithful (now later : DateTime) (proto : Proto.ConfigEntry) (entry : ConfigEntry)
    (hdecoded : protoToConfigEntry now proto = .ok entry)
    (hmounts : ∀ delta, entry.stateDelta = some delta → delta.mounts = []) :
    protoToConfigEntry later (configEntryToProto entry) =
      .ok { entry with timestamp := later } := by
  obtain ⟨author, entryType, hauthor, htype, rfl⟩ := protoToConfigEntry_ok now proto entry hdecoded
  have hcode : protoToEntryType (entryTypeToProto entryType) = some entryType := by
    rw [entryTypeToProto_received proto.entryType entryType htype]
    exact htype
  have hdelta : ((proto.stateDelta.map protoToStateDelta).map stateDeltaToProto).map
      protoToStateDelta = proto.stateDelta.map protoToStateDelta := by
    cases hsent : proto.stateDelta with
    | none => rfl
    | some delta =>
      have hnone := hmounts (protoToStateDelta delta) (by rw [hsent]; rfl)
      simp only [Option.map_some, stateDelta_roundTrip delta hnone]
  simp only [protoToConfigEntry, configEntryToProto, hcode, scope_roundTrip, author_roundTrip,
    hdelta, ttl_roundTrip, policyRef_sent]

end Codec

def gpuCommit : Proto.ConfigEntry where
  sequence := 0
  timestamp := none
  entryType := 1
  scope := some ⟨some (.VclusterId "ml")⟩
  author := some ⟨"alice", "human", "pact-ops-ml"⟩
  parent := none
  stateDelta := some
    { mounts := [], files := [⟨"/etc/motd", 1, some "4e1f", some 420, some "root"⟩], network := []
      services := [], kernel := [⟨"vm.swappiness", 0, some "10", some "60"⟩], packages := []
      gpu := [⟨4294967295, 3, some "mig"⟩] }
  policyRef := ""
  ttl := some ⟨4294968196, 5⟩
  emergencyReason := none

def gpuEntry : ConfigEntry where
  sequence := 0
  timestamp := 0
  entryType := .Commit
  scope := .VCluster "ml"
  author := ⟨"alice", .Human, "pact-ops-ml"⟩
  parent := none
  stateDelta := some
    { mounts := [], files := [⟨.Add, "/etc/motd", some "4e1f", some "root"⟩], network := []
      services := [], kernel := [⟨.Modify, "vm.swappiness", some "10", some "60"⟩], packages := []
      gpu := [⟨.Modify, "4294967295", some "mig", none⟩] }
  policyRef := none
  ttlSeconds := some 900
  emergencyReason := none

theorem codec_faithful_gpu :
    protoToConfigEntry 0 gpuCommit = .ok gpuEntry ∧
    protoToConfigEntry 1 (configEntryToProto gpuEntry) = .ok { gpuEntry with timestamp := 1 } := by
  have hdecoded : protoToConfigEntry 0 gpuCommit = .ok gpuEntry := by decide +kernel
  refine ⟨hdecoded, codec_faithful 0 1 gpuCommit gpuEntry hdecoded ?_⟩
  rintro delta ⟨⟩
  rfl

section Ttl

variable (platform : Platform) (now : DateTime) (consensus : Consensus) (s after : JournalState)

-- The bounds on a time to live are checked after its seconds have been cut to 32 bits.
theorem ttl_as_sent_iff (request : Request Proto.AppendEntryRequest)
    (response : Proto.AppendEntryResponse) (proto : Proto.ConfigEntry) (ttl : Proto.Duration)
    (hentry : request.body.entry = some proto) (httl : proto.ttl = some ttl)
    (haccepted : (intercepted (appendEntry now) request).finish platform consensus s =
      (after, .ok response)) :
    ((ttl.seconds = 0 ∨ 900 ≤ ttl.seconds ∧ ttl.seconds ≤ 864000) ∧
      ∃ entry stored, after.entries.get response.sequence = some entry ∧
        entry.ttlSeconds = some stored ∧ (stored : Int) = ttl.seconds) ↔
    0 ≤ ttl.seconds ∧ ttl.seconds < 2 ^ 32 := by
  obtain ⟨received, entry, hreceived, hdecoded, hrejection, hsequence, rfl⟩ :=
    appendEntry_finish platform now consensus s after request.body response
      (intercepted_ok platform consensus s after _ request response haccepted)
  obtain rfl := Option.some.inj (hentry.symm.trans hreceived)
  obtain ⟨_, _, _, _, rfl⟩ := protoToConfigEntry_ok now proto entry hdecoded
  obtain ⟨_, _, _, hbounds⟩ := entryRejection_none s _ hrejection
  have hcut : protoToTtl proto.ttl = some (ttl.seconds % 2 ^ 32).toNat := by
    rw [httl]
    rfl
  have hwithin := hbounds _ hcut
  rw [hsequence, Map.get_insert_self]
  constructor
  · rintro ⟨hsent, _⟩
    omega
  · rintro ⟨hlow, hhigh⟩
    have hsame : ttl.seconds % 2 ^ 32 = ttl.seconds := Int.emod_eq_of_lt hlow hhigh
    rw [hsame] at hcut hwithin
    refine ⟨by omega, _, _, rfl, hcut, Int.toNat_of_nonneg hlow⟩

end Ttl

def ttlRequest (seconds : Int) : Request Proto.AppendEntryRequest where
  authorization := some (.Text "Bearer token-1")
  body := ⟨some { gpuCommit with ttl := some ⟨seconds, 0⟩ }⟩

def storedTtl (seconds : Int) : Option (Option Nat) :=
  match (intercepted (appendEntry 0) (ttlRequest seconds)).finish .ascii (.Committed 0) .default with
  | (after, .ok response) => (after.entries.get response.sequence).map ConfigEntry.ttlSeconds
  | (_, .error _) => none

theorem ttl_as_sent_quarter_hour : ∃ after response,
    (intercepted (appendEntry 0) (ttlRequest 900)).finish .ascii (.Committed 0) .default =
      (after, .ok response) ∧
    ∃ entry stored, after.entries.get response.sequence = some entry ∧
      entry.ttlSeconds = some stored ∧ (stored : Int) = 900 := by
  obtain ⟨after, response, haccepted⟩ : ∃ after response,
      (intercepted (appendEntry 0) (ttlRequest 900)).finish .ascii (.Committed 0) .default =
        (after, .ok response) := ⟨_, _, rfl⟩
  exact ⟨after, response, haccepted, ((ttl_as_sent_iff .ascii 0 (.Committed 0) .default after
    (ttlRequest 900) response _ ⟨900, 0⟩ rfl rfl haccepted).mpr (by decide)).2⟩

-- A time to live of some 136 years counts as a quarter of an hour, and so does a negative one;
-- 2 ^ 32 seconds count as none.
theorem ttl_wraps_around :
    storedTtl (2 ^ 32 + 900) = some (some 900) ∧ storedTtl (900 - 2 ^ 32) = some (some 900) ∧
      storedTtl (2 ^ 32) = some (some 0) := by
  refine ⟨?_, ?_, ?_⟩ <;> decide +kernel

end Pact.Journal.ConfigService
