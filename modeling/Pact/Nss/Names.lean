import Pact.Agent.Identity
import Pact.Common.UidMap.Theorems
import Pact.Nss

namespace Pact.Nss

open Pact.Library Pact.Common Pact.Agent.Identity UidMap

def PasswdEntry.ofUser (entry : UidEntry) : PasswdEntry where
  subject := entry.subject
  uid := entry.uid
  gid := entry.gid
  username := entry.username
  home := entry.home
  shell := entry.shell
  org := entry.org

theorem fromRecord_userRecord (entry : UidEntry) :
    PasswdEntry.fromRecord (userRecord entry) = some (.ofUser entry) := rfl

theorem loadPasswd_written (order : List UidEntry) :
    loadPasswd (some (order.map userRecord)) = order.map .ofUser := by
  simp only [loadPasswd, load, mapM_encoded _ _ _ fromRecord_userRecord, Option.getD_some]

-- The map and the lookup by name over passwd.db, in whatever order it was written, give for the
-- name of an entry that entry.
def NamesFaithful (map : UidMap) : Prop :=
  ∀ entry ∈ map.users.values,
    map.getByUsername entry.username = some entry ∧
    ∀ document, IdentityManager.IsPasswdDb ⟨map, true⟩ document →
      PactPasswd.getEntryByName entry.username (loadPasswd (some document)) =
        some (toPasswd (.ofUser entry))

def UniqueNames (map : UidMap) : Prop :=
  ∀ entry ∈ map.users.values, ∀ other ∈ map.users.values,
    entry.username = other.username → entry = other

def KeyedBySubject (map : UidMap) : Prop :=
  ∀ subject entry, map.users.get subject = some entry → entry.subject = subject

inductive NameStep
  | Register (registered : OrgIndex)
  | AssignUid (subject username org home shell : String)
  | GcOrg (org : String)
  deriving DecidableEq

-- Organisations are registered under any name and index.
def nameNext (map : UidMap) : NameStep → Option UidMap
  | .Register registered => some { map with orgIndices := map.orgIndices ++ [registered] }
  | .AssignUid subject username org home shell =>
    some (map.assignUid subject username org home shell).1
  | .GcOrg org => some (map.gcOrg org)

-- The subject is unknown, and its organisation is registered and has a number left.
def Admits (map : UidMap) (subject org : String) : Prop :=
  map.users.get subject = none ∧ (map.orgIndex org).isSome ∧ map.offset org < map.stride

instance (map : UidMap) (subject org : String) : Decidable (Admits map subject org) :=
  inferInstanceAs (Decidable (_ ∧ _))

-- A new entry gets a name that no other entry has, in its own organisation or another.
def NewName (map : UidMap) : NameStep → Prop
  | .AssignUid subject username org _ _ =>
    Admits map subject org → ∀ entry ∈ map.users.values, entry.username ≠ username
  | _ => True

instance (map : UidMap) (step : NameStep) : Decidable (NewName map step) := by
  unfold NewName
  split <;> infer_instance

section Names

theorem find_own_iff {A K : Type} [DecidableEq K] (key : A → K) (entries : List A) :
    (∀ entry ∈ entries, entries.find? (fun other => key other = key entry) = some entry) ↔
      ∀ entry ∈ entries, ∀ other ∈ entries, key entry = key other → entry = other := by
  constructor
  · intro h entry hentry other hother hkey
    have hfound := h entry hentry
    rw [hkey, h other hother] at hfound
    exact (Option.some.inj hfound).symm
  · intro h entry hentry
    cases hfind : entries.find? (fun other => key other = key entry) with
    | none =>
      have hmissed := List.find?_eq_none.mp hfind entry hentry
      simp at hmissed
    | some found =>
      have hkey : key found = key entry := by simpa using List.find?_some hfind
      rw [h found (List.mem_of_find?_eq_some hfind) entry hentry hkey]

theorem getEntryByName_written (name : String) (order : List UidEntry) :
    PactPasswd.getEntryByName name (loadPasswd (some (order.map userRecord))) =
      (order.find? fun entry => entry.username = name).map (toPasswd ∘ .ofUser) := by
  rw [loadPasswd_written, PactPasswd.getEntryByName, List.find?_map, Option.map_map]
  rfl

theorem namesFaithful_iff (map : UidMap) : NamesFaithful map ↔ UniqueNames map := by
  constructor
  · intro h
    exact (find_own_iff UidEntry.username map.users.values).mp fun entry hentry => (h entry hentry).1
  · intro h entry hentry
    refine ⟨(find_own_iff UidEntry.username map.users.values).mpr h entry hentry, ?_⟩
    rintro document ⟨order, horder, rfl⟩
    have hunique : ∀ entry ∈ order, ∀ other ∈ order,
        entry.username = other.username → entry = other :=
      fun entry hentry other hother => h entry (horder.mem_iff.mp hentry) other
        (horder.mem_iff.mp hother)
    rw [getEntryByName_written,
      (find_own_iff UidEntry.username order).mpr hunique entry (horder.mem_iff.mpr hentry)]
    rfl

variable (map : UidMap)

theorem uniqueNames_iff :
    UniqueNames map ↔ ∀ subject subject' entry other, map.users.get subject = some entry →
      map.users.get subject' = some other → entry.username = other.username → entry = other := by
  simp only [UniqueNames, Map.mem_values_iff]
  constructor
  · intro h subject subject' entry other hentry hother
    exact h entry ⟨subject, hentry⟩ other ⟨subject', hother⟩
  · rintro h entry ⟨subject, hentry⟩ other ⟨subject', hother⟩
    exact h subject subject' entry other hentry hother

theorem gcOrg_uniqueNames (org : String) (hunique : UniqueNames map) :
    UniqueNames (map.gcOrg org) := by
  rw [uniqueNames_iff] at hunique ⊢
  intro subject subject' entry other hentry hother
  rw [get_gcOrg] at hentry hother
  exact hunique subject subject' entry other hentry.1 hother.1

theorem inserted_uniqueNames_iff (subject : String) (entry : UidEntry) (after : UidMap)
    (hafter : after.users = map.users.insert subject entry)
    (hnew : map.users.get subject = none) (hsubject : entry.subject = subject)
    (hkeyed : KeyedBySubject map) (hunique : UniqueNames map) :
    UniqueNames after ↔ ∀ other ∈ map.users.values, other.username ≠ entry.username := by
  rw [uniqueNames_iff] at hunique
  simp only [uniqueNames_iff, hafter, Map.mem_values_iff]
  constructor
  · rintro h other ⟨subject', hother⟩ hname
    have hne : subject' ≠ subject := by
      rintro rfl
      rw [hnew] at hother
      cases hother
    have hkept : (map.users.insert subject entry).get subject' = some other := by
      rw [Map.get_insert_of_ne _ _ hne, hother]
    obtain rfl := h subject' subject other entry hkept (Map.get_insert_self _ _ _) hname
    exact hne ((hkeyed subject' other hother).symm.trans hsubject)
  · intro h first second one two hone htwo hname
    rw [Map.get_insert, ite_eq_iff] at hone htwo
    rcases hone with ⟨_, ⟨⟩⟩ | ⟨_, hone⟩ <;> rcases htwo with ⟨_, ⟨⟩⟩ | ⟨_, htwo⟩
    · rfl
    · exact absurd hname.symm (h two ⟨second, htwo⟩)
    · exact absurd hname (h one ⟨first, hone⟩)
    · exact hunique first second one two hone htwo hname

theorem assignUid_uniqueNames_iff (subject username org home shell : String)
    (hkeyed : KeyedBySubject map) (hunique : UniqueNames map) :
    UniqueNames (map.assignUid subject username org home shell).1 ↔
      NewName map (.AssignUid subject username org home shell) := by
  have hchange : MapChange map (.AssignUid subject username org home shell)
      (map.assignUid subject username org home shell).1 := uidNext_change map _ _ rfl
  generalize (map.assignUid subject username org home shell).1 = after at hchange ⊢
  cases hchange with
  | Same _ _ _ _ _ hnone =>
    refine iff_of_true hunique ?_
    rintro ⟨hnew, hregistered, hroom⟩
    obtain ⟨index, hindex⟩ := Option.isSome_iff_exists.mp hregistered
    exact absurd hroom (Nat.not_lt.mpr (hnone index hnew hindex))
  | Assigned _ _ _ _ _ index hnew hindex hroom =>
    rw [inserted_uniqueNames_iff map subject _ _ rfl hnew rfl hkeyed hunique]
    have hadmits : Admits map subject org :=
      ⟨hnew, Option.isSome_iff_exists.mpr ⟨index, hindex⟩, hroom⟩
    exact ⟨fun hnames _ => hnames, fun hnewName => hnewName hadmits⟩

theorem nameNext_keyed (step : NameStep) (after : UidMap) (hkeyed : KeyedBySubject map)
    (hnext : nameNext map step = some after) : KeyedBySubject after := by
  cases step with
  | Register registered =>
    cases hnext
    exact hkeyed
  | AssignUid subject username org home shell =>
    have hchange : MapChange map (.AssignUid subject username org home shell) after :=
      uidNext_change map _ _ hnext
    cases hchange with
    | Same => exact hkeyed
    | Assigned _ _ _ _ _ index hnew =>
      intro other entry hentry
      rw [Map.get_insert, ite_eq_iff] at hentry
      rcases hentry with ⟨rfl, ⟨⟩⟩ | ⟨_, hentry⟩
      · rfl
      · exact hkeyed other entry hentry
  | GcOrg org =>
    cases hnext
    intro subject entry hentry
    exact hkeyed subject entry ((get_gcOrg map org subject entry).mp hentry).1

theorem nameNext_uniqueNames_iff (step : NameStep) (after : UidMap) (hkeyed : KeyedBySubject map)
    (hunique : UniqueNames map) (hnext : nameNext map step = some after) :
    UniqueNames after ↔ NewName map step := by
  cases step with
  | Register registered =>
    cases hnext
    exact iff_of_true hunique trivial
  | AssignUid subject username org home shell =>
    cases hnext
    exact assignUid_uniqueNames_iff map subject username org home shell hkeyed hunique
  | GcOrg org =>
    cases hnext
    exact iff_of_true (gcOrg_uniqueNames map org hunique) trivial

end Names

theorem name_lookup_faithful_iff (baseUid baseGid stride : Nat) (steps : List NameStep) (last : UidMap)
    (run : Run nameNext Unrestricted (.empty baseUid baseGid stride) steps last) :
    (∀ before rest map, steps = before ++ rest →
      Run nameNext Unrestricted (.empty baseUid baseGid stride) before map → NamesFaithful map) ↔
    Run nameNext NewName (.empty baseUid baseGid stride) steps last := by
  simp only [namesFaithful_iff]
  refine run.always_iff_beside KeyedBySubject UniqueNames nameNext_keyed
    nameNext_uniqueNames_iff ?_ ?_
  · intro subject entry hentry
    cases hentry
  · intro entry hentry
    cases hentry

def twoOrgs : List NameStep := [.Register ⟨"local", 0⟩, .Register ⟨"partner", 1⟩]

def aliceAndBob : List NameStep :=
  twoOrgs ++ [.AssignUid "alice@local" "alice" "local" "/home/alice" "/bin/bash",
    .AssignUid "bob@partner" "bob" "partner" "/home/bob" "/bin/bash", .GcOrg "local"]

theorem name_lookup_faithful_alice_and_bob :
    (∃ last, Run nameNext Unrestricted (.empty 10000 10000 10000) aliceAndBob last) ∧
    ∀ before rest map, aliceAndBob = before ++ rest →
      Run nameNext Unrestricted (.empty 10000 10000 10000) before map → NamesFaithful map := by
  obtain ⟨last, hrun⟩ := exists_run_of_execWhere nameNext NewName (.empty 10000 10000 10000)
    aliceAndBob (by decide +kernel)
  exact ⟨⟨last, hrun.unrestricted⟩,
    (name_lookup_faithful_iff 10000 10000 10000 aliceAndBob last hrun.unrestricted).mpr hrun⟩

def twoAlices : List NameStep :=
  twoOrgs ++ [.AssignUid "alice@local" "alice" "local" "/home/alice" "/bin/bash",
    .AssignUid "alice@partner" "alice" "partner" "/data/alice" "/bin/bash"]

def aliceLocal : UidEntry := ⟨"alice@local", 10000, 10000, "alice", "/home/alice", "/bin/bash", "local"⟩

def alicePartner : UidEntry :=
  ⟨"alice@partner", 20000, 20000, "alice", "/data/alice", "/bin/bash", "partner"⟩

-- Two users of the same name, from two organisations: whichever of them comes first, the name of
-- the other resolves to the wrong one.
theorem two_alices :
    ∃ map, exec nameNext .new twoAlices = some map ∧
      map.users.values = [aliceLocal, alicePartner] ∧
      map.getByUsername alicePartner.username = some aliceLocal ∧
      PactPasswd.getEntryByName alicePartner.username
        (loadPasswd (some ([aliceLocal, alicePartner].map userRecord))) =
        some (toPasswd (.ofUser aliceLocal)) ∧
      PactPasswd.getEntryByName aliceLocal.username
        (loadPasswd (some ([alicePartner, aliceLocal].map userRecord))) =
        some (toPasswd (.ofUser alicePartner)) := by
  refine ⟨_, rfl, ?_, ?_, ?_, ?_⟩ <;> decide +kernel

end Pact.Nss
