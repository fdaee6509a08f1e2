import Pact.Journal.State.Lemmas

namespace Pact.Journal

open Pact.Library Pact.Common

structure EntriesWellFormed (s : JournalState) : Prop where
  keys : ∀ key, (∃ entry, s.entries.get key = some entry) ↔ key < s.nextSequence
  sequence : ∀ key entry, s.entries.get key = some entry → entry.sequence = key
  author : ∀ key entry, s.entries.get key = some entry →
    entry.author.principal ≠ "" ∧ entry.author.role ≠ ""
  parent : ∀ key entry, s.entries.get key = some entry →
    ∀ parent, entry.parent = some parent → parent < entry.sequence
  ttl : ∀ key entry, s.entries.get key = some entry →
    ∀ ttl, entry.ttlSeconds = some ttl → ttl = 0 ∨ (900 ≤ ttl ∧ ttl ≤ 864000)

-- At most one entry is added, at the next sequence number, and every other entry stays.
def EntriesStep (s after : JournalState) : Prop :=
  after.entries = s.entries ∨
    (s.entries.get s.nextSequence = none ∧
      (∃ entry, after.entries.get s.nextSequence = some entry) ∧
      ∀ key, key ≠ s.nextSequence → after.entries.get key = s.entries.get key)

def ParentOf (s : JournalState) (child parent : Nat) : Prop :=
  ∃ entry, s.entries.get child = some entry ∧ entry.parent = some parent

theorem entryRejection_none (s : JournalState) (entry : ConfigEntry)
    (h : entryRejection s entry = none) :
    entry.author.principal ≠ "" ∧ entry.author.role ≠ "" ∧
      (∀ parent, entry.parent = some parent → parent < s.nextSequence) ∧
      ∀ ttl, entry.ttlSeconds = some ttl → ttl = 0 ∨ (900 ≤ ttl ∧ ttl ≤ 864000) := by
  unfold entryRejection at h
  split_ifs at h with hprincipal hrole
  obtain ⟨hparent, httl⟩ : parentRejection s.nextSequence entry.parent = none ∧
      ttlRejection entry.ttlSeconds = none := by
    cases hp : parentRejection s.nextSequence entry.parent with
    | none => exact ⟨rfl, by simpa [hp] using h⟩
    | some reason => simp [hp] at h
  refine ⟨hprincipal, hrole, ?_, ?_⟩
  · intro parent he
    by_contra hlt
    simp [parentRejection, he, Nat.not_lt.mp hlt] at hparent
  · intro ttl he
    simp only [ttlRejection, he, ttlMinSeconds, ttlMaxSeconds] at httl
    by_cases hmin : ttl > 0 ∧ ttl < 900
    · simp [hmin] at httl
    · by_cases hmax : ttl > 864000
      · simp [hmin, hmax] at httl
      · omega

theorem entriesWellFormed_default : EntriesWellFormed JournalState.default := by
  constructor <;> simp [JournalState.default]

theorem insert_next_cases (s : JournalState) (entry : ConfigEntry) (key : Nat)
    (stored : ConfigEntry) (h : (s.entries.insert s.nextSequence entry).get key = some stored) :
    (key = s.nextSequence ∧ stored = entry) ∨ s.entries.get key = some stored := by
  by_cases hk : key = s.nextSequence
  · subst hk
    rw [Map.get_insert_self] at h
    exact .inl ⟨rfl, (Option.some.inj h).symm⟩
  · rw [Map.get_insert_of_ne _ _ hk] at h
    exact .inr h

theorem apply_entriesWellFormed (platform : Platform) (now : DateTime) (s : JournalState)
    (cmd : JournalCommand) (hwf : EntriesWellFormed s) :
    EntriesWellFormed (apply platform now s cmd).1 := by
  rcases apply_entries platform now s cmd with ⟨he, hn⟩ | ⟨entry, rfl, hr, he, hn⟩
  · constructor
    · rw [he, hn]; exact hwf.keys
    · rw [he]; exact hwf.sequence
    · rw [he]; exact hwf.author
    · rw [he]; exact hwf.parent
    · rw [he]; exact hwf.ttl
  · obtain ⟨hprincipal, hrole, hparent, httl⟩ := entryRejection_none s entry hr
    constructor
    · intro key
      rw [he, hn]
      by_cases hk : key = s.nextSequence
      · subst hk
        simp
      · rw [Map.get_insert_of_ne _ _ hk, hwf.keys key]
        omega
    all_goals
      intro key stored hstored
      rw [he] at hstored
      rcases insert_next_cases s _ key stored hstored with ⟨rfl, rfl⟩ | hold
    · rfl
    · exact hwf.sequence key stored hold
    · exact ⟨hprincipal, hrole⟩
    · exact hwf.author key stored hold
    · exact hparent
    · exact hwf.parent key stored hold
    · exact httl
    · exact hwf.ttl key stored hold

theorem apply_entriesStep (platform : Platform) (now : DateTime) (s : JournalState)
    (cmd : JournalCommand) (hwf : EntriesWellFormed s) :
    EntriesStep s (apply platform now s cmd).1 := by
  rcases apply_entries platform now s cmd with ⟨he, _⟩ | ⟨entry, _, _, he, _⟩
  · exact .inl he
  · refine .inr ⟨?_, ?_, ?_⟩
    · cases hget : s.entries.get s.nextSequence with
      | none => rfl
      | some stored => exact absurd ((hwf.keys _).mp ⟨stored, hget⟩) (Nat.lt_irrefl _)
    · rw [he]
      exact ⟨_, Map.get_insert_self _ _ _⟩
    · intro key hk
      rw [he, Map.get_insert_of_ne _ _ hk]

theorem parentOf_lt (s : JournalState) (hwf : EntriesWellFormed s) (child parent : Nat)
    (h : ParentOf s child parent) : parent < child := by
  obtain ⟨entry, hget, hparent⟩ := h
  rw [← hwf.sequence child entry hget]
  exact hwf.parent child entry hget parent hparent

theorem parentOf_wellFounded (s : JournalState) (hwf : EntriesWellFormed s) :
    WellFounded fun parent child => ParentOf s child parent :=
  Subrelation.wf (fun {parent child} h => parentOf_lt s hwf child parent h)
    (Nat.lt_wfRel.wf)

theorem parentChain_ends (s : JournalState) (hwf : EntriesWellFormed s) (key : Nat)
    (entry : ConfigEntry) (hget : s.entries.get key = some entry) :
    ∃ root first, Relation.ReflTransGen (ParentOf s) key root ∧
      s.entries.get root = some first ∧ first.parent = none := by
  induction key using Nat.strong_induction_on generalizing entry with
  | _ key ih =>
    cases hparent : entry.parent with
    | none => exact ⟨key, entry, .refl, hget, hparent⟩
    | some parent =>
      have hstep : ParentOf s key parent := ⟨entry, hget, hparent⟩
      have hlt := parentOf_lt s hwf key parent hstep
      have hkey := (hwf.keys key).mp ⟨entry, hget⟩
      obtain ⟨above, habove⟩ := (hwf.keys parent).mpr (hlt.trans hkey)
      obtain ⟨root, first, hchain, hroot, hfirst⟩ := ih parent hlt above habove
      exact ⟨root, first, .head hstep hchain, hroot, hfirst⟩

theorem replay_entriesWellFormed (platform : Platform) (commands : List Applied) :
    EntriesWellFormed (replay platform .default commands).1 :=
  (replay_run platform .default commands).invariant EntriesWellFormed
    (fun s applied after hwf _ hnext => by
      obtain rfl := Option.some.inj hnext
      exact apply_entriesWellFormed platform applied.now s applied.command hwf)
    entriesWellFormed_default

-- The journal is an append-only log with no gaps, whose parent links lead back to an entry
-- without a parent.
theorem journal_appendOnly (platform : Platform) (commands : List Applied) :
    EntriesWellFormed (replay platform .default commands).1 ∧
    (WellFounded fun parent child =>
      ParentOf (replay platform .default commands).1 child parent) ∧
    (∀ key entry, (replay platform .default commands).1.entries.get key = some entry →
      ∃ root first,
        Relation.ReflTransGen (ParentOf (replay platform .default commands).1) key root ∧
        (replay platform .default commands).1.entries.get root = some first ∧
        first.parent = none) ∧
    ∀ now cmd, EntriesStep (replay platform .default commands).1
      (apply platform now (replay platform .default commands).1 cmd).1 := by
  have hwf := replay_entriesWellFormed platform commands
  exact ⟨hwf, parentOf_wellFounded _ hwf, parentChain_ends _ hwf,
    fun now cmd => apply_entriesStep platform now _ cmd hwf⟩

-- A rejected command leaves every part of the journal as it was.
theorem apply_validationError_unchanged (platform : Platform) (now : DateTime) (s : JournalState)
    (cmd : JournalCommand) (reason : String)
    (h : (apply platform now s cmd).2 = .ValidationError reason) :
    (apply platform now s cmd).1 = s := by
  have houtcome := apply_outcome platform now s cmd
  generalize apply platform now s cmd = result at houtcome h ⊢
  cases houtcome with
  | Rejected _ reason hkept => rfl
  | Updated _ nodeId record response htarget hget hresponse =>
    rcases hresponse with rfl | rfl <;> cases h
  | _ => cases h

-- A requester who decides on their own request: the record is looked up for the update, and
-- nothing of it changes.
def selfApprovalRequest : PendingApproval where
  approvalId := "ap-1"
  originalRequest := "commit"
  action := "commit"
  scope := .VCluster "ml"
  requester := ⟨"alice", .Human, "pact-regulated-ml"⟩
  approver := none
  status := .Pending
  createdAt := 0
  expiresAt := DateTime.hours 24

def selfApprovalState : JournalState :=
  { JournalState.default with
    pendingApprovals := (Map.empty : Map String PendingApproval).insert "ap-1" selfApprovalRequest }

theorem apply_selfApproval_unchanged :
    (apply .ascii 0 selfApprovalState
      (.DecideApproval "ap-1" selfApprovalRequest.requester .Approved)).2 =
        .ValidationError "SELF_APPROVAL: cannot approve your own request (P4)" ∧
    (apply .ascii 0 selfApprovalState
      (.DecideApproval "ap-1" selfApprovalRequest.requester .Approved)).1 = selfApprovalState := by
  have hrejected : (apply .ascii 0 selfApprovalState
      (.DecideApproval "ap-1" selfApprovalRequest.requester .Approved)).2 =
        .ValidationError "SELF_APPROVAL: cannot approve your own request (P4)" := by decide
  exact ⟨hrejected, apply_validationError_unchanged _ _ _ _ _ hrejected⟩

end Pact.Journal
