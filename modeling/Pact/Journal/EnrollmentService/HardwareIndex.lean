import Pact.Journal.EnrollmentService.Theorems
import Pact.Library.Index

namespace Pact.Journal.EnrollmentService

open Pact.Library Pact.Common

def hardwareKey (platform : Platform) (record : NodeEnrollment) : String :=
  hwCanonicalKey platform record.hardwareIdentity

structure HardwareIndexed (platform : Platform) (s : JournalState) : Prop where
  keyed : Keyed s
  indexes : Indexes (hardwareKey platform) s.hwIndex s.enrollments

theorem recordAfter_hardwareIdentity (platform : Platform) (now : DateTime) (nodeId : NodeId)
    (cmd : JournalCommand) (record : NodeEnrollment) :
    (recordAfter platform now nodeId cmd record).hardwareIdentity = record.hardwareIdentity := by
  have houtcome := recordAfter_outcome platform now nodeId cmd record
  generalize recordAfter platform now nodeId cmd record = changed at houtcome ⊢
  cases houtcome <;> rfl

theorem apply_indexes (platform : Platform) (now : DateTime) (s : JournalState)
    (cmd : JournalCommand) (h : Indexes (hardwareKey platform) s.hwIndex s.enrollments) :
    Indexes (hardwareKey platform) (apply platform now s cmd).1.hwIndex
      (apply platform now s cmd).1.enrollments := by
  have houtcome := apply_outcome platform now s cmd
  generalize apply platform now s cmd = result at houtcome ⊢
  cases houtcome with
  | Registered enrollment hnew hfree => exact h.insert hnew hfree
  | Updated _ nodeId record response htarget hget hresponse =>
    refine h.update hget ?_
    rw [hardwareKey, hardwareKey, recordAfter_hardwareIdentity]
  | _ => exact h

theorem hardwareIndexed_default (platform : Platform) :
    HardwareIndexed platform JournalState.default :=
  ⟨sound_start.keyed, Indexes.empty⟩

theorem replay_hardwareIndexed (platform : Platform) (commands : List Applied) :
    HardwareIndexed platform (replay platform .default commands).1 :=
  (replay_run platform .default commands).invariant (HardwareIndexed platform)
    (fun s applied after h _ hnext => by
      obtain rfl := Option.some.inj hnext
      exact ⟨apply_keyed platform applied.now s applied.command h.keyed,
        apply_indexes platform applied.now s applied.command h.indexes⟩)
    (hardwareIndexed_default platform)

theorem enroll_inconsistent (platform : Platform) (s : JournalState) (acquired : Bool)
    (draw : Draw) (req : Proto.EnrollRequest)
    (h : enroll platform s acquired draw req =
      .Finished (.Enrolled (.error ⟨.Internal, "enrollment index inconsistency"⟩))) :
    ∃ key nodeId, s.hwIndex.get key = some nodeId ∧ s.enrollments.get nodeId = none := by
  simp only [enroll] at h
  split_ifs at h
  · simp at h
  · split at h
    · simp at h
    · split at h
      · cases h
      · rename_i nodeId hindex
        split at h
        · exact ⟨_, nodeId, hindex, ‹_›⟩
        · split at h <;> cases h

-- In every journal the index finds exactly the enrolled nodes, each by its hardware, no two nodes
-- share their hardware, and enroll never sees the index lead nowhere.
theorem hardware_index_consistent (platform : Platform) (commands : List Applied) :
    (∀ key nodeId, (replay platform .default commands).1.hwIndex.get key = some nodeId ↔
      ∃ record, (replay platform .default commands).1.enrollments.get nodeId = some record ∧
        record.nodeId = nodeId ∧ hwCanonicalKey platform record.hardwareIdentity = key) ∧
    (∀ nodeId record, (replay platform .default commands).1.enrollments.get nodeId = some record →
      (replay platform .default commands).1.hwIndex.get
        (hwCanonicalKey platform record.hardwareIdentity) = some nodeId) ∧
    (∀ nodeId other record stored,
      (replay platform .default commands).1.enrollments.get nodeId = some record →
      (replay platform .default commands).1.enrollments.get other = some stored →
      hwCanonicalKey platform record.hardwareIdentity =
        hwCanonicalKey platform stored.hardwareIdentity → nodeId = other) ∧
    ∀ acquired draw req,
      enroll platform (replay platform .default commands).1 acquired draw req ≠
        .Finished (.Enrolled (.error ⟨.Internal, "enrollment index inconsistency"⟩)) := by
  obtain ⟨hkeyed, hindexes⟩ := replay_hardwareIndexed platform commands
  refine ⟨?_, ?_, ?_, ?_⟩
  · intro key nodeId
    rw [hindexes key nodeId]
    constructor
    · rintro ⟨record, hget, hkey⟩
      exact ⟨record, hget, hkeyed nodeId record hget, hkey⟩
    · rintro ⟨record, hget, _, hkey⟩
      exact ⟨record, hget, hkey⟩
  · intro nodeId record hget
    exact hindexes.get_key hget
  · intro nodeId other record stored hget hother hkey
    exact hindexes.injective hget hother hkey
  · intro acquired draw req herror
    obtain ⟨key, nodeId, hindex, hnone⟩ := enroll_inconsistent platform _ acquired draw req herror
    obtain ⟨record, hget, _⟩ := (hindexes key nodeId).mp hindex
    rw [hnone] at hget
    cases hget

end Pact.Journal.EnrollmentService
