import Pact.Journal.EnrollmentService
import Pact.Policy.Rbac.Theorems

namespace Pact.Journal.EnrollmentService

open Pact.Library Pact.Common Pact.Policy

def Belongs (named : Option VClusterId) (enrollment : NodeEnrollment) : Prop :=
  ∃ vclusterId, named = some vclusterId ∧ enrollment.vclusterId = some vclusterId

def AgreeOn (named : Option VClusterId) (s s' : JournalState) : Prop :=
  ∀ nodeId enrollment, Belongs named enrollment →
    (s.enrollments.get nodeId = some enrollment ↔ s'.enrollments.get nodeId = some enrollment)

-- The caller learns nothing about the nodes outside one vCluster: a listing depends only on the
-- enrollments in it, and the answer about a node outside does not depend on its record.
structure Confined (platform : Platform) (config : Config) (authorization : Option MetadataValue)
    (named : Option VClusterId) : Prop where
  listing : ∀ s s' req, AgreeOn named s s' →
    ∃ nodes nodes', listNodes platform config s ⟨authorization, req⟩ = .ok ⟨nodes⟩ ∧
      listNodes platform config s' ⟨authorization, req⟩ = .ok ⟨nodes'⟩ ∧
      ∀ summary, summary ∈ nodes ↔ summary ∈ nodes'
  inspection : ∀ s s' nodeId enrollment enrollment',
    s.enrollments.get nodeId = some enrollment → s'.enrollments.get nodeId = some enrollment' →
    ¬Belongs named enrollment → ¬Belongs named enrollment' →
    inspectNode platform config s ⟨authorization, ⟨nodeId⟩⟩ =
      inspectNode platform config s' ⟨authorization, ⟨nodeId⟩⟩

theorem roleVcluster_append (family vclusterId : String) (hfamily : '-' ∉ family.toList) :
    roleVcluster ("pact-" ++ family ++ "-" ++ vclusterId) = vclusterId := by
  have hsplit : "pact-" ++ family ++ "-" ++ vclusterId =
      "pact" ++ String.singleton '-' ++ (family ++ String.singleton '-' ++ vclusterId) := by
    simp [String.append_assoc]
  rw [roleVcluster, hsplit, split_append _ _ _ (by decide), split_append _ _ _ hfamily]
  exact join_split vclusterId '-'

-- The roles whose callers are held to the vCluster in their role.
def isRestricted (role : String) : Bool :=
  startsWith role "pact-ops-" ∨ startsWith role "pact-viewer-"

theorem isRestricted_cases (role : String) (h : isRestricted role = true) :
    ∃ vclusterId, extractVclusterFromRole role = some vclusterId ∧ roleVcluster role = vclusterId := by
  simp only [isRestricted, startsWith_iff, decide_eq_true_eq] at h
  rcases h with ⟨vclusterId, rfl⟩ | ⟨vclusterId, rfl⟩
  · exact ⟨vclusterId, extract_ops vclusterId, roleVcluster_append "ops" vclusterId (by decide)⟩
  · exact ⟨vclusterId, extract_viewer vclusterId,
      roleVcluster_append "viewer" vclusterId (by decide)⟩

-- The enrollment service and the RBAC engine read one vCluster off such a role: all that follows
-- its head, with the hyphens in it.
theorem role_names_one_vcluster (role : String)
    (hrole : startsWith role "pact-ops-" = true ∨ startsWith role "pact-viewer-" = true) :
    ∃ suffix, (role = "pact-ops-" ++ suffix ∨ role = "pact-viewer-" ++ suffix) ∧
      roleVcluster role = suffix ∧ allowedVcluster role = some suffix ∧
      extractVclusterFromRole role = some suffix := by
  have hadmin : role ≠ "pact-platform-admin" := by
    rintro rfl
    revert hrole
    decide
  obtain ⟨suffix, hnamed, hhome⟩ := isRestricted_cases role (decide_eq_true hrole)
  refine ⟨suffix, ?_, hhome, ?_, hnamed⟩
  · simp only [startsWith_iff] at hrole
    rcases hrole with ⟨rest, rfl⟩ | ⟨rest, rfl⟩
    · rw [extract_ops, Option.some.injEq] at hnamed
      exact Or.inl (by rw [hnamed])
    · rw [extract_viewer, Option.some.injEq] at hnamed
      exact Or.inr (by rw [hnamed])
  · rw [allowedVcluster, if_neg hadmin, if_pos hrole, hhome]

theorem role_names_one_vcluster_hyphens :
    roleVcluster "pact-viewer--ml--training-" = "-ml--training-" ∧
      extractVclusterFromRole "pact-viewer--ml--training-" = some "-ml--training-" ∧
      roleVcluster "pact-ops-" = "" ∧ extractVclusterFromRole "pact-ops-" = some "" ∧
      ∃ suffix, ("pact-viewer--ml--training-" = "pact-ops-" ++ suffix ∨
          "pact-viewer--ml--training-" = "pact-viewer-" ++ suffix) ∧
        roleVcluster "pact-viewer--ml--training-" = suffix ∧
        allowedVcluster "pact-viewer--ml--training-" = some suffix ∧
        extractVclusterFromRole "pact-viewer--ml--training-" = some suffix := by
  refine ⟨by decide +kernel, by decide +kernel, by decide +kernel, by decide +kernel, ?_⟩
  exact role_names_one_vcluster "pact-viewer--ml--training-" (by decide +kernel)

section Caller

variable (platform : Platform) (config : Config) (authorization : Option MetadataValue)
  (caller : Identity)

theorem listNodes_ok (hcaller : authenticate config authorization = .ok caller) (s : JournalState)
    (req : Proto.ListNodesRequest) :
    listNodes platform config s ⟨authorization, req⟩ =
      .ok ⟨(s.enrollments.values.filter (listed (allowedVcluster caller.role) req)).map
        (nodeSummary platform)⟩ := by
  simp only [listNodes, hcaller]

theorem mem_listed_iff (allowed : Option VClusterId) (s : JournalState)
    (req : Proto.ListNodesRequest) (summary : Proto.NodeSummary) :
    summary ∈ (s.enrollments.values.filter (listed allowed req)).map (nodeSummary platform) ↔
      ∃ nodeId enrollment, s.enrollments.get nodeId = some enrollment ∧
        listed allowed req enrollment = true ∧ nodeSummary platform enrollment = summary := by
  simp only [List.mem_map, List.mem_filter, Map.mem_values_iff]
  constructor
  · rintro ⟨enrollment, ⟨⟨nodeId, hget⟩, hlisted⟩, rfl⟩
    exact ⟨nodeId, enrollment, hget, hlisted, rfl⟩
  · rintro ⟨nodeId, enrollment, hget, hlisted, rfl⟩
    exact ⟨enrollment, ⟨⟨nodeId, hget⟩, hlisted⟩, rfl⟩

theorem belongs_of_listed (vclusterId : VClusterId) (req : Proto.ListNodesRequest)
    (enrollment : NodeEnrollment) (h : listed (some vclusterId) req enrollment = true) :
    Belongs (some vclusterId) enrollment := by
  simp only [listed, decide_eq_true_eq] at h
  exact ⟨vclusterId, rfl, h.1.resolve_left (by simp)⟩

theorem restricted_confined (hcaller : authenticate config authorization = .ok caller)
    (hadmin : caller.role ≠ "pact-platform-admin") (hrestricted : isRestricted caller.role = true) :
    Confined platform config authorization (extractVclusterFromRole caller.role) := by
  obtain ⟨vclusterId, hnamed, hhome⟩ := isRestricted_cases caller.role hrestricted
  have hheads := of_decide_eq_true hrestricted
  have hallowed : allowedVcluster caller.role = some vclusterId := by
    rw [allowedVcluster, if_neg hadmin, if_pos hheads, hhome]
  rw [hnamed]
  constructor
  · intro s s' req hagree
    refine ⟨_, _, listNodes_ok platform config authorization caller hcaller s req,
      listNodes_ok platform config authorization caller hcaller s' req, ?_⟩
    intro summary
    rw [hallowed, mem_listed_iff, mem_listed_iff]
    refine exists_congr fun nodeId => exists_congr fun enrollment => and_congr_left fun h => ?_
    exact hagree nodeId enrollment (belongs_of_listed vclusterId req enrollment h.1)
  · intro s s' nodeId enrollment enrollment' hget hget' houtside houtside'
    have hother : ∀ other : NodeEnrollment, ¬Belongs (some vclusterId) other →
        other.vclusterId ≠ some vclusterId :=
      fun other hnot hsame => hnot ⟨vclusterId, rfl, hsame⟩
    simp only [inspectNode, hcaller, hget, hget', hhome, hadmin, hheads, ne_eq, not_false_eq_true,
      hother enrollment houtside, hother enrollment' houtside', and_self, if_true]

-- A node that has been registered and assigned to no vCluster.
def strayJournal : JournalState :=
  { JournalState.default with
    enrollments := Map.insert .empty "node-1" (.sample "node-1" "aa:bb:cc:dd:ee:ff") }

theorem strayJournal_agrees (named : Option VClusterId) : AgreeOn named .default strayJournal := by
  rintro nodeId enrollment ⟨vclusterId, -, hin⟩
  simp only [JournalState.default, Map.get_empty, strayJournal, Map.get_insert]
  split_ifs
  · simp only [Option.some.injEq, false_iff]
    rintro rfl
    cases hin
  · rfl

theorem unrestricted_not_confined (hcaller : authenticate config authorization = .ok caller)
    (hrestricted : isRestricted caller.role = false) (named : Option VClusterId) :
    ¬Confined platform config authorization named := by
  intro hconfined
  have hallowed : allowedVcluster caller.role = none := by
    rw [allowedVcluster, if_neg (of_decide_eq_false hrestricted), ite_self]
  obtain ⟨nodes, nodes', hempty, hstray, hsame⟩ :=
    hconfined.listing .default strayJournal ⟨"", "", false⟩ (strayJournal_agrees named)
  rw [listNodes_ok platform config authorization caller hcaller, hallowed] at hempty hstray
  cases hempty
  cases hstray
  have hseen := (mem_listed_iff platform none strayJournal ⟨"", "", false⟩
    (nodeSummary platform (.sample "node-1" "aa:bb:cc:dd:ee:ff"))).mpr
      ⟨"node-1", _, Map.get_insert_self _ _ _, by decide, rfl⟩
  rw [← hsame, mem_listed_iff] at hseen
  obtain ⟨nodeId, enrollment, hget, _⟩ := hseen
  simp [JournalState.default] at hget

theorem visibility_confined_iff (hcaller : authenticate config authorization = .ok caller)
    (hadmin : caller.role ≠ "pact-platform-admin") :
    Confined platform config authorization (extractVclusterFromRole caller.role) ↔
      startsWith caller.role "pact-ops-" = true ∨ startsWith caller.role "pact-viewer-" = true := by
  constructor
  · intro hconfined
    by_contra hnot
    exact unrestricted_not_confined platform config authorization caller hcaller
      (decide_eq_false hnot) _ hconfined
  · intro hheads
    exact restricted_confined platform config authorization caller hcaller hadmin
      (decide_eq_true hheads)

end Caller

def roleConfig : Config where
  domainId := "default"
  validate token := .ok ⟨"user", .Human, token⟩

def roleToken (role : String) : Option MetadataValue := some (.Text ("Bearer " ++ role))

theorem visibility_confined_viewer :
    Confined .ascii roleConfig (roleToken "pact-viewer-ml") (some "ml") :=
  (visibility_confined_iff .ascii roleConfig (roleToken "pact-viewer-ml")
    ⟨"user", .Human, "pact-viewer-ml"⟩ (by decide +kernel) (by decide)).mpr (by decide)

def hpcJournal : JournalState :=
  (replay .ascii .default [⟨0, .RegisterNode (.sample "node-1" "aa:bb:cc:dd:ee:ff")⟩,
    ⟨0, .AssignNodeToVCluster "node-1" "hpc"⟩]).1

-- A regulated user of one vCluster, and a caller whose role is empty, are shown a node of
-- another, so that two journals which agree on their own nodes look different to them; an
-- operator is not.
theorem regulated_user_sees_foreign_node :
    extractVclusterFromRole "pact-regulated-ml" = some "ml" ∧
    extractVclusterFromRole "" = none ∧
    listNodes .ascii roleConfig hpcJournal ⟨roleToken "pact-regulated-ml", ⟨"", "", false⟩⟩ =
      .ok ⟨[⟨"node-1", "Registered", "hpc", "", "aa:bb:cc:dd:ee:ff"⟩]⟩ ∧
    listNodes .ascii roleConfig hpcJournal ⟨roleToken "", ⟨"", "", false⟩⟩ =
      .ok ⟨[⟨"node-1", "Registered", "hpc", "", "aa:bb:cc:dd:ee:ff"⟩]⟩ ∧
    listNodes .ascii roleConfig hpcJournal ⟨roleToken "pact-ops-ml", ⟨"", "", false⟩⟩ =
      .ok ⟨[]⟩ ∧
    ¬Confined .ascii roleConfig (roleToken "pact-regulated-ml") (some "ml") ∧
    ¬Confined .ascii roleConfig (roleToken "") none ∧
    (inspectNode .ascii roleConfig hpcJournal ⟨roleToken "pact-regulated-ml", ⟨"node-1"⟩⟩).map
      (fun response => (response.vclusterId, response.enrolledBy)) = .ok ("hpc", "admin") := by
  refine ⟨by decide +kernel, by decide +kernel, by decide +kernel, by decide +kernel,
    by decide +kernel, ?_, ?_, by decide +kernel⟩
  · exact unrestricted_not_confined .ascii roleConfig _ ⟨"user", .Human, "pact-regulated-ml"⟩
      (by decide +kernel) (by decide +kernel) _
  · exact unrestricted_not_confined .ascii roleConfig _ ⟨"user", .Human, ""⟩ (by decide +kernel)
      (by decide +kernel) _

end Pact.Journal.EnrollmentService
