import Pact.Agent.Shell.Diag
import Pact.Library.Sequence

namespace Pact.Agent.Shell.Diag

open Pact.Library Pact.Common Pact.Journal

inductive Source
  | Dmesg
  | Syslog
  | Service (name : String)
  deriving DecidableEq

def collectSource (node : Node) (limit : Nat) (grep : Option (String → Bool))
    (backend : SupervisorBackend) : Source → DiagChunk
  | .Dmesg => (collectDmesg node limit grep).2
  | .Syslog => (collectSyslog node limit grep).2
  | .Service name => (collectServiceLog node limit grep backend name).2

def Source.isJournal (backend : SupervisorBackend) : Source → Bool
  | .Service _ => backend = .Systemd
  | _ => false

-- The lines of a source that can be read, those of a unit from its whole journal.
def Source.content (node : Node) (journal : String → List String) (limit : Nat)
    (backend : SupervisorBackend) : Source → Option (List String)
  | .Dmesg => (node.readToString "/dev/kmsg" <|> (node.run "dmesg" []).toOption).map lines
  | .Syslog =>
    (node.readToString "/var/log/syslog" <|> node.readToString "/var/log/messages").map lines
  | .Service name =>
    match backend with
    | .Pact => (node.readToString (serviceLog name)).map lines
    | .Systemd =>
      (node.run "journalctl" (journalArgs name limit)).toOption.map fun _ => journal name

-- journalctl prints the last lines of the journal of a unit, as many as it is asked for.
def PrintsLast (node : Node) (journal : String → List String) : Prop :=
  ∀ name limit text, node.run "journalctl" (journalArgs name limit) = .ok text →
    lines text = (journal name).rtake limit

def isMatch (grep : Option (String → Bool)) : String → Bool := grep.getD fun _ => true

-- The last of the lines that match, and the flag if there are more of them.
structure LastMatching (limit : Nat) (grep : Option (String → Bool)) (content : List String)
    (chunk : DiagChunk) : Prop where
  lines : chunk.lines = (content.filter (isMatch grep)).rtake limit
  truncated : chunk.truncated = true ↔ limit < (content.filter (isMatch grep)).length

-- Where the order of cutting and filtering makes no difference.
def TailSuffices (journal : Bool) (limit : Nat) (grep : Option (String → Bool))
    (content : List String) : Prop :=
  if journal then ∀ line ∈ content.rdrop limit, isMatch grep line = false
  else content.length ≤ limit ∨
    ((∀ line ∈ content.rtake limit, isMatch grep line = true) ∧
      ∃ line ∈ content.rdrop limit, isMatch grep line = true)

instance (journal : Bool) (limit : Nat) (grep : Option (String → Bool)) (content : List String) :
    Decidable (TailSuffices journal limit grep content) := by
  unfold TailSuffices
  infer_instance

theorem applyGrep_eq (found : List String) (grep : Option (String → Bool)) :
    applyGrep found grep = found.filter (isMatch grep) := by
  cases grep with
  | none => exact (List.filter_eq_self.mpr fun _ _ => rfl).symm
  | some pattern => rfl

theorem readLastNLines_eq (content : String) (n : Nat) :
    readLastNLines content n = (lines content).rtake n := by
  rw [readLastNLines]
  split
  case isTrue hshort => rw [rtake_of_length_le _ n hshort]
  case isFalse => rfl

theorem tailChunk_lastMatching_iff (source text : String) (limit : Nat)
    (grep : Option (String → Bool)) :
    LastMatching limit grep (lines text) (tailChunk source text limit grep) ↔
      TailSuffices false limit grep (lines text) := by
  have htail := filter_tail_iff (isMatch grep) (lines text) limit
  rw [TailSuffices, if_neg Bool.false_ne_true, ← htail]
  constructor
  · rintro ⟨hlines, hflag⟩
    simp only [tailChunk, applyGrep_eq, readLastNLines_eq, decide_eq_true_eq] at hlines hflag
    exact ⟨hlines, hflag⟩
  · rintro ⟨hlines, hflag⟩
    refine ⟨?_, ?_⟩
    · rw [← hlines, tailChunk, applyGrep_eq, readLastNLines_eq]
    · rw [← hflag, tailChunk, decide_eq_true_eq]

theorem journalChunk_lastMatching_iff (source text : String) (limit : Nat)
    (grep : Option (String → Bool)) (journal : List String)
    (hprinted : lines text = journal.rtake limit) :
    LastMatching limit grep journal ⟨source, applyGrep (lines text) grep, false⟩ ↔
      TailSuffices true limit grep journal := by
  have htail := filter_tail_whole_iff (isMatch grep) journal limit
  rw [TailSuffices, if_pos rfl, ← htail, applyGrep_eq, hprinted]
  constructor
  · rintro ⟨hlines, hflag⟩
    exact ⟨hlines, fun hmore => Bool.false_ne_true (hflag.mpr hmore)⟩
  · rintro ⟨hlines, hflag⟩
    exact ⟨hlines, fun hset => absurd hset Bool.false_ne_true, fun hmore => absurd hmore hflag⟩

section Content

variable (node : Node) (journal : String → List String) (limit : Nat)
  (grep : Option (String → Bool)) (backend : SupervisorBackend) (content : List String)

theorem collectDmesg_of_content
    (hcontent : Source.Dmesg.content node journal limit backend = some content) :
    ∃ text, lines text = content ∧
      (collectDmesg node limit grep).2 = tailChunk "dmesg" text limit grep := by
  simp only [Source.content] at hcontent
  cases hfile : node.readToString "/dev/kmsg" with
  | some text => exact ⟨text, by simpa [hfile] using hcontent, by simp only [collectDmesg, hfile]⟩
  | none =>
    cases houtput : node.run "dmesg" [] with
    | error e => simp [hfile, houtput, Except.toOption] at hcontent
    | ok text =>
      refine ⟨text, ?_, by simp only [collectDmesg, hfile, houtput]⟩
      simpa [hfile, houtput, Except.toOption] using hcontent

theorem collectSyslog_of_content
    (hcontent : Source.Syslog.content node journal limit backend = some content) :
    ∃ text, lines text = content ∧
      (collectSyslog node limit grep).2 = tailChunk "syslog" text limit grep := by
  simp only [Source.content] at hcontent
  cases hfile : node.readToString "/var/log/syslog" with
  | some text => exact ⟨text, by simpa [hfile] using hcontent, by simp only [collectSyslog, hfile]⟩
  | none =>
    cases hother : node.readToString "/var/log/messages" with
    | none => simp [hfile, hother] at hcontent
    | some text =>
      refine ⟨text, ?_, by simp only [collectSyslog, hfile, hother]⟩
      simpa [hfile, hother] using hcontent

theorem collectServiceLog_of_file (name : String)
    (hcontent : (Source.Service name).content node journal limit .Pact = some content) :
    ∃ text, lines text = content ∧
      (collectServiceLog node limit grep .Pact name).2 =
        tailChunk ("service:" ++ name) text limit grep := by
  obtain ⟨text, hfile, hlines⟩ := Option.map_eq_some_iff.mp hcontent
  exact ⟨text, hlines, by simp only [collectServiceLog, hfile]⟩

theorem collectServiceLog_of_journal (name : String) (hprints : PrintsLast node journal)
    (hcontent : (Source.Service name).content node journal limit .Systemd = some content) :
    ∃ text, lines text = content.rtake limit ∧
      (collectServiceLog node limit grep .Systemd name).2 =
        ⟨"service:" ++ name, applyGrep (lines text) grep, false⟩ := by
  simp only [Source.content] at hcontent
  cases houtput : node.run "journalctl" (journalArgs name limit) with
  | error e => simp [houtput, Except.toOption] at hcontent
  | ok text =>
    obtain rfl : journal name = content := by simpa [houtput, Except.toOption] using hcontent
    exact ⟨text, hprints name limit text houtput, by simp only [collectServiceLog, houtput]⟩

end Content

theorem diagnostics_last_matching_iff (node : Node) (journal : String → List String)
    (backend : SupervisorBackend) (lineLimit : Nat) (grep : Option (String → Bool))
    (source : Source) (content : List String) (hprints : PrintsLast node journal)
    (hcontent : source.content node journal (normalizeLineLimit lineLimit) backend =
      some content) :
    LastMatching (normalizeLineLimit lineLimit) grep content
        (collectSource node (normalizeLineLimit lineLimit) grep backend source) ↔
      TailSuffices (source.isJournal backend) (normalizeLineLimit lineLimit) grep content := by
  generalize normalizeLineLimit lineLimit = limit at hcontent
  cases source with
  | Dmesg =>
    obtain ⟨text, rfl, hchunk⟩ :=
      collectDmesg_of_content node journal limit grep backend content hcontent
    rw [collectSource, hchunk]
    exact tailChunk_lastMatching_iff "dmesg" text limit grep
  | Syslog =>
    obtain ⟨text, rfl, hchunk⟩ :=
      collectSyslog_of_content node journal limit grep backend content hcontent
    rw [collectSource, hchunk]
    exact tailChunk_lastMatching_iff "syslog" text limit grep
  | Service name =>
    cases backend with
    | Pact =>
      obtain ⟨text, rfl, hchunk⟩ :=
        collectServiceLog_of_file node journal limit grep content name hcontent
      rw [collectSource, hchunk]
      exact tailChunk_lastMatching_iff ("service:" ++ name) text limit grep
    | Systemd =>
      obtain ⟨text, hprinted, hchunk⟩ :=
        collectServiceLog_of_journal node journal limit grep content name hprints hcontent
      rw [collectSource, hchunk]
      exact journalChunk_lastMatching_iff ("service:" ++ name) text limit grep content hprinted

def twoLines : Node where
  readToString _ := some "error\nok\n"
  run _ _ := .ok "ok\n"

def onlyErrors : Option (String → Bool) := some fun line => line = "error"

def webJournal (name : String) : List String := if name = "web" then ["ok", "error"] else []

def printsError : Node where
  readToString _ := none
  run _ args := if args = journalArgs "web" 1 then .ok "error\n" else .error ""

theorem diagnostics_last_matching_journal :
    PrintsLast printsError webJournal ∧
    LastMatching (normalizeLineLimit 1) onlyErrors ["ok", "error"]
      (collectSource printsError (normalizeLineLimit 1) onlyErrors .Systemd (.Service "web")) := by
  have hprints : PrintsLast printsError webJournal := by
    intro name limit text hprinted
    by_cases hargs : journalArgs name limit = journalArgs "web" 1
    · obtain rfl : "error\n" = text := by simpa [printsError, hargs] using hprinted
      simp only [journalArgs, List.cons.injEq, and_true, true_and] at hargs
      rw [hargs.1, Nat.repr_inj.mp hargs.2]
      decide +kernel
    · simp [printsError, hargs] at hprinted
  exact ⟨hprints, (diagnostics_last_matching_iff printsError webJournal .Systemd 1 onlyErrors
    (.Service "web") ["ok", "error"] hprints (by decide +kernel)).mpr (by decide +kernel)⟩

-- The line that matches is not among the last: it is missed by every kind of source, those that
-- are read whole then claim that something is left out, and a journal claims that nothing is.
theorem diagnostics_miss_matching :
    (["error", "ok"].filter (isMatch onlyErrors)).rtake 1 = ["error"] ∧
    collectSource twoLines 1 onlyErrors .Pact .Dmesg = ⟨"dmesg", [], true⟩ ∧
    collectSource twoLines 1 onlyErrors .Pact .Syslog = ⟨"syslog", [], true⟩ ∧
    collectSource twoLines 1 onlyErrors .Pact (.Service "web") = ⟨"service:web", [], true⟩ ∧
    collectSource twoLines 1 onlyErrors .Systemd (.Service "web") = ⟨"service:web", [], false⟩ := by
  refine ⟨?_, ?_, ?_, ?_, ?_⟩ <;> decide +kernel

-- A log or a journal is opened only for a service that is declared, and of any other there are no
-- lines.
structure OnlyDeclared (declared : List String) (collected : List (List Access × DiagChunk)) :
    Prop where
  accesses : ∀ part ∈ collected, ∀ name,
    (.ReadFile (serviceLog name) ∈ part.1 ∨
      ∃ limit, .Run "journalctl" (journalArgs name limit) ∈ part.1) → name ∈ declared
  chunks : ∀ part ∈ collected, ∀ name, part.2.source = "service:" ++ name → name ∉ declared →
    part.2.lines = []

def NamesUndeclared (declared : List String) (request : DiagRequest) : Prop :=
  request.wantsServices = true ∧ request.serviceName ≠ "" ∧ request.serviceName ∉ declared

-- The requests that the RPC goes on to collect for.
structure Accepted (world : World) (server : ShellServer) (regex : RegexLibrary)
    (authorization : Option MetadataValue) (request : DiagRequest) : Prop where
  admitted : ∃ identity, GrpcService.collectDiagAdmission world server authorization = .ok identity
  pattern : ∃ grep, validateGrepPattern regex request.grepPattern = .ok grep
  separators : contains request.serviceName "/" = false ∧ contains request.serviceName ".." = false

theorem serviceLog_injective (name other : String) (h : serviceLog name = serviceLog other) :
    name = other :=
  (String.append_right_inj _).mp ((String.append_left_inj _).mp h)

def systemAccesses : List Access :=
  [.ReadFile "/dev/kmsg", .Run "dmesg" [], .ReadFile "/var/log/syslog",
    .ReadFile "/var/log/messages"]

theorem systemAccesses_serviceless (name : String) :
    .ReadFile (serviceLog name) ∉ systemAccesses ∧
      ∀ shown, .Run "journalctl" (journalArgs name shown) ∉ systemAccesses := by
  have hlog : serviceLog name = "/run/pact/logs/" ++ (name ++ ".log") := String.append_assoc
  have hpath : ∀ path, startsWith path "/run/pact/logs/" = false → serviceLog name ≠ path :=
    fun path hstart heq => append_ne "/run/pact/logs/" _ path hstart (hlog.symm.trans heq)
  simp [systemAccesses, hpath "/dev/kmsg" (by decide), hpath "/var/log/syslog" (by decide),
    hpath "/var/log/messages" (by decide)]

theorem validateServiceName_ok_iff (name : String) (declared : List String) :
    validateServiceName name declared = .ok () ↔
      contains name "/" = false ∧ contains name ".." = false := by
  unfold validateServiceName
  by_cases hempty : name = ""
  · subst hempty
    simp only [if_true, true_iff]
    decide
  · rw [if_neg hempty]
    cases hslash : contains name "/" <;> cases hdots : contains name ".." <;> simp

theorem bind_eq_ok_iff {ε α β : Type*} (first : Except ε α) (rest : α → Except ε β)
    (result : β) :
    first.bind rest = .ok result ↔ ∃ value, first = .ok value ∧ rest value = .ok result := by
  cases first <;> simp [Except.bind]

section Collection

variable (node : Node) (limit : Nat) (grep : Option (String → Bool)) (backend : SupervisorBackend)
  (regex : RegexLibrary) (request : DiagRequest) (declared : List String)

theorem collectServiceLog_accesses (service : String) :
    (collectServiceLog node limit grep backend service).1 =
      match backend with
      | .Pact => [.ReadFile (serviceLog service)]
      | .Systemd => [.Run "journalctl" (journalArgs service limit)] := by
  cases backend with
  | Pact => cases h : node.readToString (serviceLog service) <;> simp [collectServiceLog, h]
  | Systemd =>
    cases h : node.run "journalctl" (journalArgs service limit) <;> simp [collectServiceLog, h]

theorem collectServiceLog_source (service : String) :
    (collectServiceLog node limit grep backend service).2.source = "service:" ++ service := by
  cases backend with
  | Pact =>
    cases h : node.readToString (serviceLog service) <;> simp [collectServiceLog, h, tailChunk]
  | Systemd =>
    cases h : node.run "journalctl" (journalArgs service limit) <;> simp [collectServiceLog, h]

theorem serviceLog_part_iff (service name : String) :
    (.ReadFile (serviceLog name) ∈ (collectServiceLog node limit grep backend service).1 ∨
        ∃ shown, .Run "journalctl" (journalArgs name shown) ∈
          (collectServiceLog node limit grep backend service).1) ↔ name = service := by
  rw [collectServiceLog_accesses]
  constructor
  · cases backend with
    | Pact =>
      rintro (hread | ⟨shown, hrun⟩)
      · exact serviceLog_injective name service (by simpa using hread)
      · simp at hrun
    | Systemd =>
      rintro (hread | ⟨shown, hrun⟩)
      · simp at hread
      · simp only [journalArgs, List.mem_singleton, Access.Run.injEq, List.cons.injEq] at hrun
        exact hrun.2.2.1
  · rintro rfl
    cases backend with
    | Pact => exact Or.inl List.mem_cons_self
    | Systemd => exact Or.inr ⟨limit, List.mem_cons_self⟩

theorem collectDmesg_system :
    (collectDmesg node limit grep).1 ⊆ systemAccesses ∧
      (collectDmesg node limit grep).2.source = "dmesg" := by
  cases hfile : node.readToString "/dev/kmsg" <;> cases houtput : node.run "dmesg" [] <;>
    simp [collectDmesg, hfile, houtput, systemAccesses, tailChunk]

theorem collectSyslog_system :
    (collectSyslog node limit grep).1 ⊆ systemAccesses ∧
      (collectSyslog node limit grep).2.source = "syslog" := by
  cases hfile : node.readToString "/var/log/syslog" <;>
    cases hother : node.readToString "/var/log/messages" <;>
    simp [collectSyslog, hfile, hother, systemAccesses, tailChunk]

theorem collectDiag_part (part : List Access × DiagChunk)
    (hpart : part ∈ collectDiag node regex request backend declared) :
    (part.1 ⊆ systemAccesses ∧ (part.2.source = "dmesg" ∨ part.2.source = "syslog")) ∨
      (request.wantsServices = true ∧ ∃ service ∈ request.services declared,
        part = collectServiceLog node (normalizeLineLimit request.lineLimit) (request.grep regex)
          backend service) := by
  simp only [collectDiag, List.mem_append] at hpart
  rcases hpart with hsystem | hservice
  · left
    split_ifs at hsystem
    · rcases List.mem_pair.mp hsystem with rfl | rfl
      · obtain ⟨haccesses, hsource⟩ := collectDmesg_system node
          (normalizeLineLimit request.lineLimit) (request.grep regex)
        exact ⟨haccesses, Or.inl hsource⟩
      · obtain ⟨haccesses, hsource⟩ := collectSyslog_system node
          (normalizeLineLimit request.lineLimit) (request.grep regex)
        exact ⟨haccesses, Or.inr hsource⟩
    · cases hsystem
  · right
    split_ifs at hservice with hwants
    · obtain ⟨service, hmem, rfl⟩ := List.mem_map.mp hservice
      exact ⟨hwants, service, hmem, rfl⟩
    · cases hservice

theorem collectDiag_onlyDeclared (h : ¬NamesUndeclared declared request) :
    OnlyDeclared declared (collectDiag node regex request backend declared) := by
  have hservices : request.wantsServices = true → ∀ service ∈ request.services declared,
      service ∈ declared := by
    intro hwants service hmem
    rw [DiagRequest.services] at hmem
    split_ifs at hmem with hall
    · exact hmem
    · obtain rfl := List.mem_singleton.mp hmem
      by_contra hnot
      exact h ⟨hwants, hall, hnot⟩
  refine ⟨?_, ?_⟩
  · intro part hpart name haccess
    rcases collectDiag_part node backend regex request declared part hpart with
      ⟨hsystem, -⟩ | ⟨hwants, service, hmem, rfl⟩
    · obtain ⟨hread, hrun⟩ := systemAccesses_serviceless name
      rcases haccess with haccess | ⟨shown, haccess⟩
      · exact absurd (hsystem haccess) hread
      · exact absurd (hsystem haccess) (hrun shown)
    · obtain rfl := (serviceLog_part_iff node _ _ backend service name).mp haccess
      exact hservices hwants name hmem
  · intro part hpart name hsource hnot
    rcases collectDiag_part node backend regex request declared part hpart with
      ⟨-, hother⟩ | ⟨hwants, service, hmem, rfl⟩
    · rcases hother with hother | hother
      · exact absurd (hsource.symm.trans hother) (append_ne "service:" name "dmesg" (by decide))
      · exact absurd (hsource.symm.trans hother) (append_ne "service:" name "syslog" (by decide))
    · rw [collectServiceLog_source, String.append_right_inj] at hsource
      exact absurd (hservices hwants service hmem) (hsource ▸ hnot)

theorem collectDiag_undeclared (h : NamesUndeclared declared request) :
    ¬OnlyDeclared declared (collectDiag node regex request backend declared) := by
  obtain ⟨hwants, hnamed, hnot⟩ := h
  intro honly
  refine hnot (honly.accesses (collectServiceLog node (normalizeLineLimit request.lineLimit)
    (request.grep regex) backend request.serviceName) ?_ request.serviceName
    ((serviceLog_part_iff node _ _ backend _ _).mpr rfl))
  simp only [collectDiag, hwants, if_true, DiagRequest.services, if_neg hnamed, List.map_cons,
    List.map_nil, List.mem_append, List.mem_singleton, or_true]

theorem collectDiagRpc_ok_iff (world : World) (server : ShellServer)
    (authorization : Option MetadataValue) (collected : List (List Access × DiagChunk)) :
    collectDiagRpc world server node regex backend declared authorization request =
        .ok collected ↔
      Accepted world server regex authorization request ∧
        collected = collectDiag node regex request backend declared := by
  unfold collectDiagRpc
  constructor
  · intro h
    obtain ⟨identity, hidentity, h⟩ := (bind_eq_ok_iff _ _ _).mp h
    obtain ⟨pattern, hpattern, h⟩ := (bind_eq_ok_iff _ _ _).mp h
    obtain ⟨_, hname, h⟩ := (bind_eq_ok_iff _ _ _).mp h
    rw [validateServiceName_ok_iff] at hname
    exact ⟨⟨⟨identity, hidentity⟩, ⟨pattern, hpattern⟩, hname⟩, (Except.ok.inj h).symm⟩
  · rintro ⟨⟨⟨identity, hidentity⟩, ⟨pattern, hpattern⟩, hname⟩, rfl⟩
    rw [hidentity, hpattern, (validateServiceName_ok_iff request.serviceName declared).mpr hname]
    rfl

end Collection

-- The collection keeps to the declared services exactly for the requests that name no other, and
-- the checks of the RPC turn away those with a path separator only.
theorem only_declared_services_iff (regex : RegexLibrary) (request : DiagRequest)
    (backend : SupervisorBackend) (declared : List String) :
    ((∀ node, OnlyDeclared declared (collectDiag node regex request backend declared)) ↔
      ¬NamesUndeclared declared request) ∧
    ∀ world server authorization,
      (∀ node collected,
        collectDiagRpc world server node regex backend declared authorization request =
          .ok collected → OnlyDeclared declared collected) ↔
      ¬(Accepted world server regex authorization request ∧ NamesUndeclared declared request) := by
  refine ⟨⟨?_, ?_⟩, fun world server authorization => ⟨?_, ?_⟩⟩
  · intro honly hundeclared
    exact collectDiag_undeclared twoLines backend regex request declared hundeclared (honly twoLines)
  · intro hdeclared node
    exact collectDiag_onlyDeclared node backend regex request declared hdeclared
  · rintro honly ⟨haccepted, hundeclared⟩
    exact collectDiag_undeclared twoLines backend regex request declared hundeclared
      (honly twoLines _ ((collectDiagRpc_ok_iff twoLines backend regex request declared world server
        authorization _).mpr ⟨haccepted, rfl⟩))
  · intro hnot node collected hcollected
    obtain ⟨haccepted, rfl⟩ := (collectDiagRpc_ok_iff node backend regex request declared world
      server authorization collected).mp hcollected
    exact collectDiag_onlyDeclared node backend regex request declared
      fun hundeclared => hnot ⟨haccepted, hundeclared⟩

-- A log that an undeclared service has left is read and returned; no check stands in the way.
theorem undeclared_service_read :
    validateServiceName "sshd" ["web"] = .ok () ∧
    collectDiag twoLines ⟨fun _ => .error ""⟩ ⟨"service", "sshd", "", 0⟩ .Pact ["web"] =
      [([.ReadFile "/run/pact/logs/sshd.log"], ⟨"service:sshd", ["error", "ok"], false⟩)] ∧
    collectDiag twoLines ⟨fun _ => .error ""⟩ ⟨"service", "sshd", "", 0⟩ .Systemd ["web"] =
      [([.Run "journalctl" ["-u", "sshd", "--no-pager", "-n", "100"]],
        ⟨"service:sshd", ["ok"], false⟩)] := by
  refine ⟨?_, ?_, ?_⟩ <;> decide +kernel

end Pact.Agent.Shell.Diag
