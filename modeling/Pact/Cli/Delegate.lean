import Pact.Common.Proto
import Pact.Library.Text

namespace Pact.Cli.Delegate

open Pact.Library Pact.Common

inductive NodeMgmtBackendType
  | Csm
  | Ochami
  deriving DecidableEq

def NodeMgmtBackendType.displayName : NodeMgmtBackendType → String
  | .Csm => "CSM"
  | .Ochami => "OpenCHAMI"

structure DelegationConfig where
  latticeEndpoint : Option String
  latticeToken : Option String
  nodeMgmtBackend : Option NodeMgmtBackendType
  nodeMgmtBaseUrl : Option String
  nodeMgmtToken : Option String
  openchamiSmdUrl : Option String
  openchamiToken : Option String
  timeoutSecs : Nat
  deriving DecidableEq

def DelegationConfig.default : DelegationConfig where
  latticeEndpoint := none
  latticeToken := none
  nodeMgmtBackend := none
  nodeMgmtBaseUrl := none
  nodeMgmtToken := none
  openchamiSmdUrl := none
  openchamiToken := none
  timeoutSecs := 30

inductive NodeMgmtError
  | NotConfigured
  | Unreachable (reason : String)
  | BackendError (status : Nat) (body : String)
  | AuthError (body : String)
  | NoBootTemplate (nodeId : String)
  deriving DecidableEq

def NodeMgmtError.text : NodeMgmtError → String
  | .NotConfigured => "node management backend not configured"
  | .Unreachable reason => "backend unreachable: " ++ reason
  | .BackendError status body =>
    "backend returned error: HTTP " ++ toString status ++ " — " ++ body
  | .AuthError body => "authentication failed: " ++ body
  | .NoBootTemplate nodeId => "no boot template found for node " ++ nodeId

structure DelegationResult where
  command : String
  nodeId : String
  targetSystem : String
  success : Bool
  message : String
  deriving DecidableEq

structure ClientConfig where
  endpoint : String
  timeoutSecs : Nat
  token : Option String
  deriving DecidableEq

inductive LatticeCall
  | DrainNode (nodeId reason : String)
  | DisableNode (nodeId reason : String)
  | EnableNode (nodeId : String)
  | UndrainNode (nodeId : String)
  deriving DecidableEq

-- Only a drain tells of the allocations that are left.
structure LatticeResponse where
  success : Bool
  activeAllocations : Nat
  deriving DecidableEq

inductive PostBody
  | CapmcPowerAction (reason : String) (xnames : List String) (force : Bool)
  | BosSessionRequest (operation limit : String)
  | PowerAction (resetType : String)
  deriving DecidableEq

structure Post where
  url : String
  token : Option String
  timeoutSecs : Nat
  body : PostBody
  deriving DecidableEq

-- The name of the session is empty unless the body is JSON that has one.
structure HttpResponse where
  status : Nat
  body : String
  sessionName : String
  deriving DecidableEq

-- What a command does, in order. The journal's answer stands with the entry.
inductive Effect
  | Audit (entry : Proto.ConfigEntry) (answer : Except String Nat)
  | Connect (config : ClientConfig)
  | Call (call : LatticeCall)
  | Send (post : Post)
  deriving DecidableEq

-- How the journal, lattice and the management backend answer.
structure World where
  appendEntry : Proto.ConfigEntry → Except String Nat
  connect : ClientConfig → Except String Unit
  lattice : LatticeCall → Except String LatticeResponse
  post : Post → Except String HttpResponse

-- Who asks for what, and under which configuration.
structure Order where
  nodeId : String
  principal : String
  role : String
  config : DelegationConfig
  deriving DecidableEq

def auditEntry (command target : String) (order : Order) : Proto.ConfigEntry where
  sequence := 0
  timestamp := none
  entryType := 12
  scope := some ⟨some (.NodeId order.nodeId)⟩
  author := some ⟨order.principal, "Human", order.role⟩
  parent := none
  stateDelta := none
  policyRef := "delegate:" ++ target ++ ":" ++ command ++ ":" ++ order.nodeId
  ttl := none
  emergencyReason := none

def auditDelegation (world : World) (command target : String) (order : Order) :
    Effect × Except String Nat :=
  let entry := auditEntry command target order
  let answer := world.appendEntry entry
  (.Audit entry answer,
    answer.mapError fun e => "audit logging for " ++ command ++ " failed: " ++ e)

def auditMsg : Except String Nat → String
  | .ok seq => "audit seq:" ++ toString seq
  | .error _ => ""

-- What distinguishes the commands that go to lattice.
structure LatticeCommand where
  command : String
  call : String → LatticeCall
  done : LatticeResponse → String → String

def latticeDelegation (kind : LatticeCommand) (world : World) (order : Order) :
    List Effect × DelegationResult :=
  let (audit, auditSeq) := auditDelegation world kind.command "lattice" order
  let msg := auditMsg auditSeq
  let result (success : Bool) (message : String) : DelegationResult :=
    ⟨kind.command, order.nodeId, "lattice", success, message⟩
  match order.config.latticeEndpoint with
  | none => ([audit], result false ("lattice endpoint not configured (" ++ msg ++ ")"))
  | some endpoint =>
    let client : ClientConfig := ⟨endpoint, order.config.timeoutSecs, order.config.latticeToken⟩
    match world.connect client with
    | .error e =>
      ([audit, .Connect client], result false ("connection failed: " ++ e ++ " (" ++ msg ++ ")"))
    | .ok () =>
      let call := kind.call order.nodeId
      match world.lattice call with
      | .ok resp =>
        ([audit, .Connect client, .Call call], result resp.success (kind.done resp msg))
      | .error e =>
        ([audit, .Connect client, .Call call], result false (e ++ " (" ++ msg ++ ")"))

def drainCommand : LatticeCommand where
  command := "drain"
  call nodeId := .DrainNode nodeId "pact drain"
  done resp msg :=
    "drained (" ++ toString resp.activeAllocations ++ " active allocations, " ++ msg ++ ")"

def drainNode : World → Order → List Effect × DelegationResult := latticeDelegation drainCommand

def cordonCommand : LatticeCommand where
  command := "cordon"
  call nodeId := .DisableNode nodeId "pact cordon"
  done _ msg := "cordoned (" ++ msg ++ ")"

def cordonNode : World → Order → List Effect × DelegationResult := latticeDelegation cordonCommand

def uncordonCommand : LatticeCommand where
  command := "uncordon"
  call nodeId := .EnableNode nodeId
  done _ msg := "uncordoned (" ++ msg ++ ")"

def uncordonNode : World → Order → List Effect × DelegationResult :=
  latticeDelegation uncordonCommand

def undrainCommand : LatticeCommand where
  command := "undrain"
  call nodeId := .UndrainNode nodeId
  done _ msg := "undrained (" ++ msg ++ ")"

def undrainNode : World → Order → List Effect × DelegationResult := latticeDelegation undrainCommand

structure Backend where
  kind : NodeMgmtBackendType
  baseUrl : String
  token : Option String
  timeoutSecs : Nat
  deriving DecidableEq

def Backend.new (kind : NodeMgmtBackendType) (url : String) (config : DelegationConfig) :
    Backend where
  kind := kind
  baseUrl := trimEndMatches url '/'
  token := config.nodeMgmtToken <|> config.openchamiToken
  timeoutSecs := config.timeoutSecs

def createNodeMgmtBackend (config : DelegationConfig) : Except NodeMgmtError Backend :=
  match config.nodeMgmtBackend with
  | none =>
    match config.openchamiSmdUrl with
    | some url => .ok (.new .Ochami url config)
    | none => .error .NotConfigured
  | some kind =>
    let baseUrl :=
      match kind with
      | .Ochami => config.nodeMgmtBaseUrl <|> config.openchamiSmdUrl
      | .Csm => config.nodeMgmtBaseUrl
    match baseUrl with
    | some url => .ok (.new kind url config)
    | none => .error .NotConfigured

def HttpResponse.isSuccess (response : HttpResponse) : Bool :=
  200 ≤ response.status ∧ response.status < 300

def mapHttpError (status : Nat) (body : String) : NodeMgmtError :=
  if status = 401 ∨ status = 403 then .AuthError body else .BackendError status body

-- One request, and what is made of the answer to it.
structure Exchange where
  post : Post
  accepted : HttpResponse → String
  refused : HttpResponse → NodeMgmtError

def capmcReboot (backend : Backend) (nodeId : String) : Exchange where
  post := ⟨backend.baseUrl ++ "/capmc/capmc/v1/xname_reinit", backend.token, backend.timeoutSecs,
    .CapmcPowerAction "pact reboot" [nodeId] false⟩
  accepted _ := "reboot initiated for " ++ nodeId ++ " via CAPMC"
  refused response := mapHttpError response.status response.body

-- A refusal that speaks of a template, or of something not found, is taken for a missing template.
def bosReimage (backend : Backend) (nodeId : String) : Exchange where
  post := ⟨backend.baseUrl ++ "/bos/v2/sessions", backend.token, backend.timeoutSecs,
    .BosSessionRequest "reboot" nodeId⟩
  accepted response :=
    "reimage initiated for " ++ nodeId ++ " via BOS" ++
      (if response.sessionName = "" then "" else " (session: " ++ response.sessionName ++ ")")
  refused response :=
    if (response.status = 404 ∨ response.status = 400) ∧
        (contains response.body "template" ∨ contains response.body "not found") then
      .NoBootTemplate nodeId
    else mapHttpError response.status response.body

def powerCycle (backend : Backend) (nodeId : String) : Exchange where
  post := ⟨backend.baseUrl ++ "/hsm/v2/State/Components/" ++ nodeId ++ "/Actions/PowerCycle",
    backend.token, backend.timeoutSecs, .PowerAction "ForceRestart"⟩
  accepted _ := "power cycle initiated for " ++ nodeId
  refused response := mapHttpError response.status response.body

def Backend.reboot (backend : Backend) (nodeId : String) : Exchange :=
  match backend.kind with
  | .Csm => capmcReboot backend nodeId
  | .Ochami => powerCycle backend nodeId

def Backend.reimage (backend : Backend) (nodeId : String) : Exchange :=
  match backend.kind with
  | .Csm => bosReimage backend nodeId
  | .Ochami =>
    { powerCycle backend nodeId with
      accepted := fun _ =>
        "reimage initiated for " ++ nodeId ++ " (power cycle + BSS re-provision)" }

def Exchange.perform (world : World) (exchange : Exchange) : Except NodeMgmtError String :=
  match world.post exchange.post with
  | .error e => .error (.Unreachable e)
  | .ok response =>
    if response.isSuccess then .ok (exchange.accepted response)
    else .error (exchange.refused response)

def nodeMgmtTarget (config : DelegationConfig) : String :=
  (config.nodeMgmtBackend.map NodeMgmtBackendType.displayName).getD "OpenCHAMI"

-- What distinguishes the commands that go to the management backend.
structure NodeMgmtCommand where
  command : String
  exchange : Backend → String → Exchange

def nodeMgmtDelegation (kind : NodeMgmtCommand) (world : World) (order : Order) :
    List Effect × DelegationResult :=
  let target := nodeMgmtTarget order.config
  let (audit, auditSeq) := auditDelegation world kind.command target order
  let msg := auditMsg auditSeq
  match createNodeMgmtBackend order.config with
  | .error e =>
    ([audit], ⟨kind.command, order.nodeId, target, false, e.text ++ " (" ++ msg ++ ")"⟩)
  | .ok backend =>
    let exchange := kind.exchange backend order.nodeId
    let effects := [audit, .Send exchange.post]
    let name := backend.kind.displayName
    match exchange.perform world with
    | .ok done =>
      (effects, ⟨kind.command, order.nodeId, name, true, done ++ " (" ++ msg ++ ")"⟩)
    | .error e =>
      (effects, ⟨kind.command, order.nodeId, name, false, e.text ++ " (" ++ msg ++ ")"⟩)

def rebootNode : World → Order → List Effect × DelegationResult :=
  nodeMgmtDelegation ⟨"reboot", Backend.reboot⟩

def reimageNode : World → Order → List Effect × DelegationResult :=
  nodeMgmtDelegation ⟨"reimage", Backend.reimage⟩

inductive Command
  | Drain
  | Cordon
  | Uncordon
  | Undrain
  | Reboot
  | Reimage
  deriving DecidableEq

def Command.name : Command → String
  | .Drain => "drain"
  | .Cordon => "cordon"
  | .Uncordon => "uncordon"
  | .Undrain => "undrain"
  | .Reboot => "reboot"
  | .Reimage => "reimage"

def delegate : Command → World → Order → List Effect × DelegationResult
  | .Drain => drainNode
  | .Cordon => cordonNode
  | .Uncordon => uncordonNode
  | .Undrain => undrainNode
  | .Reboot => rebootNode
  | .Reimage => reimageNode

-- The system a command goes to, as the audit entry names it.
def Command.target (config : DelegationConfig) : Command → String
  | .Reboot | .Reimage => nodeMgmtTarget config
  | _ => "lattice"

def Command.isConfigured (config : DelegationConfig) : Command → Bool
  | .Reboot | .Reimage => (createNodeMgmtBackend config).isOk
  | _ => config.latticeEndpoint.isSome

def Effect.isExternal : Effect → Bool
  | .Audit _ _ => false
  | _ => true

def Documents (command : Command) (order : Order) (entry : Proto.ConfigEntry) : Prop :=
  entry.scope = some ⟨some (.NodeId order.nodeId)⟩ ∧
    entry.policyRef = "delegate:" ++ command.target order.config ++ ":" ++ command.name ++ ":" ++
      order.nodeId

-- The external system is contacted only after the journal has accepted an entry for it, and not
-- at all if the journal refuses one, in which case the command fails.
structure AuditedFirst (command : Command) (world : World) (order : Order) : Prop where
  accepted : ∀ earlier contact later,
    (delegate command world order).1 = earlier ++ contact :: later → contact.isExternal = true →
    ∃ entry seq, .Audit entry (.ok seq) ∈ earlier ∧ Documents command order entry
  refused : ∀ entry error, .Audit entry (.error error) ∈ (delegate command world order).1 →
    (∀ effect ∈ (delegate command world order).1, effect.isExternal = false) ∧
      (delegate command world order).2.success = false

-- Every command asks the journal first and then makes its contacts, if it is configured for any,
-- whatever the journal answered.
structure Performed (world : World) (entry : Proto.ConfigEntry) (configured : Bool)
    (performed : List Effect × DelegationResult) (contacts : List Effect) : Prop where
  effects : performed.1 = .Audit entry (world.appendEntry entry) :: contacts
  external : ∀ contact ∈ contacts, contact.isExternal = true
  none_iff : contacts = [] ↔ configured = false
  fails : configured = false → performed.2.success = false

section Commands

variable (world : World) (order : Order)

theorem latticeDelegation_performed (kind : LatticeCommand) :
    ∃ contacts, Performed world (auditEntry kind.command "lattice" order)
      order.config.latticeEndpoint.isSome (latticeDelegation kind world order) contacts := by
  unfold latticeDelegation
  cases hendpoint : order.config.latticeEndpoint with
  | none => exact ⟨[], rfl, by simp, by simp, fun _ => rfl⟩
  | some endpoint =>
    simp only [auditDelegation]
    cases world.connect ⟨endpoint, order.config.timeoutSecs, order.config.latticeToken⟩ with
    | error e => exact ⟨[.Connect _], rfl, by simp [Effect.isExternal], by simp, nofun⟩
    | ok _ =>
      cases world.lattice (kind.call order.nodeId) <;>
        exact ⟨[.Connect _, .Call _], rfl, by simp [Effect.isExternal], by simp, nofun⟩

theorem nodeMgmtDelegation_performed (kind : NodeMgmtCommand) :
    ∃ contacts, Performed world (auditEntry kind.command (nodeMgmtTarget order.config) order)
      (createNodeMgmtBackend order.config).isOk (nodeMgmtDelegation kind world order) contacts := by
  unfold nodeMgmtDelegation
  cases createNodeMgmtBackend order.config with
  | error e => exact ⟨[], rfl, by simp, by simp [Except.isOk, Except.toBool], fun _ => rfl⟩
  | ok backend =>
    simp only [auditDelegation]
    cases (kind.exchange backend order.nodeId).perform world <;>
      exact ⟨[.Send _], rfl, by simp [Effect.isExternal], by simp [Except.isOk, Except.toBool],
        nofun⟩

theorem delegate_performed (command : Command) :
    ∃ contacts, Performed world (auditEntry command.name (command.target order.config) order)
      (command.isConfigured order.config) (delegate command world order) contacts := by
  cases command with
  | Drain => exact latticeDelegation_performed world order drainCommand
  | Cordon => exact latticeDelegation_performed world order cordonCommand
  | Uncordon => exact latticeDelegation_performed world order uncordonCommand
  | Undrain => exact latticeDelegation_performed world order undrainCommand
  | Reboot => exact nodeMgmtDelegation_performed world order ⟨"reboot", Backend.reboot⟩
  | Reimage => exact nodeMgmtDelegation_performed world order ⟨"reimage", Backend.reimage⟩

theorem auditEntry_documents (command : Command) :
    Documents command order (auditEntry command.name (command.target order.config) order) :=
  ⟨rfl, rfl⟩

theorem delegation_audited_iff (command : Command) :
    AuditedFirst command world order ↔
      (∃ seq, world.appendEntry (auditEntry command.name (command.target order.config) order) =
        .ok seq) ∨
      command.isConfigured order.config = false := by
  obtain ⟨contacts, heffects, hexternal, hnone, hfails⟩ := delegate_performed world order command
  constructor
  · intro haudited
    cases hanswer : world.appendEntry
        (auditEntry command.name (command.target order.config) order) with
    | ok seq => exact Or.inl ⟨seq, rfl⟩
    | error error =>
      rw [hanswer] at heffects
      obtain ⟨hsilent, -⟩ := haudited.refused _ error (by rw [heffects]; exact List.mem_cons_self)
      refine Or.inr (hnone.mp (List.eq_nil_iff_forall_not_mem.mpr fun contact hmem => ?_))
      have hcontact := hsilent contact (by rw [heffects]; exact List.mem_cons_of_mem _ hmem)
      rw [hexternal contact hmem] at hcontact
      cases hcontact
  · intro hcases
    refine ⟨?_, ?_⟩
    · intro earlier contact later hsplit hcontact
      rw [heffects] at hsplit
      cases earlier with
      | nil =>
        cases hsplit
        cases hcontact
      | cons first earlier =>
        obtain ⟨rfl, hcontacts⟩ := List.cons.inj hsplit
        rcases hcases with ⟨seq, hanswer⟩ | hunconfigured
        · exact ⟨_, seq, by rw [hanswer]; exact List.mem_cons_self,
            auditEntry_documents order command⟩
        · rw [hnone.mpr hunconfigured] at hcontacts
          simp at hcontacts
    · intro entry error hmem
      rw [heffects] at hmem ⊢
      rcases List.mem_cons.mp hmem with hfirst | hcontact
      · have hanswer := (Effect.Audit.inj hfirst).2
        have hunconfigured := hcases.resolve_left (by
          rintro ⟨seq, haccepted⟩
          rw [haccepted] at hanswer
          cases hanswer)
        rw [hnone.mpr hunconfigured]
        exact ⟨by simp [Effect.isExternal], hfails hunconfigured⟩
      · have hfalse := hexternal _ hcontact
        cases hfalse

end Commands

-- A journal that answers like this, and systems that accept whatever they are asked.
def obliging (answer : Except String Nat) : World where
  appendEntry _ := answer
  connect _ := .ok ()
  lattice _ := .ok ⟨true, 0⟩
  post _ := .ok ⟨200, "", ""⟩

def wiredOrder : Order where
  nodeId := "node-1"
  principal := "alice"
  role := "pact-ops-ml"
  config :=
    { DelegationConfig.default with
      latticeEndpoint := some "http://lattice:50051"
      openchamiSmdUrl := some "https://smd.example.com" }

theorem delegation_audited_accepted :
    ∀ command, AuditedFirst command (obliging (.ok 7)) wiredOrder :=
  fun command => (delegation_audited_iff _ _ command).mpr (Or.inl ⟨7, rfl⟩)

-- With the journal down, the node is drained and power cycled all the same, without an entry, and
-- the command reports success.
theorem delegation_without_audit :
    drainNode (obliging (.error "unavailable")) wiredOrder =
      ([.Audit (auditEntry "drain" "lattice" wiredOrder) (.error "unavailable"),
        .Connect ⟨"http://lattice:50051", 30, none⟩, .Call (.DrainNode "node-1" "pact drain")],
      ⟨"drain", "node-1", "lattice", true, "drained (0 active allocations, )"⟩) ∧
    rebootNode (obliging (.error "unavailable")) wiredOrder =
      ([.Audit (auditEntry "reboot" "OpenCHAMI" wiredOrder) (.error "unavailable"),
        .Send ⟨"https://smd.example.com/hsm/v2/State/Components/node-1/Actions/PowerCycle", none, 30,
          .PowerAction "ForceRestart"⟩],
      ⟨"reboot", "node-1", "OpenCHAMI", true, "power cycle initiated for node-1 ()"⟩) := by
  refine ⟨?_, ?_⟩ <;> decide +kernel

end Pact.Cli.Delegate
