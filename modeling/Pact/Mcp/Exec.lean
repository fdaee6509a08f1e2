import Pact.Agent.Shell.ExecStream
import Pact.Library.Lines
import Pact.Mcp.Connected

namespace Pact.Mcp

open Pact.Library Pact.Common Pact.Journal Pact.Agent.Shell

-- A call of exec on the agent: what comes of the stream, if the call gets through.
abbrev ExecCall : Type := ExecRequest → Except Status (List (Except Status (Option ExecOutput)))

structure Renderer extends Printer where
  lossy : List UInt8 → String

structure Collected where
  stdout : List UInt8
  stderr : List UInt8
  exitCode : Int
  deriving DecidableEq

def Collected.start : Collected := ⟨[], [], 0⟩

def Collected.add (collected : Collected) : Option ExecOutput → Except String Collected
  | some (.Stdout data) => .ok { collected with stdout := collected.stdout ++ data }
  | some (.Stderr data) => .ok { collected with stderr := collected.stderr ++ data }
  | some (.ExitCode code) => .ok { collected with exitCode := code }
  | some (.Error text) => .error text
  | none => .ok collected

-- The loop over the stream: an error of the transport only ends the reading.
def readExec : Collected → List (Except Status (Option ExecOutput)) → Except String Collected
  | collected, .ok output :: rest =>
    match collected.add output with
    | .ok more => readExec more rest
    | .error text => .error text
  | collected, _ => .ok collected

def execText (renderer : Renderer) (node command : String) (collected : Collected) : String :=
  "[" ++ node ++ "] " ++ command ++ "\n" ++
    (if collected.stdout = [] then "" else renderer.lossy collected.stdout) ++
    (if collected.stderr = [] then "" else "\nstderr: " ++ renderer.lossy collected.stderr) ++
    (if collected.exitCode = 0 then "" else "\n(exit code: " ++ toString collected.exitCode ++ ")")

def renderExec (renderer : Renderer) (node command : String)
    (answer : Except Status (List (Except Status (Option ExecOutput)))) : ToolCallResult :=
  match answer with
  | .error status => ⟨"Exec failed: " ++ renderer.statusText status, true⟩
  | .ok stream =>
    match readExec .start stream with
    | .error text => ⟨"Exec error: " ++ text, true⟩
    | .ok collected => ⟨execText renderer node command collected, collected.exitCode ≠ 0⟩

def handleExec (renderer : Renderer) (call : ExecCall) (args : Json) : ToolCallResult :=
  match args.getStr "node" with
  | none => ⟨"Error: node ID required", true⟩
  | some node =>
    match args.getStr "command" with
    | none => ⟨"Error: command required", true⟩
    | some command =>
      match splitWhitespace command with
      | [] => ⟨"Error: empty command", true⟩
      | first :: rest => renderExec renderer node command (call ⟨first, rest⟩)

def arrived : List (Except Status (Option ExecOutput)) → List (Option ExecOutput)
  | .ok output :: rest => output :: arrived rest
  | _ => []

-- Everything that the messages say, one after the other.
def collect (collected : Collected) (outputs : List (Option ExecOutput)) :
    Except String Collected :=
  outputs.foldlM Collected.add collected

theorem collect_cons (collected : Collected) (output : Option ExecOutput)
    (rest : List (Option ExecOutput)) :
    collect collected (output :: rest) =
      (collected.add output).bind fun more => collect more rest := rfl

theorem readExec_eq (collected : Collected) (received : List (Except Status (Option ExecOutput))) :
    readExec collected received = collect collected (arrived received) := by
  induction received generalizing collected with
  | nil => rfl
  | cons item rest ih =>
    cases item with
    | error status => rfl
    | ok output =>
      rw [readExec, arrived, collect_cons]
      cases collected.add output with
      | error text => rfl
      | ok more => exact ih more

def ExecOutput.IsChunk : ExecOutput → Prop
  | .Stdout _ | .Stderr _ => True
  | _ => False

-- As long as only output has come, the exit code is the one the reading starts with.
theorem collect_chunks (collected : Collected) (chunks : List ExecOutput)
    (hchunks : ∀ chunk ∈ chunks, ExecOutput.IsChunk chunk) :
    ∃ gathered, collect collected (chunks.map some) = .ok gathered ∧
      gathered.exitCode = collected.exitCode := by
  induction chunks generalizing collected with
  | nil => exact ⟨collected, rfl, rfl⟩
  | cons chunk rest ih =>
    have hrest := fun other hother => hchunks other (List.mem_cons_of_mem chunk hother)
    have hchunk := hchunks chunk List.mem_cons_self
    cases chunk with
    | Stdout data => exact ih { collected with stdout := collected.stdout ++ data } hrest
    | Stderr data => exact ih { collected with stderr := collected.stderr ++ data } hrest
    | ExitCode code => exact hchunk.elim
    | Error text => exact hchunk.elim

theorem isChunk_of_mem_chunks (result : ExecResult) (chunk : ExecOutput)
    (h : chunk ∈ result.chunks) : ExecOutput.IsChunk chunk := by
  rcases List.mem_append.mp h with hout | herr
  · split at hout
    · cases hout
    · rw [List.mem_singleton.mp hout]; exact trivial
  · split at herr
    · cases herr
    · rw [List.mem_singleton.mp herr]; exact trivial

def conclusion : Except ShellError (ExecResult × Bool) → Except String Collected
  | .ok (result, _) => .ok ⟨result.stdout, result.stderr, result.exitCode⟩
  | .error error => .error error.text

theorem collect_outputs (ended : Except ShellError (ExecResult × Bool)) :
    collect .start ((outputs ended).map some) = conclusion ended := by
  cases ended with
  | error error => rfl
  | ok answer =>
    obtain ⟨⟨stdout, stderr, exitCode⟩, stateChanging⟩ := answer
    by_cases hout : stdout = [] <;> by_cases herr : stderr = [] <;>
      simp [outputs, ExecResult.chunks, hout, herr, conclusion, collect, Collected.add,
        Collected.start, bind, Except.bind, pure, Except.pure]

theorem collect_short (ended : Except ShellError (ExecResult × Bool)) (part : List ExecOutput)
    (hpart : part <+: outputs ended) (hshort : part.length < (outputs ended).length) :
    ∃ gathered, collect .start (part.map some) = .ok gathered ∧ gathered.exitCode = 0 := by
  cases ended with
  | error error =>
    have hnil : part = [] := List.length_eq_zero_iff.mp (Nat.lt_one_iff.mp hshort)
    exact ⟨.start, by rw [hnil]; rfl, rfl⟩
  | ok answer =>
    have hchunks : part <+: answer.1.chunks := by
      rw [outputs, List.length_append, List.length_singleton] at hshort
      exact List.prefix_of_prefix_length_le hpart (List.prefix_append _ _) (by omega)
    exact collect_chunks .start part fun chunk hchunk =>
      isChunk_of_mem_chunks answer.1 chunk (hchunks.subset hchunk)

theorem renderExec_isError_iff (renderer : Renderer) (node command : String)
    (ended : Except ShellError (ExecResult × Bool))
    (received : List (Except Status (Option ExecOutput)))
    (hdelivered : arrived received <+: (outputs ended).map some) :
    (renderExec renderer node command (.ok received)).isError = false ↔
      (arrived received).length < (outputs ended).length ∨
        ∃ result stateChanging, ended = .ok (result, stateChanging) ∧ result.exitCode = 0 := by
  obtain ⟨part, hpart, harrived⟩ := List.prefix_map_iff.mp hdelivered
  simp only [renderExec, readExec_eq, harrived, List.length_map]
  -- The last message alone says how the command ended.
  rcases Nat.lt_or_ge part.length (outputs ended).length with hshort | hwhole
  · obtain ⟨gathered, hcollect, hcode⟩ := collect_short ended part hpart hshort
    simp [hcollect, hcode, hshort]
  · rw [hpart.eq_of_length_le hwhole, collect_outputs]
    cases ended with
    | error error => simp [conclusion]
    | ok answer =>
      obtain ⟨result, stateChanging⟩ := answer
      simp [conclusion]

-- However much of the stream arrives: whatever breaks off before the last message counts as a
-- success, be that message an exit code or an error.
theorem exec_success_iff (renderer : Renderer) (args : Json) (node command first : String)
    (rest : List String) (hnode : args.getStr "node" = some node)
    (hcommand : args.getStr "command" = some command)
    (hsplit : splitWhitespace command = first :: rest) (world : World) (server : ShellServer)
    (shared : Shared) (authorization : Option MetadataValue) (execution : Execution)
    (sent : List ExecOutput) (received : List (Except Status (Option ExecOutput)))
    (hexec : GrpcService.exec world server shared ⟨authorization, ⟨first, rest⟩⟩ =
      .ok (execution, some sent))
    (hdelivered : arrived received <+: sent.map some) :
    (handleExec renderer (fun _ => .ok received) args).isError = false ↔
      (arrived received).length < sent.length ∨ ∃ result stateChanging,
        execution.result = some (.ok (result, stateChanging)) ∧ result.exitCode = 0 := by
  obtain ⟨ended, hended, rfl⟩ :=
    GrpcService.exec_eq_ok world server shared _ execution sent hexec
  simp only [handleExec, hnode, hcommand, hsplit, hended, Option.some.injEq]
  exact renderExec_isError_iff renderer node command ended received hdelivered

def failingWorld : World :=
  { sampleWorld (.Exited (some 1)) with
    spawn := .ok ⟨[.Data [111, 107]], [], .Exited (some 1)⟩ }

-- The connection is lost between the output and the exit code.
theorem lost_exit_code :
    ∃ execution, GrpcService.exec failingWorld sampleServer sampleShared
        ⟨some (.Text "Bearer token-1"), ⟨"ps", []⟩⟩ =
          .ok (execution, some [.Stdout [111, 107], .ExitCode 1]) ∧
      (handleExec ⟨⟨fun _ => "", Status.message⟩, fun _ => "ok"⟩
        (fun _ => .ok [.ok (some (.Stdout [111, 107])), .error ⟨.Internal, "reset"⟩])
        (.Object [("node", .Text "n1"), ("command", .Text "ps")])).isError = false := by
  have hexec : GrpcService.exec failingWorld sampleServer sampleShared
      ⟨some (.Text "Bearer token-1"), ⟨"ps", []⟩⟩ =
        .ok (Agent.Shell.exec failingWorld sampleServer sampleShared "Bearer token-1" "ps" [],
          some [.Stdout [111, 107], .ExitCode 1]) := by
    decide +kernel
  exact ⟨_, hexec, (exec_success_iff _ _ "n1" "ps" "ps" [] rfl rfl (by decide +kernel)
    failingWorld sampleServer sampleShared _ _ _ _ hexec (by decide)).mpr (Or.inl (by decide))⟩

end Pact.Mcp
