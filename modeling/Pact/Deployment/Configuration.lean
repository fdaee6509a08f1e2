import Pact.Agent.Boot
import Pact.Journal.BootService.BootConfig
import Pact.Journal.ConfigService.Reads
import Pact.Journal.Services.Unwritten

namespace Pact.Deployment

open Pact.Library Pact.Common Pact.Journal Pact.Agent

-- What an agent gets that asks the journal for its configuration.
def bootFrom (platform : Platform) (codec : Codec) (now : DateTime) (journal : JournalState)
    (request : Proto.BootConfigRequest) : Except Status (List (Except Status Proto.ConfigChunk)) :=
  (BootService.streamBootConfig platform codec now journal request).map (List.map .ok)

-- No service stores an overlay or the state of a node. So whatever is committed, applied or
-- promoted, an agent that boots asks the kernel for nothing, and no node has a state to show.
theorem services_configure_no_node (config : ServiceConfig) (steps : List ServiceStep)
    (services : Services) (run : Run (servicesNext config) OwnStep .start steps services) :
    (∀ codec statusText now agent,
      Boot.bootPhase7 codec statusText agent
        (some (bootFrom config.platform codec now services.journal)) = []) ∧
    (∀ codec now request, BootService.streamBootConfig config.platform codec now services.journal
      request = .error ⟨.NotFound, "no overlay for vCluster " ++ request.vclusterId⟩) ∧
    (∀ nodeId, ConfigService.getNodeState services.journal nodeId =
      .error ⟨.NotFound, "node " ++ nodeId ++ " not found"⟩) ∧
    (∀ vclusterId, ConfigService.getOverlay services.journal vclusterId =
      .error ⟨.NotFound, "overlay for " ++ vclusterId ++ " not found"⟩) := by
  have hbare := (run_served steps run).bare
  have hstream : ∀ codec now request,
      BootService.streamBootConfig config.platform codec now services.journal request =
        .error ⟨.NotFound, "no overlay for vCluster " ++ request.vclusterId⟩ := by
    intro codec now request
    simp only [BootService.streamBootConfig, hbare.overlays request.vclusterId]
  refine ⟨?_, hstream, ?_, ?_⟩
  · intro codec statusText now agent
    simp only [Boot.bootPhase7, Boot.streamBootConfig, bootFrom, hstream, Except.map]
  · intro nodeId
    simp only [ConfigService.getNodeState, hbare.nodeStates nodeId]
  · intro vclusterId
    simp only [ConfigService.getOverlay, hbare.overlays vclusterId]

theorem services_configure_no_node_enrolled : ∃ services : Services,
    (services.journal.enrollments.get "node-1").isSome = true ∧
      ConfigService.getNodeState services.journal "node-1" =
        .error ⟨.NotFound, "node node-1 not found"⟩ := by
  obtain ⟨services, record, hrun, hget, _, _⟩ := exists_enrolled
  exact ⟨services, by rw [hget]; rfl,
    (services_configure_no_node adminServices enrolledSteps services hrun).2.2.1 "node-1"⟩

end Pact.Deployment
