import ProxyMesh.Topology.Records
import ProxyMesh.Json.Decoder

/-!
# The JSON documents of the records

* `X.toJson`    the document of a record, its fields in the order of their declaration;
* `X.decoder`   the record that a document describes.
-/

namespace ProxyMesh

open Json (Decoder)
open Json.Decoder (record text flag nat natBelow word value list optional textMap oneOf)

open Json (ofWord ofText ofTime)

/-- a port number -/
def portDecoder : Decoder Nat := natBelow 0x10000

/-- a weight has 32 bits -/
def weightDecoder : Decoder Nat := natBelow halfWordBound

namespace Node

def toJson (n : Node) : Json := .obj [
  ("id", ofWord n.id), ("name", .str n.name), ("architecture", .str n.architecture),
  ("address", ofText n.address), ("runtime_enabled", .bool n.runtimeEnabled),
  ("files", .ofTextMap .str n.files)]

def decoder : Decoder Node :=
  record ["id", "name", "architecture", "address", "runtime_enabled", "files"] fun r => do
    pure {
      id := ← r.required "id" word
      name := ← r.required "name" text
      architecture := ← r.required "architecture" text
      address := ← r.optional "address" text
      runtimeEnabled := ← r.withDefault "runtime_enabled" true flag
      files := ← r.withDefault "files" .empty (textMap text) }

end Node

namespace Binary

def toJson (b : Binary) : Json := .obj [
  ("architecture", .str b.architecture), ("source", .str b.source), ("hash", .str b.hash)]

def decoder : Decoder Binary :=
  record ["architecture", "source", "hash"] fun r => do
    pure {
      architecture := ← r.required "architecture" text
      source := ← r.required "source" text
      hash := ← r.required "hash" text }

end Binary

namespace Installed

def toJson (c : Installed) : Json := .obj [("node_id", ofWord c.nodeId), ("path", .str c.path)]

def decoder : Decoder Installed :=
  record ["node_id", "path"] fun r => do
    pure { nodeId := ← r.required "node_id" word, path := ← r.required "path" text }

end Installed

namespace Program

def toJson (p : Program) : Json := .obj [
  ("name", .str p.name), ("binaries", .ofList Binary.toJson p.binaries),
  ("on_node", .ofList Installed.toJson p.installed)]

def decoder : Decoder Program :=
  record ["name", "binaries", "on_node"] fun r => do
    pure {
      name := ← r.required "name" text
      binaries := ← r.withDefault "binaries" [] (list Binary.decoder)
      installed := ← r.withDefault "on_node" [] (list Installed.decoder) }

end Program

namespace Site

def toJson (s : Site) : Json := .obj [
  ("runtime_program", ofText s.runtimeProgram), ("geosite_program", ofText s.geositeProgram),
  ("geoip_program", ofText s.geoipProgram), ("base_config_template", ofText s.baseTemplate),
  ("reverse_seed", .str s.reverseSeed), ("user_domain", .str s.userDomain),
  ("files", .ofTextMap .str s.files)]

def decoder : Decoder Site :=
  record ["runtime_program", "geosite_program", "geoip_program", "base_config_template",
      "reverse_seed", "user_domain", "files"] fun r => do
    let initial := Site.default
    pure {
      runtimeProgram := ← r.withDefault "runtime_program" initial.runtimeProgram (optional text)
      geositeProgram := ← r.withDefault "geosite_program" initial.geositeProgram (optional text)
      geoipProgram := ← r.withDefault "geoip_program" initial.geoipProgram (optional text)
      baseTemplate := ← r.withDefault "base_config_template" initial.baseTemplate (optional text)
      reverseSeed := ← r.withDefault "reverse_seed" initial.reverseSeed text
      userDomain := ← r.withDefault "user_domain" initial.userDomain text
      files := ← r.withDefault "files" initial.files (textMap text) }

end Site

namespace Rule

def toJson (u : Rule) : Json := .obj [
  ("id", ofWord u.id), ("name", .str u.name), ("origin_region", .str u.originRegion),
  ("destination_region", .str u.destinationRegion), ("rules_template", .str u.rulesTemplate)]

def decoder : Decoder Rule :=
  record ["id", "name", "origin_region", "destination_region", "rules_template"] fun r => do
    pure {
      id := ← r.required "id" word
      name := ← r.required "name" text
      originRegion := ← r.withDefault "origin_region" "" text
      destinationRegion := ← r.withDefault "destination_region" "" text
      rulesTemplate := ← r.withDefault "rules_template" "" text }

end Rule

namespace Scope

def toJson (s : Scope) : Json := .obj [("kind", .str s.kind), ("id", ofWord s.id)]

def decoder : Decoder Scope :=
  record ["kind", "id"] fun r => do
    let make ← r.required "kind" (oneOf [("rule", Scope.rule), ("tunnel", Scope.tunnel)])
    pure (make (← r.required "id" word))

end Scope

namespace Balancer

def toJson (b : Balancer) : Json := .obj [
  ("scope", b.scope.toJson), ("name", .str b.name),
  ("strategy_template", ofText b.strategyTemplate),
  ("baselines_ms", .ofList .ofNat b.baselinesMs), ("max_rtt_ms", ofTime b.maxRttMs)]

def decoder : Decoder Balancer :=
  record ["scope", "name", "strategy_template", "baselines_ms", "max_rtt_ms"] fun r => do
    pure {
      scope := ← r.required "scope" Scope.decoder
      name := ← r.required "name" text
      strategyTemplate := ← r.optional "strategy_template" text
      baselinesMs := ← r.withDefault "baselines_ms" [] (list nat)
      maxRttMs := ← r.optional "max_rtt_ms" nat }

end Balancer

namespace Endpoint

def toJson (e : Endpoint) : Json := .obj [
  ("address", .str e.address), ("port", .ofNat e.port), ("sni", ofText e.sni),
  ("host_header", ofText e.hostHeader)]

def decoder : Decoder Endpoint :=
  record ["address", "port", "sni", "host_header"] fun r => do
    pure {
      address := ← r.required "address" text
      port := ← r.required "port" portDecoder
      sni := ← r.optional "sni" text
      hostHeader := ← r.optional "host_header" text }

end Endpoint

namespace Connector

def toJson (c : Connector) : Json := .obj [
  ("outbound_template", .str c.outboundTemplate), ("inbound_type", ofText c.inboundType),
  ("dest_node_id", .ofOption ofWord c.destNodeId),
  ("combo", .ofOption Endpoint.toJson c.endpoint)]

def decoder : Decoder Connector :=
  record ["outbound_template", "inbound_type", "dest_node_id", "combo"] fun r => do
    pure {
      outboundTemplate := ← r.required "outbound_template" text
      inboundType := ← r.optional "inbound_type" text
      destNodeId := ← r.optional "dest_node_id" word
      endpoint := ← r.optional "combo" Endpoint.decoder }

end Connector

namespace Allocation

def toJson (a : Allocation) : Json := .obj [
  ("balancer", .str a.balancer), ("weight", .ofNat a.weight)]

def decoder : Decoder Allocation :=
  record ["balancer", "weight"] fun r => do
    pure { balancer := ← r.required "balancer" text, weight := ← r.required "weight" weightDecoder }

end Allocation

namespace Binding

def portalToJson (node : Id) : Json := .obj [("portal_node_id", ofWord node)]

def portalDecoder : Decoder Id :=
  record ["portal_node_id"] fun r => r.required "portal_node_id" word

def toJson (b : Binding) : Json := .obj [
  ("id", ofWord b.id), ("name", .str b.name), ("scope", b.scope.toJson),
  ("node_id", ofWord b.nodeId), ("reverse", .ofOption portalToJson b.portalNodeId),
  ("connector", b.connector.toJson), ("allocations", .ofList Allocation.toJson b.allocations)]

def decoder : Decoder Binding :=
  record ["id", "name", "scope", "node_id", "reverse", "connector", "allocations"] fun r => do
    pure {
      id := ← r.required "id" word
      name := ← r.required "name" text
      scope := ← r.required "scope" Scope.decoder
      nodeId := ← r.required "node_id" word
      portalNodeId := ← r.optional "reverse" portalDecoder
      connector := ← r.required "connector" Connector.decoder
      allocations := ← r.withDefault "allocations" [] (list Allocation.decoder) }

end Binding

namespace Tunnel

def toJson (t : Tunnel) : Json := .obj [
  ("id", ofWord t.id), ("source_node_id", ofWord t.sourceNodeId),
  ("dest_node_id", ofWord t.destNodeId), ("listen_port", .ofNat t.listenPort),
  ("target_address", .str t.targetAddress), ("target_port", .ofNat t.targetPort),
  ("balancer", .str t.balancer), ("seed", .str t.seed)]

def decoder : Decoder Tunnel :=
  record ["id", "source_node_id", "dest_node_id", "listen_port", "target_address", "target_port",
      "balancer", "seed"] fun r => do
    pure {
      id := ← r.required "id" word
      sourceNodeId := ← r.required "source_node_id" word
      destNodeId := ← r.required "dest_node_id" word
      listenPort := ← r.required "listen_port" portDecoder
      targetAddress := ← r.required "target_address" text
      targetPort := ← r.required "target_port" portDecoder
      balancer := ← r.required "balancer" text
      seed := ← r.required "seed" text }

end Tunnel

namespace InboundType

def toJson (i : InboundType) : Json := .obj [
  ("name", .str i.name), ("is_active", .bool i.isActive), ("is_template", .bool i.isTemplate),
  ("inbound_template", .str i.inboundTemplate), ("consumer_template", .str i.consumerTemplate)]

def decoder : Decoder InboundType :=
  record ["name", "is_active", "is_template", "inbound_template", "consumer_template"] fun r => do
    pure {
      name := ← r.required "name" text
      isActive := ← r.required "is_active" flag
      isTemplate := ← r.withDefault "is_template" false flag
      inboundTemplate := ← r.required "inbound_template" text
      consumerTemplate := ← r.withDefault "consumer_template" "" text }

end InboundType

namespace FixedInbound

def toJson (i : FixedInbound) : Json := .obj [
  ("id", ofWord i.id), ("node_id", .ofOption ofWord i.nodeId), ("template", .str i.template)]

def decoder : Decoder FixedInbound :=
  record ["id", "node_id", "template"] fun r => do
    pure {
      id := ← r.required "id" word
      nodeId := ← r.optional "node_id" word
      template := ← r.required "template" text }

end FixedInbound

namespace Profile

def toJson (p : Profile) : Json := .obj [
  ("id", ofWord p.id), ("is_active", .bool p.isActive), ("proxy_uuid", .str p.proxyUuid)]

def decoder : Decoder Profile :=
  record ["id", "is_active", "proxy_uuid"] fun r => do
    pure {
      id := ← r.required "id" word
      isActive := ← r.required "is_active" flag
      proxyUuid := ← r.required "proxy_uuid" text }

end Profile

namespace Plan

def toJson (p : Plan) : Json := .obj [
  ("id", ofWord p.id), ("connection_rule_id", ofWord p.ruleId),
  ("provider_key", .str p.providerKey), ("provider_args", p.providerArgs)]

def decoder : Decoder Plan :=
  record ["id", "connection_rule_id", "provider_key", "provider_args"] fun r => do
    pure {
      id := ← r.required "id" word
      ruleId := ← r.required "connection_rule_id" word
      providerKey := ← r.required "provider_key" text
      providerArgs := ← r.withDefault "provider_args" .null value }

end Plan

namespace Counter

def toJson (c : Counter) : Json := .obj [
  ("flow_point_at", ofTime c.flowPointAt),
  ("flow_download_bytes", .ofNat c.flow.download), ("flow_upload_bytes", .ofNat c.flow.upload),
  ("current_download_bytes", .ofNat c.current.download),
  ("current_upload_bytes", .ofNat c.current.upload),
  ("last_flow_sync_at", ofTime c.lastFlowSyncAt)]

def decoder : Decoder Counter :=
  record ["flow_point_at", "flow_download_bytes", "flow_upload_bytes", "current_download_bytes",
      "current_upload_bytes", "last_flow_sync_at"] fun r => do
    let flowPointAt ← r.withDefault "flow_point_at" none (optional nat)
    let flowDownload ← r.withDefault "flow_download_bytes" 0 nat
    let flowUpload ← r.withDefault "flow_upload_bytes" 0 nat
    let currentDownload ← r.withDefault "current_download_bytes" 0 nat
    let currentUpload ← r.withDefault "current_upload_bytes" 0 nat
    let lastFlowSyncAt ← r.withDefault "last_flow_sync_at" none (optional nat)
    pure {
      flowPointAt
      flow := ⟨flowDownload, flowUpload⟩
      current := ⟨currentDownload, currentUpload⟩
      lastFlowSyncAt }

end Counter

namespace Claim

def opWord : ClaimOp → String
  | .sync => "sync"
  | .forwardFlowPoint => "forward_flow_point"

def opDecoder : Decoder ClaimOp :=
  oneOf [("sync", .sync), ("forward_flow_point", .forwardFlowPoint)]

def toJson (c : Claim) : Json := .obj [("op", .str (opWord c.op)), ("until", .ofNat c.expiresAt)]

def decoder : Decoder Claim :=
  record ["op", "until"] fun r => do
    pure { op := ← r.required "op" opDecoder, expiresAt := ← r.required "until" nat }

end Claim

namespace Period

def toJson (p : Period) : Json := .obj [
  ("id", ofWord p.id), ("profile_id", ofWord p.profileId), ("plan_id", ofWord p.planId),
  ("plan_args", p.planArgs), ("selected_as_current", .bool p.isCurrent),
  ("first_usage_at", ofTime p.usage.first), ("last_usage_at", ofTime p.usage.last),
  ("counter", p.counter.toJson), ("claim", .ofOption Claim.toJson p.claim)]

def decoder : Decoder Period :=
  record ["id", "profile_id", "plan_id", "plan_args", "selected_as_current", "first_usage_at",
      "last_usage_at", "counter", "claim"] fun r => do
    let id ← r.required "id" word
    let profileId ← r.required "profile_id" word
    let planId ← r.required "plan_id" word
    let planArgs ← r.withDefault "plan_args" .null value
    let isCurrent ← r.required "selected_as_current" flag
    let first ← r.optional "first_usage_at" nat
    let last ← r.optional "last_usage_at" nat
    let counter ← r.withDefault "counter" .initial Counter.decoder
    let claim ← r.withDefault "claim" none (optional Claim.decoder)
    pure { id, profileId, planId, planArgs, isCurrent, usage := ⟨first, last⟩, counter, claim }

end Period

namespace InternalUser

def toJson (u : InternalUser) : Json := .obj [
  ("connection_rule_id", ofWord u.ruleId), ("node_id", ofWord u.nodeId),
  ("is_active", .bool u.isActive), ("proxy_uuid", .str u.proxyUuid),
  ("first_usage_at", ofTime u.usage.first), ("last_usage_at", ofTime u.usage.last)]

def decoder : Decoder InternalUser :=
  record ["connection_rule_id", "node_id", "is_active", "proxy_uuid", "first_usage_at",
      "last_usage_at"] fun r => do
    let ruleId ← r.required "connection_rule_id" word
    let nodeId ← r.required "node_id" word
    let isActive ← r.required "is_active" flag
    let proxyUuid ← r.required "proxy_uuid" text
    let first ← r.optional "first_usage_at" nat
    let last ← r.optional "last_usage_at" nat
    pure { ruleId, nodeId, isActive, proxyUuid, usage := ⟨first, last⟩ }

end InternalUser

namespace Snapshot

def toJson (s : Snapshot) : Json := .obj [
  ("site", .ofOption Site.toJson s.site), ("nodes", .ofList Node.toJson s.nodes),
  ("programs", .ofList Program.toJson s.programs), ("rules", .ofList Rule.toJson s.rules),
  ("balancers", .ofList Balancer.toJson s.balancers),
  ("bindings", .ofList Binding.toJson s.bindings), ("tunnels", .ofList Tunnel.toJson s.tunnels),
  ("inbound_types", .ofList InboundType.toJson s.inboundTypes),
  ("static_inbounds", .ofList FixedInbound.toJson s.fixedInbounds),
  ("profiles", .ofList Profile.toJson s.profiles), ("plans", .ofList Plan.toJson s.plans),
  ("periods", .ofList Period.toJson s.periods),
  ("internal_users", .ofList InternalUser.toJson s.internalUsers)]

def decoder : Decoder Snapshot :=
  record ["site", "nodes", "programs", "rules", "balancers", "bindings", "tunnels",
      "inbound_types", "static_inbounds", "profiles", "plans", "periods",
      "internal_users"] fun r => do
    pure {
      site := ← r.withDefault "site" none (optional Site.decoder)
      nodes := ← r.withDefault "nodes" [] (list Node.decoder)
      programs := ← r.withDefault "programs" [] (list Program.decoder)
      rules := ← r.withDefault "rules" [] (list Rule.decoder)
      balancers := ← r.withDefault "balancers" [] (list Balancer.decoder)
      bindings := ← r.withDefault "bindings" [] (list Binding.decoder)
      tunnels := ← r.withDefault "tunnels" [] (list Tunnel.decoder)
      inboundTypes := ← r.withDefault "inbound_types" [] (list InboundType.decoder)
      fixedInbounds := ← r.withDefault "static_inbounds" [] (list FixedInbound.decoder)
      profiles := ← r.withDefault "profiles" [] (list Profile.decoder)
      plans := ← r.withDefault "plans" [] (list Plan.decoder)
      periods := ← r.withDefault "periods" [] (list Period.decoder)
      internalUsers := ← r.withDefault "internal_users" [] (list InternalUser.decoder) }

end Snapshot

end ProxyMesh
