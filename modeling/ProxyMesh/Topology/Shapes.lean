import ProxyMesh.Json.Check

/-!
# The shapes of the records

What a document of records has to look like, for the first fault of one that does not.
-/

namespace ProxyMesh.Shapes

open Json (Shape Presence)

abbrev Field := String × Presence × Shape

def required (name : String) (shape : Shape) : Field := (name, .required, shape)

/-- a field that may be left out of an object, and may be null -/
def optional (name : String) (shape : Shape) : Field := (name, .optional, .optional shape)

/-- a field with a usual value -/
def defaulted (name : String) (shape : Shape) : Field := (name, .defaulted, shape)

/-- a number of 64 bits -/
def word : Shape := .whole 64

/-- a port -/
def port : Shape := .whole 16

/-- times of traffic -/
def usageFields : List Field := [optional "first_usage_at" word, optional "last_usage_at" word]

def site : Shape := .record "struct SiteConfig" [
  defaulted "runtime_program" (.optional .text), defaulted "geosite_program" (.optional .text),
  defaulted "geoip_program" (.optional .text), defaulted "base_config_template" (.optional .text),
  defaulted "reverse_seed" .text, defaulted "user_domain" .text, defaulted "files" (.map .text)]

def node : Shape := .record "struct Node" [
  required "id" word, required "name" .text, required "architecture" .text,
  optional "address" .text, defaulted "runtime_enabled" .flag, defaulted "files" (.map .text)]

def binary : Shape := .record "struct ProgramBinary" [
  required "architecture" .text, required "source" .text, required "hash" .text]

def installed : Shape := .record "struct NodeInnerProgram" [
  required "node_id" word, required "path" .text]

def program : Shape := .record "struct ProgramVersion" [
  required "name" .text, defaulted "binaries" (.list binary), defaulted "on_node" (.list installed)]

def rule : Shape := .record "struct ConnectionRule" [
  required "id" word, required "name" .text, defaulted "origin_region" .text,
  defaulted "destination_region" .text, defaulted "rules_template" .text]

def scope : Shape := .record "adjacently tagged enum BindingScope" [
  required "kind" (.oneOf ["rule", "tunnel"]), required "id" word]

def balancer : Shape := .record "struct Balancer" [
  required "scope" scope, required "name" .text, optional "strategy_template" .text,
  defaulted "baselines_ms" (.list word), optional "max_rtt_ms" word]

def endpoint : Shape := .record "struct Combo" [
  required "address" .text, required "port" port, optional "sni" .text,
  optional "host_header" .text]

def connector : Shape := .record "struct Connector" [
  required "outbound_template" .text, optional "inbound_type" .text,
  optional "dest_node_id" word, optional "combo" endpoint]

def allocation : Shape := .record "struct Allocation" [
  required "balancer" .text, required "weight" (.whole 32)]

def portal : Shape := .record "struct ReverseLink" [required "portal_node_id" word]

def binding : Shape := .record "struct OutboundBinding" [
  required "id" word, required "name" .text, required "scope" scope, required "node_id" word,
  optional "reverse" portal, required "connector" connector,
  defaulted "allocations" (.list allocation)]

def tunnel : Shape := .record "struct Tunnel" [
  required "id" word, required "source_node_id" word, required "dest_node_id" word,
  required "listen_port" port, required "target_address" .text, required "target_port" port,
  required "balancer" .text, required "seed" .text]

def inboundType : Shape := .record "struct InboundType" [
  required "name" .text, required "is_active" .flag, defaulted "is_template" .flag,
  required "inbound_template" .text, defaulted "consumer_template" .text]

def fixedInbound : Shape := .record "struct StaticInbound" [
  required "id" word, optional "node_id" word, required "template" .text]

def profile : Shape := .record "struct Profile" [
  required "id" word, required "is_active" .flag, required "proxy_uuid" .text]

def plan : Shape := .record "struct Plan" [
  required "id" word, required "connection_rule_id" word, required "provider_key" .text,
  defaulted "provider_args" .anything]

def counter : Shape := .record "struct UsageCounter" [
  defaulted "flow_point_at" (.optional word), defaulted "flow_download_bytes" word,
  defaulted "flow_upload_bytes" word, defaulted "current_download_bytes" word,
  defaulted "current_upload_bytes" word, defaulted "last_flow_sync_at" (.optional word)]

def claim : Shape := .record "struct Claim" [
  required "op" (.oneOf ["sync", "forward_flow_point"]), required "until" word]

def period : Shape := .record "struct SubscriptionPeriod" ([
  required "id" word, required "profile_id" word, required "plan_id" word,
  defaulted "plan_args" .anything, required "selected_as_current" .flag] ++ usageFields ++ [
  defaulted "counter" counter, defaulted "claim" (.optional claim)])

def internalUser : Shape := .record "struct InternalUser" ([
  required "connection_rule_id" word, required "node_id" word, required "is_active" .flag,
  required "proxy_uuid" .text] ++ usageFields)

def snapshot : Shape := .record "struct TopologySnapshot" [
  defaulted "site" (.optional site), defaulted "nodes" (.list node),
  defaulted "programs" (.list program), defaulted "rules" (.list rule),
  defaulted "balancers" (.list balancer), defaulted "bindings" (.list binding),
  defaulted "tunnels" (.list tunnel), defaulted "inbound_types" (.list inboundType),
  defaulted "static_inbounds" (.list fixedInbound), defaulted "profiles" (.list profile),
  defaulted "plans" (.list plan), defaulted "periods" (.list period),
  defaulted "internal_users" (.list internalUser)]

end ProxyMesh.Shapes
