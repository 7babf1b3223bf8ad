import ClusterRegistry.Spec.Form

/-!
# Services, endpoints and ingresses

A service names a factory, an endpoint lists the addresses of an assembly, and an ingress
routes hosts to a service.
-/

namespace ClusterRegistry

/-- What a service offers. -/
structure ServiceSpec where
  serviceType : String := ""
  loadbalancerIp : String := ""
  names : Table String String := .empty
  externalNames : Table String String := .empty

/-- A service. -/
structure Service where
  spec : ServiceSpec := {}
  metadata : Table String String := .empty

/-- An address of an endpoint. -/
structure EndpointAddress where
  name : String := ""
  protocolVersion : String := ""
  ip : String := ""
  macAddress : String := ""

/-- A port of an endpoint. -/
structure EndpointPort where
  name : String := ""
  port : String := ""
  protocol : String := ""

/-- The addresses of an endpoint, and the ports open on them. -/
structure Subsets where
  addresses : List EndpointAddress := []
  unreadyAddresses : List EndpointAddress := []
  ports : List EndpointPort := []

/-- An endpoint. -/
structure Endpoint where
  subsets : Subsets := {}

/-- Where the requests for one host go. -/
structure IngressRule where
  host : String := ""
  ingressRuleValue : Table String Json := .empty

/-- The rules of an ingress. -/
structure IngressSpec where
  rules : List IngressRule := []
  tls : List Json := []

/-- An ingress. -/
structure Ingress where
  spec : IngressSpec := {}

/-- What a service offers, in JSON. -/
def ServiceSpec.shape : Shape ServiceSpec :=
  .record "ServiceSpec" {} <|
    .field "service_type" (·.serviceType) (fun v s => { s with serviceType := v }) .text <|
    .field "loadbalancer_ip" (·.loadbalancerIp) (fun v s => { s with loadbalancerIp := v })
      .text <|
    .field "names" (·.names) (fun v s => { s with names := v }) .texts <|
    .field "external_names" (·.externalNames) (fun v s => { s with externalNames := v }) .texts
    .none

/-- The fields of services. -/
def Service.form : Form Service where
  blank := {}
  fields :=
    .field "spec" (·.spec) (fun v s => { s with spec := v }) ServiceSpec.shape <|
    .field "metadata" (·.metadata) (fun v s => { s with metadata := v }) .texts
    .none
  requirements := [filled "spec.service_type" (·.spec.serviceType)]

/-- Addresses in JSON. -/
def EndpointAddress.shape : Shape EndpointAddress :=
  .record "EndpointAddress" {} <|
    .field "name" (·.name) (fun v a => { a with name := v }) .text <|
    .field "protocol_version" (·.protocolVersion) (fun v a => { a with protocolVersion := v })
      .text <|
    .field "ip" (·.ip) (fun v a => { a with ip := v }) .text <|
    .field "mac_address" (·.macAddress) (fun v a => { a with macAddress := v }) .text
    .none

/-- Ports in JSON. -/
def EndpointPort.shape : Shape EndpointPort :=
  .record "EndpointPort" {} <|
    .field "name" (·.name) (fun v p => { p with name := v }) .text <|
    .field "port" (·.port) (fun v p => { p with port := v }) .text <|
    .field "protocol" (·.protocol) (fun v p => { p with protocol := v }) .text
    .none

/-- Subsets in JSON. -/
def Subsets.shape : Shape Subsets :=
  .record "Subsets" {} <|
    .field "addresses" (·.addresses) (fun v s => { s with addresses := v })
      (.list EndpointAddress.shape) <|
    .field "unready_addresses" (·.unreadyAddresses) (fun v s => { s with unreadyAddresses := v })
      (.list EndpointAddress.shape) <|
    .field "ports" (·.ports) (fun v s => { s with ports := v }) (.list EndpointPort.shape)
    .none

/-- Whether an endpoint has neither addresses nor ports. -/
def Subsets.isEmpty (s : Subsets) : Bool :=
  s.addresses.isEmpty && s.unreadyAddresses.isEmpty && s.ports.isEmpty

/-- The fields of endpoints. -/
def Endpoint.form : Form Endpoint where
  blank := {}
  fields := .field "subsets" (·.subsets) (fun v e => { e with subsets := v }) Subsets.shape .none
  requirements := [⟨"subsets", fun e => !e.subsets.isEmpty⟩]

/-- Rules in JSON. -/
def IngressRule.shape : Shape IngressRule :=
  .record "IngressRule" {} <|
    .field "host" (·.host) (fun v r => { r with host := v }) .text <|
    .field "ingress_rule_value" (·.ingressRuleValue)
      (fun v r => { r with ingressRuleValue := v }) .members
    .none

/-- The rules of an ingress in JSON. -/
def IngressSpec.shape : Shape IngressSpec :=
  .record "IngressSpec" {} <|
    .field "rules" (·.rules) (fun v s => { s with rules := v }) (.list IngressRule.shape) <|
    .field "tls" (·.tls) (fun v s => { s with tls := v }) (.list .json)
    .none

/-- The fields of ingresses. -/
def Ingress.form : Form Ingress where
  blank := {}
  fields := .field "spec" (·.spec) (fun v i => { i with spec := v }) IngressSpec.shape .none
  requirements := [eachFilled "spec.rules.host" (·.spec.rules) (·.host)]

end ClusterRegistry
