import ClusterRegistry.Spec.Form

/-!
# Nodes, networks, storage and datacenters

These kinds belong to the whole site and to no account. A datacenter is put together from
nodes, networks and a storage connector, and a storage pool from a storage connector.
-/

namespace ClusterRegistry

/-- A machine. -/
structure Node where
  nodeIp : String := ""
  spec : Table String Json := .empty

/-- A network that hands out addresses. -/
structure Network where
  networkType : String := ""
  subnetIp : String := ""
  netmask : String := ""
  gateway : String := ""
  usedBits : List UInt16 := []
  bridgeHosts : Table String String := .empty

/-- A datacenter. -/
structure Datacenter where
  nodes : List String := []
  networks : List String := []
  enabled : Bool := false
  storage : String := ""
  advancedSettings : Table String String := .empty
  flag : String := ""
  currency : String := ""

/-- A disk. -/
structure Disk where
  disk : String := ""
  diskType : String := ""
  point : String := ""
  size : String := ""
  usedSize : String := ""

/-- The disks of some storage. -/
structure StorageInfo where
  disks : List Disk := []

/-- A way to reach some storage. -/
structure StorageConnector where
  hostIp : String := ""
  storageType : String := ""
  parameters : Table String String := .empty
  storageInfo : StorageInfo := {}
  nodeInfo : Table String Json := .empty

/-- A pool of storage behind a connector. -/
structure StoragePool where
  connectorId : String := ""
  parameters : Table String String := .empty
  storageInfo : StorageInfo := {}

/-- The fields of nodes. -/
def Node.form : Form Node where
  blank := {}
  fields :=
    .field "node_ip" (·.nodeIp) (fun v n => { n with nodeIp := v }) .text <|
    .field "spec" (·.spec) (fun v n => { n with spec := v }) .members
    .none
  requirements := [filled "node_ip" (·.nodeIp)]

/-- The fields of networks. -/
def Network.form : Form Network where
  blank := {}
  fields :=
    .field "network_type" (·.networkType) (fun v n => { n with networkType := v }) .text <|
    .field "subnet_ip" (·.subnetIp) (fun v n => { n with subnetIp := v }) .text <|
    .field "netmask" (·.netmask) (fun v n => { n with netmask := v }) .text <|
    .field "gateway" (·.gateway) (fun v n => { n with gateway := v }) .text <|
    .field "used_bits" (·.usedBits) (fun v n => { n with usedBits := v }) (.list .word16) <|
    .field "bridge_hosts" (·.bridgeHosts) (fun v n => { n with bridgeHosts := v }) .texts
    .none
  requirements :=
    [filled "network_type" (·.networkType), filled "subnet_ip" (·.subnetIp),
      filled "netmask" (·.netmask), filled "gateway" (·.gateway)]

/-- The fields of datacenters. -/
def Datacenter.form : Form Datacenter where
  blank := {}
  fields :=
    .field "nodes" (·.nodes) (fun v d => { d with nodes := v }) (.list .text) <|
    .field "networks" (·.networks) (fun v d => { d with networks := v }) (.list .text) <|
    .field "enabled" (·.enabled) (fun v d => { d with enabled := v }) .flag <|
    .field "storage" (·.storage) (fun v d => { d with storage := v }) .text <|
    .field "advanced_settings" (·.advancedSettings) (fun v d => { d with advancedSettings := v })
      .texts <|
    .field "flag" (·.flag) (fun v d => { d with flag := v }) .text <|
    .field "currency" (·.currency) (fun v d => { d with currency := v }) .text
    .none
  requirements :=
    [eachFilled "nodes" (·.nodes) id, eachFilled "networks" (·.networks) id,
      filled "storage" (·.storage)]
  references d :=
    d.nodes.map (.must "nodes" .node) ++ d.networks.map (.must "networks" .network) ++
      [.must "storage" .storageConnector d.storage]

/-- Disks in JSON. -/
def Disk.shape : Shape Disk :=
  .record "Disk" {} <|
    .field "disk" (·.disk) (fun v d => { d with disk := v }) .text <|
    .field "disk_type" (·.diskType) (fun v d => { d with diskType := v }) .text <|
    .field "point" (·.point) (fun v d => { d with point := v }) .text <|
    .field "size" (·.size) (fun v d => { d with size := v }) .text <|
    .field "used_size" (·.usedSize) (fun v d => { d with usedSize := v }) .text
    .none

/-- Disks of some storage in JSON. -/
def StorageInfo.shape : Shape StorageInfo :=
  .record "StorageInfo" {} <|
    .field "disks" (·.disks) (fun v s => { s with disks := v }) (.list Disk.shape) .none

/-- The fields of storage connectors. -/
def StorageConnector.form : Form StorageConnector where
  blank := {}
  fields :=
    .field "host_ip" (·.hostIp) (fun v s => { s with hostIp := v }) .text <|
    .field "storage_type" (·.storageType) (fun v s => { s with storageType := v }) .text <|
    .field "parameters" (·.parameters) (fun v s => { s with parameters := v }) .texts <|
    .field "storage_info" (·.storageInfo) (fun v s => { s with storageInfo := v })
      StorageInfo.shape <|
    .field "node_info" (·.nodeInfo) (fun v s => { s with nodeInfo := v }) .members
    .none
  requirements := [filled "host_ip" (·.hostIp), filled "storage_type" (·.storageType)]

/-- The fields of storage pools. -/
def StoragePool.form : Form StoragePool where
  blank := {}
  fields :=
    .field "connector_id" (·.connectorId) (fun v s => { s with connectorId := v }) .text <|
    .field "parameters" (·.parameters) (fun v s => { s with parameters := v }) .texts <|
    .field "storage_info" (·.storageInfo) (fun v s => { s with storageInfo := v })
      StorageInfo.shape
    .none
  requirements := [filled "connector_id" (·.connectorId)]
  references s := [.must "connector_id" .storageConnector s.connectorId]

end ClusterRegistry
