import ClusterOperator.Resource.Service

namespace ClusterOperator.Resource

open Api Kubernetes

variable (cluster : RabbitmqCluster)

def reconcileMetadata (m : ObjectMeta) : ObjectMeta :=
  { m with
    labels := getLabels cluster.name cluster.labels
    annotations := reconcileAndFilterAnnotations m.annotations cluster.annotations }

namespace HeadlessServiceBuilder

def build : Service := {}

def update (service : Service) : Except Err Service := do
  let metadata ← setControllerReference cluster (reconcileMetadata cluster service.metadata)
  return {
    metadata
    spec :=
      { type := "ClusterIP"
        clusterIP := "None"
        sessionAffinity := "None"
        selector := labelSelector cluster.name
        ports := [servicePort "epmd" 4369 "", servicePort "cluster-rpc" 25672 ""]
        publishNotReadyAddresses := true
        ipFamilyPolicy := cluster.spec.service.ipFamilyPolicy } }

end HeadlessServiceBuilder

namespace ServiceBuilder

/-- Go's map of ports, in an order that the runtime chooses. -/
abbrev Enumeration := List ServicePort → List ServicePort

def build : Service := {}

/-- The stored ports that are still generated, in the order in which they are stored and with
their node ports, and the generated ports that are left. -/
def updateStoredPorts : List ServicePort → List ServicePort → List ServicePort × List ServicePort
  | [], servicePortsMap => ([], servicePortsMap)
  | servicePort :: servicePorts, servicePortsMap =>
    match servicePortsMap.find? (fun p => p.name = servicePort.name) with
    | none => updateStoredPorts servicePorts servicePortsMap
    | some value =>
      let (updated, rest) :=
        updateStoredPorts servicePorts (servicePortsMap.filter (fun p => p.name ≠ servicePort.name))
      ({ value with nodePort := servicePort.nodePort } :: updated, rest)

def updatePorts (enumerate : Enumeration) (servicePorts : List ServicePort) : List ServicePort :=
  let (updated, rest) := updateStoredPorts servicePorts (generateServicePortsMap cluster)
  updated ++ enumerate rest

def setAnnotations (annotations : StringMap) : StringMap :=
  reconcileAnnotations (reconcileAndFilterAnnotations annotations cluster.annotations)
    cluster.spec.service.annotations

def addAbsent (m o : StringMap) : StringMap :=
  o.entries.foldl (fun m e => if (m.get? e.1).isSome then m else m.set e.1 e.2) m

def clearNodePorts (ports : List ServicePort) : List ServicePort :=
  if cluster.spec.service.type = "ClusterIP" ∨ cluster.spec.service.type = "" then
    ports.map (fun p => { p with nodePort := 0 })
  else ports

def defaults (enumerate : Enumeration) (service : Service) : Service where
  metadata :=
    { service.metadata with
      annotations := setAnnotations cluster service.metadata.annotations
      labels := addAbsent (getLabels cluster.name cluster.labels) cluster.spec.service.labels }
  spec :=
    { service.spec with
      type := cluster.spec.service.type
      selector := labelSelector cluster.name
      ipFamilyPolicy := cluster.spec.service.ipFamilyPolicy
      ports := clearNodePorts cluster (updatePorts cluster enumerate service.spec.ports) }

end ServiceBuilder

abbrev ServiceMergePatch := ServiceSpec → ServiceSpec → Except Err ServiceSpec

def applySvcOverride (merge : ServiceMergePatch) (svc : Service) (override : ServiceOverride) :
    Except Err Service :=
  let svc :=
    match override.metadata with
    | none => svc
    | some m => { svc with metadata := copyLabelsAnnotations svc.metadata m }
  match override.spec with
  | none => .ok svc
  | some spec => do
    let spec ← (merge svc.spec spec).mapError (.wrap "error patching Service Spec")
    return { svc with spec }

def ServiceBuilder.update (merge : ServiceMergePatch) (enumerate : Enumeration) (service : Service) :
    Except Err Service := do
  let service ← (match cluster.spec.serviceOverride with
    | none => .ok (defaults cluster enumerate service)
    | some override =>
      (applySvcOverride merge (defaults cluster enumerate service) override).mapError
        (.wrap "failed applying Service override"))
  let metadata ← setControllerReference cluster service.metadata
  return { service with metadata }

end ClusterOperator.Resource
