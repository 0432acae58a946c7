import ClusterOperator.Resource.PodTemplate
import ClusterOperator.Resource.StrategicMerge

namespace ClusterOperator.Resource

open Api Kubernetes Keyed

def sanitizeSecurityContext (sc : SecurityContext) : SecurityContext :=
  { sc with
    privileged := if sc.privileged = some true then some false else sc.privileged
    allowPrivilegeEscalation :=
      if sc.allowPrivilegeEscalation = some true then some false else sc.allowPrivilegeEscalation
    runAsUser := if sc.runAsUser = some 0 then none else sc.runAsUser
    runAsNonRoot := if sc.runAsNonRoot = some false then some true else sc.runAsNonRoot
    capabilities := sc.capabilities.map (fun c => { c with add := none })
    readOnlyRootFilesystem := sc.readOnlyRootFilesystem.map (fun _ => true) }

def sanitizeContainer (c : Container) : Container :=
  { c with securityContext := c.securityContext.map sanitizeSecurityContext }

def isHostPath (v : Volume) : Bool :=
  match v.source with
  | .hostPath _ => true
  | _ => false

def sanitizePodSpecOverride (podSpecOverride : PodSpec) : PodSpec :=
  { podSpecOverride with
    hostPID := false
    hostNetwork := false
    hostIPC := false
    serviceAccountName := ""
    volumes := podSpecOverride.volumes.filter (fun v => !isHostPath v)
    containers := podSpecOverride.containers.map sanitizeContainer
    initContainers := podSpecOverride.initContainers.map sanitizeContainer }

/-- A Go slice is read or written past its end. -/
def indexOutOfRange : Err := .text "runtime error: index out of range"

def swap {α : Type} (l : List α) (i j : ℕ) : Except Err (List α) :=
  match l[i]?, l[j]? with
  | some x, some y => .ok ((l.set i y).set j x)
  | _, _ => .error indexOutOfRange

/-- A loop over the indexes of a slice that moves the elements with certain names to fixed
places, reading the slice as it is at that moment. -/
def moveToFront {α : Type} (place : α → Option ℕ) : List ℕ → List α → Except Err (List α)
  | [], l => .ok l
  | i :: is, l =>
    match l[i]?.bind place with
    | none => moveToFront place is l
    | some j => (swap l j i).bind (moveToFront place is)

def sortEnvVar (envVar : List EnvVar) : Except Err (List EnvVar) :=
  moveToFront (fun e =>
    if e.name = "MY_POD_NAME" then some 0
    else if e.name = "MY_POD_NAMESPACE" then some 1
    else if e.name = "K8S_SERVICE_NAME" then some 2
    else none) (List.range envVar.length) envVar

def sortVolumeMounts (mounts : List VolumeMount) : Except Err (List VolumeMount) :=
  moveToFront (fun m =>
    if m.name = "rabbitmq-erlang-cookie" then some 0
    else if m.name = "persistence" then some 1
    else none) (List.range mounts.length) mounts

def containerRabbitmq (containers : List Container) : Container :=
  (containers.find? (fun c => c.name = "rabbitmq")).getD {}

def sortIfSet {α : Type} (sort : List α → Except Err (List α)) (override l : Option (List α)) :
    Except Err (Option (List α)) :=
  match override, l with
  | some _, some l => some <$> sort l
  | _, l => .ok l

def adjust (rmqContainer c : Container) : Except Err Container := do
  let env ← sortIfSet sortEnvVar rmqContainer.env c.env
  let mounts ← sortIfSet sortVolumeMounts rmqContainer.volumeMounts c.volumeMounts
  return { c with
    env := env
    volumeMounts := mounts
    livenessProbe := rmqContainer.livenessProbe.or c.livenessProbe
    readinessProbe := rmqContainer.readinessProbe.or c.readinessProbe
    startupProbe := rmqContainer.startupProbe.or c.startupProbe }

def overrideFirst (rmqContainer : Container) : List Container → Except Err (List Container)
  | [] =>
    if rmqContainer.env = none ∧ rmqContainer.volumeMounts = none ∧ rmqContainer.livenessProbe = none ∧
      rmqContainer.readinessProbe = none ∧ rmqContainer.startupProbe = none then .ok []
    else .error indexOutOfRange
  | first :: rest => do return (← adjust rmqContainer first) :: rest

def resetSecurityContexts : ℕ → List Container → List Container → Except Err (List Container)
  | _, [], patched => .ok patched
  | i, o :: os, patched =>
    -- The index of the entry in the override is used for the patched list.
    if o.securityContext = some {} then
      if i < patched.length then
        resetSecurityContexts (i + 1) os (patched.modify i (fun c => { c with securityContext := none }))
      else .error indexOutOfRange
    else resetSecurityContexts (i + 1) os patched

def patchPodSpec (merge : StrategicMergePatch) (podSpec podSpecOverride : PodSpec) : Except Err PodSpec := do
  let patched := merge.podSpec podSpec podSpecOverride
  let containers ← overrideFirst (containerRabbitmq podSpecOverride.containers) patched.containers
  let initContainers ← resetSecurityContexts 0 podSpecOverride.initContainers patched.initContainers
  let containers ← resetSecurityContexts 0 podSpecOverride.containers containers
  return { patched with
    containers := containers
    initContainers := initContainers
    securityContext := if podSpecOverride.securityContext = some {} then none else patched.securityContext }

end ClusterOperator.Resource
