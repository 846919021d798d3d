import Provision.Kubernetes.Shape

/-!
# Nodes, pods and resource quotas of the core API, version 1
-/

namespace Provision.Kubernetes.Schema

open Shape (texts)

/-! ## Parts of several objects -/

def textList : Shape := .list .text

def textMap : Shape := .map .text

/-- A quantity is written as text. -/
def quantities : Shape := .map .text

def secretReference : Shape := texts ["name"]

def ownerReference : Shape := .record [
  ("apiVersion", .text), ("blockOwnerDeletion", .flag), ("controller", .flag), ("kind", .text),
  ("name", .text), ("uid", .text)]

def managedFields : Shape := .record [
  ("apiVersion", .text), ("fieldsType", .text), ("fieldsV1", .anything),
  ("manager", .text), ("operation", .text), ("subresource", .text), ("time", .moment)]

def objectMeta : Shape := .record [
  ("annotations", textMap), ("creationTimestamp", .moment),
  ("deletionGracePeriodSeconds", .whole 64), ("deletionTimestamp", .moment),
  ("finalizers", textList), ("generateName", .text), ("generation", .whole 64),
  ("labels", textMap), ("managedFields", .list managedFields), ("name", .text),
  ("namespace", .text), ("ownerReferences", .list ownerReference), ("resourceVersion", .text),
  ("selfLink", .text), ("uid", .text)]

/-- An object of a kind, with its own parts. -/
def object (kind : String) (spec status : Shape) : Shape := .record [
  ("apiVersion", .constant "v1"), ("kind", .constant kind), ("metadata", objectMeta),
  ("spec", spec), ("status", status)]

/-- A key, an operator and values. -/
def requirement : Shape := .record [("key", .text), ("operator", .text), ("values", textList)]

def labelSelector : Shape := .record [
  ("matchExpressions", .list requirement), ("matchLabels", textMap)]

def resources : Shape := .record [
  ("claims", .list (texts ["name"])), ("limits", quantities), ("requests", quantities)]

/-! ## Nodes -/

def configSource : Shape := .record [
  ("configMap", texts ["kubeletConfigKey", "name", "namespace", "resourceVersion", "uid"])]

def taint : Shape := .record [
  ("effect", .text), ("key", .text), ("timeAdded", .moment), ("value", .text)]

def nodeSpec : Shape := .record [
  ("configSource", configSource), ("externalID", .text), ("podCIDR", .text),
  ("podCIDRs", textList), ("providerID", .text), ("taints", .list taint),
  ("unschedulable", .flag)]

def nodeCondition : Shape := .record [
  ("lastHeartbeatTime", .moment), ("lastTransitionTime", .moment), ("message", .text),
  ("reason", .text), ("status", .text), ("type", .text)]

def nodeStatus : Shape := .record [
  ("addresses", .list (texts ["address", "type"])), ("allocatable", quantities),
  ("capacity", quantities), ("conditions", .list nodeCondition),
  ("config", .record [
    ("active", configSource), ("assigned", configSource), ("error", .text),
    ("lastKnownGood", configSource)]),
  ("daemonEndpoints", .record [("kubeletEndpoint", .record [("Port", .whole 32)])]),
  ("images", .list (.record [("names", textList), ("sizeBytes", .whole 64)])),
  ("nodeInfo", texts [
    "architecture", "bootID", "containerRuntimeVersion", "kernelVersion", "kubeProxyVersion",
    "kubeletVersion", "machineID", "operatingSystem", "osImage", "systemUUID"]),
  ("phase", .text), ("volumesAttached", .list (texts ["devicePath", "name"])),
  ("volumesInUse", textList)]

def node : Shape := object "Node" nodeSpec nodeStatus

/-! ## Resource quotas -/

def quotaSpec : Shape := .record [
  ("hard", quantities),
  ("scopeSelector", .record [("matchExpressions", .list (.record [
    ("operator", .text), ("scopeName", .text), ("values", textList)]))]),
  ("scopes", textList)]

def quotaStatus : Shape := .record [("hard", quantities), ("used", quantities)]

def resourceQuota : Shape := object "ResourceQuota" quotaSpec quotaStatus

/-! ## Containers -/

def keySelector : Shape := .record [("key", .text), ("name", .text), ("optional", .flag)]

def fieldSelector : Shape := texts ["apiVersion", "fieldPath"]

def resourceFieldSelector : Shape := texts ["containerName", "divisor", "resource"]

def environmentVariable : Shape := .record [
  ("name", .text), ("value", .text),
  ("valueFrom", .record [
    ("configMapKeyRef", keySelector), ("fieldRef", fieldSelector),
    ("resourceFieldRef", resourceFieldSelector), ("secretKeyRef", keySelector)])]

def environmentSource : Shape :=
  let reference := Shape.record [("name", .text), ("optional", .flag)]
  .record [("configMapRef", reference), ("prefix", .text), ("secretRef", reference)]

def execAction : Shape := .record [("command", textList)]

def httpGetAction : Shape := .record [
  ("host", .text), ("httpHeaders", .list (texts ["name", "value"])), ("path", .text),
  ("port", .wholeOrText), ("scheme", .text)]

def tcpSocketAction : Shape := .record [("host", .text), ("port", .wholeOrText)]

def lifecycle : Shape :=
  let handler := Shape.record [
    ("exec", execAction), ("httpGet", httpGetAction), ("tcpSocket", tcpSocketAction)]
  .record [("postStart", handler), ("preStop", handler)]

def probe : Shape := .record [
  ("exec", execAction), ("failureThreshold", .whole 32),
  ("grpc", .record [("port", .whole 32), ("service", .text)]), ("httpGet", httpGetAction),
  ("initialDelaySeconds", .whole 32), ("periodSeconds", .whole 32),
  ("successThreshold", .whole 32), ("tcpSocket", tcpSocketAction),
  ("terminationGracePeriodSeconds", .whole 64), ("timeoutSeconds", .whole 32)]

def seLinuxOptions : Shape := texts ["level", "role", "type", "user"]

def seccompProfile : Shape := texts ["localhostProfile", "type"]

def windowsOptions : Shape := .record [
  ("gmsaCredentialSpec", .text), ("gmsaCredentialSpecName", .text), ("hostProcess", .flag),
  ("runAsUserName", .text)]

def securityContext : Shape := .record [
  ("allowPrivilegeEscalation", .flag),
  ("capabilities", .record [("add", textList), ("drop", textList)]), ("privileged", .flag),
  ("procMount", .text), ("readOnlyRootFilesystem", .flag), ("runAsGroup", .whole 64),
  ("runAsNonRoot", .flag), ("runAsUser", .whole 64), ("seLinuxOptions", seLinuxOptions),
  ("seccompProfile", seccompProfile), ("windowsOptions", windowsOptions)]

def containerPort : Shape := .record [
  ("containerPort", .whole 32), ("hostIP", .text), ("hostPort", .whole 32), ("name", .text),
  ("protocol", .text)]

def volumeMount : Shape := .record [
  ("mountPath", .text), ("mountPropagation", .text), ("name", .text), ("readOnly", .flag),
  ("subPath", .text), ("subPathExpr", .text)]

def containerFields : List (String × Shape) := [
  ("args", textList), ("command", textList), ("env", .list environmentVariable),
  ("envFrom", .list environmentSource), ("image", .text), ("imagePullPolicy", .text),
  ("lifecycle", lifecycle), ("livenessProbe", probe), ("name", .text),
  ("ports", .list containerPort), ("readinessProbe", probe),
  ("resizePolicy", .list (texts ["resourceName", "restartPolicy"])), ("resources", resources),
  ("restartPolicy", .text), ("securityContext", securityContext), ("startupProbe", probe),
  ("stdin", .flag), ("stdinOnce", .flag), ("terminationMessagePath", .text),
  ("terminationMessagePolicy", .text), ("tty", .flag),
  ("volumeDevices", .list (texts ["devicePath", "name"])), ("volumeMounts", .list volumeMount),
  ("workingDir", .text)]

def container : Shape := .record containerFields

def ephemeralContainer : Shape := .record (("targetContainerName", .text) :: containerFields)

/-! ## Volumes -/

def keysToPaths : Shape := .list (.record [("key", .text), ("mode", .whole 32), ("path", .text)])

def downwardFiles : Shape := .list (.record [
  ("fieldRef", fieldSelector), ("mode", .whole 32), ("path", .text),
  ("resourceFieldRef", resourceFieldSelector)])

def claimSpec : Shape := .record [
  ("accessModes", textList), ("dataSource", texts ["apiGroup", "kind", "name"]),
  ("dataSourceRef", texts ["apiGroup", "kind", "name", "namespace"]), ("resources", resources),
  ("selector", labelSelector), ("storageClassName", .text), ("volumeMode", .text),
  ("volumeName", .text)]

def projection : Shape := .record [
  ("configMap", .record [("items", keysToPaths), ("name", .text), ("optional", .flag)]),
  ("downwardAPI", .record [("items", downwardFiles)]),
  ("secret", .record [("items", keysToPaths), ("name", .text), ("optional", .flag)]),
  ("serviceAccountToken", .record [
    ("audience", .text), ("expirationSeconds", .whole 64), ("path", .text)])]

/-- Volumes that are kept by the cluster itself. -/
def localVolumes : List (String × Shape) := [
  ("configMap", .record [
    ("defaultMode", .whole 32), ("items", keysToPaths), ("name", .text), ("optional", .flag)]),
  ("downwardAPI", .record [("defaultMode", .whole 32), ("items", downwardFiles)]),
  ("emptyDir", texts ["medium", "sizeLimit"]),
  ("ephemeral", .record [
    ("volumeClaimTemplate", .record [("metadata", objectMeta), ("spec", claimSpec)])]),
  ("hostPath", texts ["path", "type"]),
  ("persistentVolumeClaim", .record [("claimName", .text), ("readOnly", .flag)]),
  ("projected", .record [("defaultMode", .whole 32), ("sources", .list projection)]),
  ("secret", .record [
    ("defaultMode", .whole 32), ("items", keysToPaths), ("optional", .flag),
    ("secretName", .text)])]

/-- Volumes of storage systems. -/
def systemVolumes : List (String × Shape) := [
  ("awsElasticBlockStore", .record [
    ("fsType", .text), ("partition", .whole 32), ("readOnly", .flag), ("volumeID", .text)]),
  ("azureDisk", .record [
    ("cachingMode", .text), ("diskName", .text), ("diskURI", .text), ("fsType", .text),
    ("kind", .text), ("readOnly", .flag)]),
  ("azureFile", .record [("readOnly", .flag), ("secretName", .text), ("shareName", .text)]),
  ("cephfs", .record [
    ("monitors", textList), ("path", .text), ("readOnly", .flag), ("secretFile", .text),
    ("secretRef", secretReference), ("user", .text)]),
  ("cinder", .record [
    ("fsType", .text), ("readOnly", .flag), ("secretRef", secretReference),
    ("volumeID", .text)]),
  ("csi", .record [
    ("driver", .text), ("fsType", .text), ("nodePublishSecretRef", secretReference),
    ("readOnly", .flag), ("volumeAttributes", textMap)]),
  ("fc", .record [
    ("fsType", .text), ("lun", .whole 32), ("readOnly", .flag), ("targetWWNs", textList),
    ("wwids", textList)]),
  ("flexVolume", .record [
    ("driver", .text), ("fsType", .text), ("options", textMap), ("readOnly", .flag),
    ("secretRef", secretReference)]),
  ("flocker", texts ["datasetName", "datasetUUID"]),
  ("gcePersistentDisk", .record [
    ("fsType", .text), ("partition", .whole 32), ("pdName", .text), ("readOnly", .flag)]),
  ("gitRepo", texts ["directory", "repository", "revision"]),
  ("glusterfs", .record [("endpoints", .text), ("path", .text), ("readOnly", .flag)]),
  ("iscsi", .record [
    ("chapAuthDiscovery", .flag), ("chapAuthSession", .flag), ("fsType", .text),
    ("initiatorName", .text), ("iqn", .text), ("iscsiInterface", .text), ("lun", .whole 32),
    ("portals", textList), ("readOnly", .flag), ("secretRef", secretReference),
    ("targetPortal", .text)]),
  ("nfs", .record [("path", .text), ("readOnly", .flag), ("server", .text)]),
  ("photonPersistentDisk", texts ["fsType", "pdID"]),
  ("portworxVolume", .record [("fsType", .text), ("readOnly", .flag), ("volumeID", .text)]),
  ("quobyte", .record [
    ("group", .text), ("readOnly", .flag), ("registry", .text), ("tenant", .text),
    ("user", .text), ("volume", .text)]),
  ("rbd", .record [
    ("fsType", .text), ("image", .text), ("keyring", .text), ("monitors", textList),
    ("pool", .text), ("readOnly", .flag), ("secretRef", secretReference), ("user", .text)]),
  ("scaleIO", .record [
    ("fsType", .text), ("gateway", .text), ("protectionDomain", .text), ("readOnly", .flag),
    ("secretRef", secretReference), ("sslEnabled", .flag), ("storageMode", .text),
    ("storagePool", .text), ("system", .text), ("volumeName", .text)]),
  ("storageos", .record [
    ("fsType", .text), ("readOnly", .flag), ("secretRef", secretReference),
    ("volumeName", .text), ("volumeNamespace", .text)]),
  ("vsphereVolume", texts ["fsType", "storagePolicyID", "storagePolicyName", "volumePath"])]

def volume : Shape := .record (("name", .text) :: localVolumes ++ systemVolumes)

/-! ## Scheduling of pods -/

/-- Name of what a scheduler tries, and of what it has to keep. -/
def preferred : String := "preferredDuringSchedulingIgnoredDuringExecution"

def mandatory : String := "requiredDuringSchedulingIgnoredDuringExecution"

def nodeSelectorTerm : Shape := .record [
  ("matchExpressions", .list requirement), ("matchFields", .list requirement)]

def nodeAffinity : Shape := .record [
  (preferred, .list (.record [("preference", nodeSelectorTerm), ("weight", .whole 32)])),
  (mandatory, .record [("nodeSelectorTerms", .list nodeSelectorTerm)])]

def podAffinityTerm : Shape := .record [
  ("labelSelector", labelSelector), ("namespaceSelector", labelSelector),
  ("namespaces", textList), ("topologyKey", .text)]

def podAffinity : Shape := .record [
  (preferred, .list (.record [("podAffinityTerm", podAffinityTerm), ("weight", .whole 32)])),
  (mandatory, .list podAffinityTerm)]

def affinity : Shape := .record [
  ("nodeAffinity", nodeAffinity), ("podAffinity", podAffinity), ("podAntiAffinity", podAffinity)]

def toleration : Shape := .record [
  ("effect", .text), ("key", .text), ("operator", .text), ("tolerationSeconds", .whole 64),
  ("value", .text)]

def topologySpread : Shape := .record [
  ("labelSelector", labelSelector), ("matchLabelKeys", textList), ("maxSkew", .whole 32),
  ("minDomains", .whole 32), ("nodeAffinityPolicy", .text), ("nodeTaintsPolicy", .text),
  ("topologyKey", .text), ("whenUnsatisfiable", .text)]

/-! ## Pods -/

def podSecurityContext : Shape := .record [
  ("fsGroup", .whole 64), ("fsGroupChangePolicy", .text), ("runAsGroup", .whole 64),
  ("runAsNonRoot", .flag), ("runAsUser", .whole 64), ("seLinuxOptions", seLinuxOptions),
  ("seccompProfile", seccompProfile), ("supplementalGroups", .list (.whole 64)),
  ("sysctls", .list (texts ["name", "value"])), ("windowsOptions", windowsOptions)]

def dnsConfig : Shape := .record [
  ("nameservers", textList), ("options", .list (texts ["name", "value"])),
  ("searches", textList)]

def podSpec : Shape := .record [
  ("activeDeadlineSeconds", .whole 64), ("affinity", affinity),
  ("automountServiceAccountToken", .flag), ("containers", .list container),
  ("dnsConfig", dnsConfig), ("dnsPolicy", .text), ("enableServiceLinks", .flag),
  ("ephemeralContainers", .list ephemeralContainer),
  ("hostAliases", .list (.record [("hostnames", textList), ("ip", .text)])), ("hostIPC", .flag),
  ("hostNetwork", .flag), ("hostPID", .flag), ("hostUsers", .flag), ("hostname", .text),
  ("imagePullSecrets", .list secretReference), ("initContainers", .list container),
  ("nodeName", .text), ("nodeSelector", textMap), ("os", texts ["name"]),
  ("overhead", quantities), ("preemptionPolicy", .text), ("priority", .whole 32),
  ("priorityClassName", .text), ("readinessGates", .list (texts ["conditionType"])),
  ("resourceClaims", .list (.record [
    ("name", .text), ("source", texts ["resourceClaimName", "resourceClaimTemplateName"])])),
  ("restartPolicy", .text), ("runtimeClassName", .text), ("schedulerName", .text),
  ("schedulingGates", .list (texts ["name"])), ("securityContext", podSecurityContext),
  ("serviceAccount", .text), ("serviceAccountName", .text), ("setHostnameAsFQDN", .flag),
  ("shareProcessNamespace", .flag), ("subdomain", .text),
  ("terminationGracePeriodSeconds", .whole 64), ("tolerations", .list toleration),
  ("topologySpreadConstraints", .list topologySpread), ("volumes", .list volume)]

def podCondition : Shape := .record [
  ("lastProbeTime", .moment), ("lastTransitionTime", .moment), ("message", .text),
  ("reason", .text), ("status", .text), ("type", .text)]

def containerState : Shape := .record [
  ("running", .record [("startedAt", .moment)]),
  ("terminated", .record [
    ("containerID", .text), ("exitCode", .whole 32), ("finishedAt", .moment),
    ("message", .text), ("reason", .text), ("signal", .whole 32), ("startedAt", .moment)]),
  ("waiting", texts ["message", "reason"])]

def containerStatus : Shape := .record [
  ("allocatedResources", quantities), ("containerID", .text), ("image", .text),
  ("imageID", .text), ("lastState", containerState), ("name", .text), ("ready", .flag),
  ("resources", resources), ("restartCount", .whole 32), ("started", .flag),
  ("state", containerState)]

def podStatus : Shape := .record [
  ("conditions", .list podCondition), ("containerStatuses", .list containerStatus),
  ("ephemeralContainerStatuses", .list containerStatus), ("hostIP", .text),
  ("hostIPs", .list (texts ["ip"])), ("initContainerStatuses", .list containerStatus),
  ("message", .text), ("nominatedNodeName", .text), ("phase", .text), ("podIP", .text),
  ("podIPs", .list (texts ["ip"])), ("qosClass", .text), ("reason", .text), ("resize", .text),
  ("resourceClaimStatuses", .list (texts ["name", "resourceClaimName"])),
  ("startTime", .moment)]

def pod : Shape := object "Pod" podSpec podStatus

end Provision.Kubernetes.Schema
