import KubeInventory.Schema.Object

/-! The forms of the volumes of a pod. -/

namespace KubeInventory.Schema

def awsElasticBlockStoreVolumeSource : Schema :=
  record [optional "fsType" text, optional "partition" number, optional "readOnly" flag,
    required "volumeID" text]

def azureDiskVolumeSource : Schema :=
  record [optional "cachingMode" text, required "diskName" text, required "diskURI" text,
    optional "fsType" text, optional "kind" text, optional "readOnly" flag]

def azureFileVolumeSource : Schema :=
  record [optional "readOnly" flag, required "secretName" text, required "shareName" text]

def localReference : Schema :=
  record [required "name" text]

def cephFSVolumeSource : Schema :=
  record [required "monitors" texts, optional "path" text, optional "readOnly" flag,
    optional "secretFile" text, optional "secretRef" localReference, optional "user" text]

def cinderVolumeSource : Schema :=
  record [optional "fsType" text, optional "readOnly" flag, optional "secretRef" localReference,
    required "volumeID" text]

def keyToPath : Schema :=
  record [required "key" text, optional "mode" number, required "path" text]

def configMapVolumeSource : Schema :=
  record [optional "defaultMode" number, optional "items" (list keyToPath), required "name" text,
    optional "optional" flag]

def csiVolumeSource : Schema :=
  record [required "driver" text, optional "fsType" text,
    optional "nodePublishSecretRef" localReference, optional "readOnly" flag,
    optional "volumeAttributes" textDict]

def objectFieldSelector : Schema :=
  record [optional "apiVersion" text, required "fieldPath" text]

def resourceFieldSelector : Schema :=
  record [optional "containerName" text, optional "divisor" text, required "resource" text]

def downwardAPIVolumeFile : Schema :=
  record [optional "fieldRef" objectFieldSelector, optional "mode" number, required "path" text,
    optional "resourceFieldRef" resourceFieldSelector]

def downwardAPIVolumeSource : Schema :=
  record [optional "defaultMode" number, optional "items" (list downwardAPIVolumeFile)]

def emptyDirVolumeSource : Schema :=
  record [optional "medium" text, optional "sizeLimit" text]

def typedLocalObjectReference : Schema :=
  record [optional "apiGroup" text, required "kind" text, required "name" text]

def typedObjectReference : Schema :=
  record [optional "apiGroup" text, required "kind" text, required "name" text,
    optional "namespace" text]

def volumeResourceRequirements : Schema :=
  record [optional "limits" textDict, optional "requests" textDict]

def persistentVolumeClaimSpec : Schema :=
  record [optional "accessModes" texts, optional "dataSource" typedLocalObjectReference,
    optional "dataSourceRef" typedObjectReference,
    optional "resources" volumeResourceRequirements, optional "selector" labelSelector,
    optional "storageClassName" text, optional "volumeAttributesClassName" text,
    optional "volumeMode" text, optional "volumeName" text]

def persistentVolumeClaimTemplate : Schema :=
  record [optional "metadata" objectMeta, required "spec" persistentVolumeClaimSpec]

def ephemeralVolumeSource : Schema :=
  record [optional "volumeClaimTemplate" persistentVolumeClaimTemplate]

def fcVolumeSource : Schema :=
  record [optional "fsType" text, optional "lun" number, optional "readOnly" flag,
    optional "targetWWNs" texts, optional "wwids" texts]

def flexVolumeSource : Schema :=
  record [required "driver" text, optional "fsType" text, optional "options" textDict,
    optional "readOnly" flag, optional "secretRef" localReference]

def flockerVolumeSource : Schema :=
  record [optional "datasetName" text, optional "datasetUUID" text]

def gcePersistentDiskVolumeSource : Schema :=
  record [optional "fsType" text, optional "partition" number, required "pdName" text,
    optional "readOnly" flag]

def gitRepoVolumeSource : Schema :=
  record [optional "directory" text, required "repository" text, optional "revision" text]

def glusterfsVolumeSource : Schema :=
  record [required "endpoints" text, required "path" text, optional "readOnly" flag]

def hostPathVolumeSource : Schema :=
  record [required "path" text, optional "type" text]

def imageVolumeSource : Schema :=
  record [optional "pullPolicy" text, optional "reference" text]

def iscsiVolumeSource : Schema :=
  record [optional "chapAuthDiscovery" flag, optional "chapAuthSession" flag,
    optional "fsType" text, optional "initiatorName" text, required "iqn" text,
    optional "iscsiInterface" text, required "lun" number, optional "portals" texts,
    optional "readOnly" flag, optional "secretRef" localReference, required "targetPortal" text]

def nfsVolumeSource : Schema :=
  record [required "path" text, optional "readOnly" flag, required "server" text]

def persistentVolumeClaimVolumeSource : Schema :=
  record [required "claimName" text, optional "readOnly" flag]

def photonPersistentDiskVolumeSource : Schema :=
  record [optional "fsType" text, required "pdID" text]

def portworxVolumeSource : Schema :=
  record [optional "fsType" text, optional "readOnly" flag, required "volumeID" text]

def clusterTrustBundleProjection : Schema :=
  record [optional "labelSelector" labelSelector, optional "name" text, optional "optional" flag,
    required "path" text, optional "signerName" text]

def configMapProjection : Schema :=
  record [optional "items" (list keyToPath), required "name" text, optional "optional" flag]

def downwardAPIProjection : Schema :=
  record [optional "items" (list downwardAPIVolumeFile)]

def secretProjection : Schema :=
  record [optional "items" (list keyToPath), required "name" text, optional "optional" flag]

def serviceAccountTokenProjection : Schema :=
  record [optional "audience" text, optional "expirationSeconds" number, required "path" text]

def volumeProjection : Schema :=
  record [optional "clusterTrustBundle" clusterTrustBundleProjection,
    optional "configMap" configMapProjection, optional "downwardAPI" downwardAPIProjection,
    optional "secret" secretProjection,
    optional "serviceAccountToken" serviceAccountTokenProjection]

def projectedVolumeSource : Schema :=
  record [optional "defaultMode" number, optional "sources" (list volumeProjection)]

def quobyteVolumeSource : Schema :=
  record [optional "group" text, optional "readOnly" flag, required "registry" text,
    optional "tenant" text, optional "user" text, required "volume" text]

def rbdVolumeSource : Schema :=
  record [optional "fsType" text, required "image" text, optional "keyring" text,
    required "monitors" texts, optional "pool" text, optional "readOnly" flag,
    optional "secretRef" localReference, optional "user" text]

def scaleIOVolumeSource : Schema :=
  record [optional "fsType" text, required "gateway" text, optional "protectionDomain" text,
    optional "readOnly" flag, required "secretRef" localReference, optional "sslEnabled" flag,
    optional "storageMode" text, optional "storagePool" text, required "system" text,
    optional "volumeName" text]

def secretVolumeSource : Schema :=
  record [optional "defaultMode" number, optional "items" (list keyToPath),
    optional "optional" flag, optional "secretName" text]

def storageOSVolumeSource : Schema :=
  record [optional "fsType" text, optional "readOnly" flag, optional "secretRef" localReference,
    optional "volumeName" text, optional "volumeNamespace" text]

def vsphereVirtualDiskVolumeSource : Schema :=
  record [optional "fsType" text, optional "storagePolicyID" text,
    optional "storagePolicyName" text, required "volumePath" text]

def volume : Schema :=
  record [optional "awsElasticBlockStore" awsElasticBlockStoreVolumeSource,
    optional "azureDisk" azureDiskVolumeSource, optional "azureFile" azureFileVolumeSource,
    optional "cephfs" cephFSVolumeSource, optional "cinder" cinderVolumeSource,
    optional "configMap" configMapVolumeSource, optional "csi" csiVolumeSource,
    optional "downwardAPI" downwardAPIVolumeSource, optional "emptyDir" emptyDirVolumeSource,
    optional "ephemeral" ephemeralVolumeSource, optional "fc" fcVolumeSource,
    optional "flexVolume" flexVolumeSource, optional "flocker" flockerVolumeSource,
    optional "gcePersistentDisk" gcePersistentDiskVolumeSource,
    optional "gitRepo" gitRepoVolumeSource, optional "glusterfs" glusterfsVolumeSource,
    optional "hostPath" hostPathVolumeSource, optional "image" imageVolumeSource,
    optional "iscsi" iscsiVolumeSource, required "name" text, optional "nfs" nfsVolumeSource,
    optional "persistentVolumeClaim" persistentVolumeClaimVolumeSource,
    optional "photonPersistentDisk" photonPersistentDiskVolumeSource,
    optional "portworxVolume" portworxVolumeSource, optional "projected" projectedVolumeSource,
    optional "quobyte" quobyteVolumeSource, optional "rbd" rbdVolumeSource,
    optional "scaleIO" scaleIOVolumeSource, optional "secret" secretVolumeSource,
    optional "storageos" storageOSVolumeSource,
    optional "vsphereVolume" vsphereVirtualDiskVolumeSource]

end KubeInventory.Schema
