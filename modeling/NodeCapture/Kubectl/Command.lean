import NodeCapture.Kubectl.Basic
import NodeCapture.Message
import NodeCapture.Settings
import NodeCapture.System
import NodeCapture.Yaml.Writer

/-!
# The calls that operations make

    Each call names its pod or node and the namespace. What runs in a debug pod is one
    line for its shell; files are looked for in the directory that captures are written
    to.
-/

namespace NodeCapture

/-! ## The manifest of a debug pod

    The pod runs on its node with the network, processes and root directory of the node,
    and sleeps until commands are run in it. The names of members are in alphabetical
    order. -/

/-- The container of the debug pod. -/
def debugContainer (s : Settings) : Yaml :=
  .members [
    ("args", .items [.text "-c", .text "sleep infinity"]),
    ("command", .items [.text "/bin/sh"]),
    ("image", .text s.debugImage),
    ("imagePullPolicy", .text "IfNotPresent"),
    ("name", .text "debug"),
    ("resources", .members []),
    ("securityContext", .members [("privileged", .word "true"), ("runAsUser", .word "0")]),
    ("volumeMounts",
      .items [.members [("mountPath", .text "/host"), ("name", .text "host-volume")]])]

/-- The manifest of the debug pod of a node. -/
def podManifest (s : Settings) (node : String) : Yaml :=
  .members [
    ("apiVersion", .text "v1"),
    ("kind", .text "Pod"),
    ("metadata", .members [("name", .text (s.podName node)), ("namespace", .text s.namespaceName)]),
    ("spec", .members [
      ("containers", .items [debugContainer s]),
      ("dnsPolicy", .text "ClusterFirst"),
      ("hostIPC", .word "true"),
      ("hostNetwork", .word "true"),
      ("hostPID", .word "true"),
      ("nodeSelector", .members [("kubernetes.io/hostname", .text node)]),
      ("restartPolicy", .text "Never"),
      ("securityContext", .members []),
      ("volumes", .items
        [.members [("hostPath", .members [("path", .text "/")]), ("name", .text "host-volume")]])])]

namespace Settings

variable (s : Settings)

/-- Lists the names of the pods in the namespace. -/
def listDebugPods : Call :=
  ⟨["get", "pod", "-n", s.namespaceName, "--no-headers", "-o", "custom-columns=:metadata.name"],
    none⟩

/-- How long waiting may take. -/
def waitLimit : String := "--timeout=" ++ integerText s.waitTimeout ++ "s"

/-- Waits until the debug pod of a node is ready. -/
def waitReady (node : String) : Call :=
  ⟨["wait", "pod", "-n", s.namespaceName, "--for=condition=ready", s.waitLimit, s.podName node],
    none⟩

/-- Waits until the debug pod of a node is gone. -/
def waitDeleted (node : String) : Call :=
  ⟨["wait", "pod", "-n", s.namespaceName, "--for=delete", s.waitLimit, s.podName node], none⟩

/-- Runs a shell command in the debug pod of a node. -/
def exec (node command : String) : Call :=
  ⟨["exec", "-n", s.namespaceName, s.podName node, "--", "/bin/sh", "-c", command], none⟩

/-- The command that lists the processes of a node. -/
def processCommand : String := "ps -e -o pid= -o comm= -o args="

/-- The command that lists the capture files of a node. -/
def findCommand : String :=
  "find " ++ s.captureDir ++ " -type f -name '" ++ s.capturePrefix ++ "*.cap' -printf '%p\\t%k\\n'"

/-- The command that installs the tools of the debug pod. -/
def installCommand : String := "apt-get update && apt-get install -y tcpdump procps"

/-- The command that starts a capture in the background. -/
def startCommand (capture : String) (filters : CaptureFilters) : String :=
  tcpdumpCommand s capture filters.interface filters.filterText ++ " 1>/dev/null 2>&1 &"

/-- The command that ends a process. -/
def killCommand (pid : Int) : String := "kill " ++ integerText pid

/-- The command that lists the interfaces of a node. -/
def interfacesCommand : String := "tcpdump --list-interfaces"

/-- Creates the debug pod of a node. -/
def applyManifest (node : String) : Call := ⟨["apply", "-f", "-"], some (podManifest s node).render⟩

/-- Deletes the debug pod of a node. -/
def deletePod (node : String) : Call :=
  ⟨["delete", "pod", "-n", s.namespaceName, s.podName node], none⟩

/-- Where the file of a capture is in the debug pod of a node. -/
def remoteFile (node capture : String) : String := s.podName node ++ ":" ++ s.filePath capture

/-- The option of a copy: retries where the client knows them, else a limit of time. -/
def copyOption (retries : Bool) : String :=
  if retries then "--retries=99" else "--request-timeout=10m"

/-- Copies the file of a capture to a local path. -/
def copyFile (node capture : String) (path : LocalPath) (retries : Bool) : Call :=
  ⟨["cp", "-n", s.namespaceName, s.remoteFile node capture, path.text, copyOption retries], none⟩

end Settings

/-- Asks for the version of the client. -/
def clientVersion : Call := ⟨["version", "--client", "-o", "json"], none⟩

/-- Lists the names of the nodes. -/
def listNodes : Call :=
  ⟨["get", "node", "--no-headers", "-o", "custom-columns=:metadata.name"], none⟩

/-- Lists the pods on a node: name, address, and whether the pod is on the network of the
    node. -/
def listPods (node : String) : Call :=
  ⟨["get", "pods", "--all-namespaces", "--field-selector", "spec.nodeName=" ++ node, "-o",
    "jsonpath=\x7brange .items[*]\x7d\x7b.metadata.name\x7d\x7b'\\t'\x7d\x7b.status.podIP\x7d\x7b'\\t'\x7d"
      ++ "\x7b.spec.hostNetwork\x7d\x7b'\\n'\x7d\x7bend\x7d"], none⟩

end NodeCapture
