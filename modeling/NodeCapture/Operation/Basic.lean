import NodeCapture.Kubectl.Command
import NodeCapture.Kubectl.Listing
import NodeCapture.Operation.Task

/-!
# The remote operations

    Each operation makes its calls one after another and ends with a response. A call
    that fails ends the operation with a response that reports it; only the question for
    the client version may fail without consequence. Output that no operation provides
    for ends it with a fault instead.
-/

namespace NodeCapture

/-- What an operation does not provide for. -/
inductive OperationFault where
  | crashed (text : String)
  | number (error : NumberError)
  | version (fault : VersionFault)
  | path (fault : PathFault)

/-- The wording of a fault. -/
def OperationFault.message : OperationFault → String
  | crashed text => text
  | number error => error.message
  | version fault => fault.message
  | path fault => fault.message

/-- An operation with at most `n` calls to come. -/
abbrev Operation (n : Nat) := Task (Except OperationFault Response) n

namespace Operation

/-- Ends with a response. -/
def respond {n : Nat} (r : Response) : Operation n := .done (.ok r)

/-- Ends with a fault. -/
def stop {n : Nat} (fault : OperationFault) : Operation n := .done (.error fault)

/-- Makes a call and goes on with its output; where the call fails, ends with a response
    that reports it. -/
def attempt {n : Nat} (c : Call) (failed : String → Response) (next : String → Operation n) :
    Operation (n + 1) :=
  .call c fun reply =>
    match reply with
    | .exited r =>
      if r.succeeded then next r.stdout else respond (failed (describeFailure c.args r))
    | .transportError text => respond (failed text)
    | .crashed text => stop (.crashed text)

/-- Goes on with a listing that could be read. -/
def reading {n : Nat} {α : Type} (listing : Except NumberError α) (next : α → Operation n) :
    Operation n :=
  match listing with
  | .ok a => next a
  | .error e => stop (.number e)

variable (s : Settings)

/-- Finds out whether the debug pod of a node runs, and which captures are running and
    completed. -/
def checkNode (node : String) : Operation 4 :=
  let failed (podRunning : Bool) (running : Option String) (text error : String) : Response :=
    .nodeChecked (.failure (text ++ error)) node podRunning running []
  attempt s.listDebugPods (failed false none "Failed to get debug pod names:\n") fun names =>
    if (readNames names).contains (s.podName node) then
      attempt (s.waitReady node)
        (failed true none ("Pod " ++ s.podName node ++ " is not ready:\n")) fun _ =>
        attempt (s.exec node Settings.processCommand)
          (failed true none "Failed to read running captures:\n") fun ps =>
          reading (readProcesses s ps) fun processes =>
            let running := processes.map CaptureProcess.capture
            attempt (s.exec node s.findCommand)
              (failed true running.head? "Failed to read completed captures:\n") fun found =>
                reading (readFiles s found) fun files =>
                  respond (.nodeChecked .success node true running.head?
                    (files.filter (fun file => !running.contains file.name)))
    else respond (.nodeChecked .success node false none [])

/-- Creates the debug pod of a node, waits for it and installs its tools. -/
def createPod (node : String) : Operation 4 :=
  let failed (text error : String) : Response := .podCreated (.failure (text ++ error)) node
  attempt (s.applyManifest node) (failed "Unable to create debug pod:\n") fun _ =>
    attempt (s.waitReady node) (failed ("Pod " ++ s.podName node ++ " is not ready:\n")) fun _ =>
      attempt (s.exec node Settings.installCommand)
        (failed ("Installing debug tools failed on " ++ s.podName node ++ ":\n")) fun _ =>
          respond (.podCreated .success node)

/-- Deletes the debug pod of a node and waits until it is gone. -/
def deletePod (node : String) : Operation 4 :=
  let failed (text error : String) : Response := .podDeleted (.failure (text ++ error)) node
  attempt (s.deletePod node) (failed ("Failed to delete " ++ s.podName node ++ ":\n")) fun _ =>
    attempt (s.waitDeleted node)
      (failed ("Pod " ++ s.podName node ++ " was not deleted:\n")) fun _ =>
      respond (.podDeleted .success node)

/-- Starts a capture. -/
def startCapture (node capture : String) (filters : CaptureFilters) : Operation 4 :=
  attempt (s.exec node (s.startCommand capture filters))
    (fun e => .captureStarted (.failure e) node) fun _ =>
    respond (.captureStarted .success node)

/-- Stops a running capture and finds its file. -/
def stopCapture (node capture : String) : Operation 4 :=
  let failure (text : String) : Response := .captureStopped (.failure text) node none
  let failed (text error : String) : Response := failure (text ++ error)
  attempt (s.exec node Settings.processCommand)
    (failed "Failed to determine running captures:\n") fun ps =>
    reading (readProcesses s ps) fun processes =>
      match processes.find? (fun p => p.capture == capture) with
      | none =>
        respond (failure ("Unable to find running capture " ++ capture ++ ". Found: "
          ++ String.intercalate "," (processes.map CaptureProcess.capture)))
      | some process =>
        attempt (s.exec node (Settings.killCommand process.pid))
          (failed ("Failed to kill tcpdump process " ++ integerText process.pid ++ ":\n")) fun _ =>
            attempt (s.exec node s.findCommand)
              (failed "Failed to read completed captures:\n") fun found =>
              reading (readFiles s found) fun files =>
                match files.find? (fun file => file.name == capture) with
                | none => respond (failure ("Cannot find capture file for " ++ capture))
                | some file => respond (.captureStopped .success node (some file))

/-- Copies the file of a capture to a local path. Whether copies can be retried is asked
    once. -/
def download (node capture localPath : String) : Operation 4 :=
  .resolve localPath fun
    | .error fault => stop (.path fault)
    | .ok path =>
      let target := path.text
      let failed (error : String) : Response :=
        .downloaded (.failure ("Failed to download " ++ capture ++ " to " ++ target
            ++ ":\n" ++ error))
          node capture (some target)
      let copy {n : Nat} (retries : Bool) : Operation (n + 1) :=
        attempt (s.copyFile node capture path retries) failed fun _ =>
          respond (.downloaded .success node capture (some target))
      .makeDirectories path.tail fun
        | some e => respond (failed e.message)
        | none =>
          .consult fun
            | ⟨some version, _⟩ => copy (version.atLeast .firstWithRetries)
            | ⟨none, nesting⟩ =>
              .call clientVersion fun
                | .exited r =>
                  if r.succeeded then
                    match parseClientVersion r.stdout nesting with
                    | .error fault => stop (.version fault)
                    | .ok found =>
                      let version := found.getD .unknown
                      .rememberVersion version (copy (version.atLeast .firstWithRetries))
                  else copy false
                | .transportError _ => copy false
                | .crashed text => stop (.crashed text)

/-- Lists the interfaces of a node. -/
def listInterfaces (node : String) : Operation 4 :=
  attempt (s.exec node Settings.interfacesCommand)
    (fun e => .interfacesListed (.failure e) node []) fun out =>
    respond (.interfacesListed .success node (readInterfaces out))

/-- Lists the nodes of the cluster. -/
def listNodes : Operation 4 :=
  attempt NodeCapture.listNodes (fun e => .nodesListed (.failure e) []) fun out =>
    respond (.nodesListed .success (readNames out))

/-- Lists the pods on a node. -/
def listPods (node : String) : Operation 4 :=
  attempt (NodeCapture.listPods node) (fun e => .podsListed (.failure e) node []) fun out =>
    respond (.podsListed .success node (readPods out))

/-- The operation that a request asks for. -/
def ofRequest : Request → Operation 4
  | .checkNode node => checkNode s node
  | .createPod node => createPod s node
  | .deletePod node => deletePod s node
  | .startCapture node capture filters => startCapture s node capture filters
  | .stopCapture node capture => stopCapture s node capture
  | .download node capture path => download s node capture path
  | .listInterfaces node => listInterfaces s node
  | .listNodes => listNodes
  | .listPods node => listPods node

end Operation

end NodeCapture
