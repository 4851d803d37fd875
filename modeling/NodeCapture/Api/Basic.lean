import NodeCapture.Api.Body
import NodeCapture.Api.Route
import NodeCapture.Moment
import NodeCapture.Projection
import NodeCapture.Setup

/-!
# The server

    The server answers requests about one orchestrator, which may be set up by the first
    request that needs it. Where a key is configured, requests must carry it; only the
    documentation is open, which is told by the path of the address of a request. A
    request that is refused changes nothing. An operation that a request begins is
    carried out before the answer if the request asks to wait for it, and after it
    otherwise.
-/

namespace NodeCapture

/-- A request: its method, its path as it is routed, the host that it names, or the one of
    the server where it names none, its query, its body and its key. -/
structure HttpRequest where
  method : String
  path : String
  host : String := "localhost"
  query : List (String × String) := []
  content : Option String := none
  key : Option String := none

/-- The request for a target. -/
def HttpRequest.ofTarget (method target : String) : HttpRequest :=
  { method := method, path := String.ofList (decodedPath target), query := queryOf target }

/-- The address of a request behind its scheme. -/
def HttpRequest.address (r : HttpRequest) : List Char :=
  withoutBreaks (r.host.toList ++ r.path.toList)

/-- An answer: its status, its body if it has one, and the operation that is still to be
    carried out. -/
structure HttpAnswer where
  status : Nat
  body : Option Json := none
  background : Option Nat := none

/-- What no answer provides for. -/
inductive ApiFault where
  | setup (fault : SetupFault)
  | validation (error : ValidationError)

/-- Why a request is refused. -/
inductive Refusal where
  | unauthorized
  | noRoute
  | noMethod
  | unknownNode (node : String)
  | unknownCapture (node capture : String)
  | unknownPod (node pod : String)
  | podsNotLoaded (node : String)
  | notEditable (node : String)
  | notAllowed (intent : String) (status : Option NodeStatus)
  | unreadableBody
  | invalid (issues : List Issue)
  | invalidRequest (error : ValidationError)

namespace Refusal

/-- The status of a refusal. -/
def status : Refusal → Nat
  | unauthorized => 403
  | noRoute | unknownNode _ | unknownCapture .. | unknownPod .. => 404
  | noMethod => 405
  | podsNotLoaded _ | notEditable _ | notAllowed .. => 409
  | unreadableBody => 400
  | invalid _ | invalidRequest _ => 422

/-- A step of a path. -/
def stepJson : PathStep → Json
  | .field name => .string name
  | .place index => .int index

/-- An issue. -/
def issueJson (i : Issue) : Json :=
  .object [("type", .string i.cause.code), ("loc", .array (i.path.map stepJson)),
    ("msg", .string i.cause.message)]

/-- The detail of a refusal. -/
def detail : Refusal → Json
  | unauthorized => .string "Unauthorized"
  | noRoute => .string "Not Found"
  | noMethod => .string "Method Not Allowed"
  | unknownNode node => .string ("Unknown node " ++ node)
  | unknownCapture node capture => .string ("Unknown capture " ++ capture ++ " on " ++ node)
  | unknownPod node pod => .string ("Pod " ++ pod ++ " not found on node " ++ node)
  | podsNotLoaded node => .string ("Pods for node " ++ node ++ " are not loaded")
  | notEditable node => .string ("Filters of " ++ node ++ " cannot be changed now")
  | notAllowed intent status =>
    .string (intent ++ " not allowed (node status: " ++ (status.map Named.name).getD "None" ++ ")")
  | unreadableBody => .string "There was an error parsing the body"
  | invalid issues => .array (issues.map issueJson)
  | invalidRequest e => .ofTexts e.summary

/-- The answer of a refusal. -/
def answer (r : Refusal) : HttpAnswer := ⟨r.status, some (.object [("detail", r.detail)]), none⟩

end Refusal

/-- What ends the handling of a request before its answer. -/
inductive Stop where
  | refused (refusal : Refusal)
  | fault (fault : ApiFault)

/-- Handling a request at a station. What was done before a stop stays done. -/
abbrev Handler (α : Type) := ExceptT Stop (StateM Station) α

namespace Handler

/-- Refuses a request. -/
def refuse {α : Type} (r : Refusal) : Handler α := throw (.refused r)

/-- Goes on with a value that was checked. -/
def checked {α : Type} : Checked α → Handler α
  | .ok a => pure a
  | .error issues => refuse (.invalid issues)

/-- An error in what a request says. -/
def invalidRequest (e : ValidationError) : Stop := .refused (.invalidRequest e)

/-- An error that is not foreseen. -/
def unforeseen (e : ValidationError) : Stop := .fault (.validation e)

/-- Carries an intent out as far as that needs no operation; its error stops the
    request. -/
def perform (stop : ValidationError → Stop) (intent : Intent) : Handler Answer := do
  match (← get).perform intent with
  | .ok (st, a) =>
    set st
    return a
  | .error e => throw (stop e)

/-- Carries an operation out. -/
def carryOut (kubectl : Kubectl) (operation : Nat) : Handler Unit :=
  modify (fun st => (st.carryOut kubectl operation).1)

/-- The state of a node, which must have one. -/
def requireNode (node : String) : Handler Node := do
  match (← get).node? node with
  | some n => return n
  | none => refuse (.unknownNode node)

/-- Refuses a node that is not known. -/
def requireKnown (node : String) : Handler Unit := do
  if (← get).orchestrator.knows node then return () else refuse (.unknownNode node)

/-- The state of a node as JSON, or null where it has none. -/
def stateOf (node : String) : Handler Json := do
  return describeOption Node.describe ((← get).node? node)

/-- An answer that all is well. -/
def success (fields : List (String × Json)) : HttpAnswer := ⟨200, some (.object fields), none⟩

/-- Answers an intent for a remote operation, of a node or of none. -/
def accepted (kubectl : Kubectl) (wait : Bool) (title : String) (node : Option String) :
    Answer → Handler HttpAnswer
  | .begun operation => do
    if wait then carryOut kubectl operation
    let fields ← match node with
      | none => pure [("accepted", Json.bool true)]
      | some name => do
        pure [("accepted", .bool true), ("node", .string name), ("state", ← stateOf name)]
    return { success fields with background := if wait then none else some operation }
  | _ => do
    let st ← get
    refuse (.notAllowed title ((node.bind st.node?).map Node.status))

/-- Answers a change of filters. -/
def edited (node : String) : Answer → Handler HttpAnswer
  | .done => do return success [("node", .string node), ("state", ← stateOf node)]
  | _ => refuse (.notEditable node)

/-- Makes a further change of filters, if there is one and the change before it was
    made. -/
def further (change : Option Intent) (before : Answer) : Handler Answer :=
  match before, change with
  | .done, some intent => perform unforeseen intent
  | _, _ => return before

/-- Sets the filters of a node: the interface, port and transports, then a protocol, then
    a filter text. -/
def setFilters (node : String) (body : FiltersBody) : Handler HttpAnswer := do
  discard (requireNode node)
  let change : SelectionChange :=
    { interface := some body.interface
      port := some body.port
      transports := some (TransportSet.ofList body.transports)
      appProtocol := some none }
  let a ← perform unforeseen (.setFilters node change)
  let a ← further (body.appProtocol.map (fun p => .setProtocol node (some p))) a
  let a ← further ((nonEmpty body.filterText).map (fun text => .setFilterText node (some text))) a
  edited node a

/-- A loaded pod by its name; no name or an empty one asks for none. -/
def findPod (node : String) (pod : Option String) : Handler (Option Pod) := do
  match nonEmpty pod with
  | none => return none
  | some name =>
    match ((← get).session.reference.get? node).map ListedNode.pods with
    | some (.loaded pods) =>
      match pods.find? (fun p => p.name == name) with
      | some p => return some p
      | none => refuse (.unknownPod node name)
    | _ => refuse (.podsNotLoaded node)

/-- The scenario of a body, on a node. -/
def scenarioOf (node : String) (body : ScenarioBody) : ScenarioKind → Handler Scenario
  | .specificPod => do return .specificPod (← findPod node body.pod) body.direction
  | .twoPods => do
    let sourceNode := (nonEmpty body.sourceNode).getD node
    let destNode := (nonEmpty body.destNode).getD node
    let source ← findPod sourceNode body.source
    let dest ← findPod destNode body.dest
    return .twoPods (some sourceNode) source (some destNode) dest body.pairDirection

/-- Sets the scenario of a node. -/
def setScenario (node : String) (body : ScenarioBody) : Handler HttpAnswer := do
  discard (requireNode node)
  match body.kind with
  | none => do edited node (← perform unforeseen (.selectScenario node none))
  | some kind => do
    let scenario ← scenarioOf node body kind
    edited node (← perform unforeseen (.setScenario node (some scenario)))

/-- Selects a node. -/
def select (node : String) : Handler HttpAnswer := do
  requireKnown node
  discard (perform unforeseen (.select (some node)))
  return success [("selected_node", .string node), ("state", ← stateOf node)]

/-- Begins an operation on a node that has a state. -/
def operateOn (kubectl : Kubectl) (wait : Bool) (title node : String) (intent : Intent) :
    Handler HttpAnswer := do
  discard (requireNode node)
  accepted kubectl wait title (some node) (← perform unforeseen intent)

/-- Begins an operation that answers for no node. -/
def operateApart (kubectl : Kubectl) (wait : Bool) (title : String) (intent : Intent) :
    Handler HttpAnswer := do
  accepted kubectl wait title none (← perform unforeseen intent)

/-- Checks a node that is known. -/
def check (kubectl : Kubectl) (wait : Bool) (node : String) : Handler HttpAnswer := do
  requireKnown node
  accepted kubectl wait "Checking node" (some node) (← perform unforeseen (.checkNode node))

/-- Starts a capture under a name, or under one made from the clock. -/
def startCapture (kubectl : Kubectl) (now : Moment) (wait : Bool) (node : String)
    (capture : Option String) : Handler HttpAnswer := do
  discard (requireNode node)
  let name := (nonEmpty capture).getD now.captureName
  accepted kubectl wait "Starting capture" (some node)
    (← perform invalidRequest (.startCapture node name))

/-- Downloads a completed capture of a node. -/
def download (kubectl : Kubectl) (wait : Bool) (node capture path : String) :
    Handler HttpAnswer := do
  let n ← requireNode node
  if n.captures.any (fun c => c.name == capture) then
    accepted kubectl wait "Downloading capture" (some node)
      (← perform invalidRequest (.download node capture path))
  else refuse (.unknownCapture node capture)

/-- Whether a request asks to wait; the last word for it must be a truth value. -/
def waits (r : HttpRequest) : Checked Bool :=
  match r.query.reverse.find? (fun q => q.1 == "wait") with
  | some q => ((Check.boolOfText q.2).under (.field "wait")).under (.field "query")
  | none => .ok false

/-- Answers a request to a route with its body. -/
def route (kubectl : Kubectl) (now : Moment) (r : HttpRequest) (body : Option Json) :
    Route → Handler HttpAnswer
  | .state => do return ⟨200, some (← get).session.describe, none⟩
  | .select node => select node
  | .filters node => do setFilters node (← checked (requiredBody FiltersBody.check body))
  | .scenario node => do setScenario node (← checked (requiredBody ScenarioBody.check body))
  | .loadNodes => do operateApart kubectl (← checked (waits r)) "Loading nodes" .listNodes
  | .loadPods node => do operateApart kubectl (← checked (waits r)) "Loading pods" (.listPods node)
  | .check node => do check kubectl (← checked (waits r)) node
  | .createPod node => do
    operateOn kubectl (← checked (waits r)) "Creating debug pod" node (.createPod node)
  | .deletePod node => do
    operateOn kubectl (← checked (waits r)) "Deleting debug pod" node (.deletePod node)
  | .loadInterfaces node => do
    operateOn kubectl (← checked (waits r)) "Loading interfaces" node (.listInterfaces node)
  | .stopCapture node => do
    operateOn kubectl (← checked (waits r)) "Stopping capture" node (.stopCapture node)
  | .startCapture node => do
    let (wait, capture) ← checked
        ((waits r |>.map Prod.mk).apply (optionalBody checkStartBody none body))
    startCapture kubectl now wait node capture
  | .download node capture => do
    let (wait, path) ← checked
        ((waits r |>.map Prod.mk).apply (requiredBody checkDownloadBody body))
    download kubectl wait node capture path

end Handler

/-- Whether a route takes a body. -/
def Route.takesBody : Route → Bool
  | filters _ | scenario _ | startCapture _ | download .. => true
  | _ => false

/-- The body of a request, in which values may be nested so deep, where it has one that
    can be read. -/
def HttpRequest.body (r : HttpRequest) (nesting : Nat) : Except Refusal (Option Json) :=
  match readBody r.content nesting with
  | .ok body => .ok body
  | .error .unreadable => .error .unreadableBody
  | .error (.syntaxAt offset) => .error (.invalid [⟨.notJson, [.field "body", .place offset]⟩])

/-- A server: its key, its orchestrator once there is one, how deep values in a body may
    be nested, and which hosts can be read in an address. -/
structure Api where
  token : String
  station : Option Station
  nesting : Nat := Json.usualNesting
  readsHost : List Char → Bool := fun host => host.contains '[' == host.contains ']'

namespace Api

/-- Whether the path of an address may be asked for without the key. -/
def isOpen (path : List Char) : Bool :=
  "/docs".toList.isPrefixOf path || "/openapi.json".toList.isPrefixOf path

/-- Whether a request need not carry a key, or carries the configured one; an empty key is
    none. -/
def isAuthorized (token : String) (r : HttpRequest) : Bool :=
  isOpen (pathOfAddress r.address) || token.isEmpty || r.key == some token

/-- Handles a request at a station. -/
def handleAt (kubectl : Kubectl) (now : Moment) (api : Api) (r : HttpRequest) (route : Route)
    (body : Option Json) (st : Station) : Except ApiFault HttpAnswer × Api :=
  let (result, st) := StateT.run (ExceptT.run (Handler.route kubectl now r body route)) st
  let api := { api with station := some st }
  match result with
  | .ok answer => (.ok answer, api)
  | .error (.refused refusal) => (.ok refusal.answer, api)
  | .error (.fault fault) => (.error fault, api)

/-- Handles a request to a route, for which there must be an orchestrator; `setUp` yields
    one where there is none. -/
def handleRoute (kubectl : Kubectl) (now : Moment) (setUp : Except SetupFault Station)
    (api : Api) (r : HttpRequest) (route : Route) : Except ApiFault HttpAnswer × Api :=
  match if route.takesBody then r.body api.nesting else .ok none with
  | .error refusal => (.ok refusal.answer, api)
  | .ok body =>
    match api.station with
    | some st => api.handleAt kubectl now r route body st
    | none =>
      match setUp with
      | .ok st => api.handleAt kubectl now r route body st
      | .error fault => (.error (.setup fault), api)

/-- Handles a request, of which the answer may still have a body too many. Where its
    address cannot be read, the server fails. -/
def handleAny (kubectl : Kubectl) (now : Moment) (setUp : Except SetupFault Station) (api : Api)
    (r : HttpRequest) : Except ApiFault HttpAnswer × Api :=
  if !api.readsHost (hostOfAddress r.address) then (.ok ⟨500, none, none⟩, api)
  else if isAuthorized api.token r then
    match routing r.method r.path.toList with
    | .notFound => (.ok Refusal.noRoute.answer, api)
    | .otherMethod => (.ok Refusal.noMethod.answer, api)
    | .moved => (.ok ⟨307, none, none⟩, api)
    | .documentation => (.ok ⟨200, none, none⟩, api)
    | .found route => api.handleRoute kubectl now setUp r route
  else (.ok Refusal.unauthorized.answer, api)

/-- Handles a request. The answer to a HEAD request has no body. -/
def handle (kubectl : Kubectl) (now : Moment) (setUp : Except SetupFault Station) (api : Api)
    (r : HttpRequest) : Except ApiFault HttpAnswer × Api :=
  let (answer, api) := api.handleAny kubectl now setUp r
  (answer.map (fun a => if r.method == "HEAD" then { a with body := none } else a), api)

/-- Carries out what an answer left to be done. -/
def proceed (kubectl : Kubectl) (api : Api) (operation : Nat) : Api :=
  { api with station := api.station.map (fun st => (st.carryOut kubectl operation).1) }

end Api

end NodeCapture
