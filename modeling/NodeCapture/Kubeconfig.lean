import NodeCapture.Json.Writer
import NodeCapture.Yaml.Reader

/-!
# Reading a kubeconfig

    A kubeconfig is a YAML document. It has lists of contexts, clusters and users, whose
    items have names, and says which context is current. The current context must be
    listed and must name a listed cluster; its user may be missing from the list. Of
    items with one name the first counts.
-/

namespace NodeCapture

/-- What is wrong with a kubeconfig. Places are paths into the file. -/
inductive KubeconfigFault where
  | emptyFile (path : String)
  | noFile
  | noKey (key place : String)
  | noObject (name place : String)
  | namelessItem (place : String)
  | unfitShape
  | malformed (path : String) (fault : YamlFault)

/-- The wording of a fault. -/
def KubeconfigFault.message : KubeconfigFault → String
  | emptyFile path => "Invalid kube-config. " ++ path ++ " file is empty"
  | noFile => "Invalid kube-config file. No configuration found."
  | noKey key place => "Invalid kube-config file. Expected key " ++ key ++ " in " ++ place
  | noObject name place =>
    "Invalid kube-config file. Expected object with name " ++ name ++ " in " ++ place ++ " list"
  | namelessItem place =>
    "Invalid kube-config file. Expected all values in " ++ place ++ " list to have 'name' key"
  | unfitShape => "Invalid kube-config file."
  | malformed path fault => fault.message path

namespace Json

/-- Whether two values are the same name. -/
def sameName : Json → Json → Bool
  | string a, string b => a == b
  | int a, int b => a == b
  | bool a, bool b => a == b
  | _, _ => false

end Json

namespace Kubeconfig

/-- A member that must be there and not null. -/
def member (key place : String) (value : Json) : Except KubeconfigFault Json :=
  match value with
  | .object members =>
    match Json.lookup? key members with
    | none | some .null => .error (.noKey key place)
    | some v => .ok v
  | _ => .error .unfitShape

/-- The items of a list of a kubeconfig; an absent list is empty. -/
def listOf (key : String) (config : Json) : Except KubeconfigFault (List Json) :=
  match (config.get? key).getD (.array []) with
  | .array items => .ok items
  | value => if value.isTruthy then .error .unfitShape else .ok []

/-- The place of an item of a file. -/
def itemPlace (path : String) (item : Json) : String := path ++ "/" ++ item.shown

/-- The first item with a name; all items must have one. -/
def named (name : Json) (place : String) : List Json → Except KubeconfigFault (Option Json)
  | [] => .ok none
  | item :: rest =>
    match item with
    | .object members =>
      match Json.lookup? "name" members with
      | none => .error (.namelessItem place)
      | some key =>
        match named name place rest with
        | .error fault => .error fault
        | .ok later => .ok (if Json.sameName key name then some item else later)
    | _ => .error .unfitShape

/-- The item with a name, which must be there. -/
def theNamed (name : Json) (place : String) (items : List Json) : Except KubeconfigFault Json := do
  match ← named name place items with
  | some item => return item
  | none => .error (.noObject name.inMessage place)

/-- Checks the user of a context: one that is listed must be complete. -/
def checkUser (path : String) (context : Json) (users : List Json) :
    Except KubeconfigFault Unit := do
  let user := (context.get? "user").getD .null
  if user.isTruthy && !users.isEmpty then
    match ← named user (path ++ "/users") users with
    | some item => discard (member "user" (itemPlace path item) item)
    | none => return ()

/-- The name of the cluster of the current context, in the document of a file. -/
def clusterOf (path : String) (config : Json) : Except KubeconfigFault String := do
  match config with
  | .object _ => pure ()
  | _ => .error .unfitShape
  let clusters ← listOf "clusters" config
  let contexts ← listOf "contexts" config
  let users ← listOf "users" config
  let current ← member "current-context" path config
  let active ← theNamed current (path ++ "/contexts") contexts
  let place := itemPlace path active
  let context ← member "context" place active
  checkUser path context users
  let cluster ← member "cluster" (place ++ "/context") context
  let target ← theNamed cluster (path ++ "/clusters") clusters
  discard (member "cluster" (itemPlace path target) target)
  return if cluster.isTruthy then cluster.inMessage else current.inMessage

/-- The name of the cluster of the current context of a file. -/
def clusterName (path text : String) : Except KubeconfigFault String :=
  match Yaml.read text.toList with
  | .error fault => .error (.malformed path fault)
  | .ok .null => .error (.emptyFile path)
  | .ok config => clusterOf path config

end Kubeconfig

end NodeCapture
