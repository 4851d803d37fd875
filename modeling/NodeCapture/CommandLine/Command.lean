import NodeCapture.CommandLine.Options
import NodeCapture.Filter

/-!
# Commands

    A command line names a group and a command of it, with options in front of the group
    and behind the command. What a command is told is read from its options; an empty
    text stands for an option that is not given, except where the text itself is asked
    for.
-/

namespace NodeCapture

/-- Which traffic is asked for. Pods are given by what the command identifies them
    with. -/
structure TrafficOptions where
  pod : Option String
  direction : PodDirection
  source : Option String
  dest : Option String
  bothWays : Bool
  protocol : Option String
  port : Option Int
  transports : List String

/-- What the run of a capture is told. -/
structure RunOptions where
  node : String
  traffic : TrafficOptions
  sourceNode : Option String
  destNode : Option String
  interface : Option String
  filterText : Option String
  duration : Binary64
  output : String
  keepsPod : Bool

/-- What is done at a cluster. -/
inductive ClusterCommand where
  | listNodes
  | listPods (node : String)
  | checkNode (node : String) (asJson : Bool)
  | listInterfaces (node : String)
  | runCapture (options : RunOptions)
  | createPod (node : String)
  | cleanUp (node : String)

/-- What a command line asks for. -/
inductive Command where
  | help
  | previewFilter (traffic : TrafficOptions)
  | serve (host : Option String) (port : Option Int)
  | atCluster (kubeconfig : Option String) (command : ClusterCommand)

/-- A command as it is written: its group, its name, its options, the options that it must
    have, and how it is read from the options given. -/
structure CommandForm where
  group : String
  name : String
  options : OptionTable
  required : List String
  read : GivenOptions → Command

/-- The names of the values of a type. -/
def namesOf (α : Type) [Named α] : List String := (Named.values : List α).map Named.name

namespace CommandForm

/-- The option that asks for help. -/
def helpOption : String × OptionKind := ("--help", .flag)

/-- The options in front of the group. -/
def frontOptions : OptionTable := [helpOption, ("--debug", .flag), ("-d", .flag)]

/-- The options for traffic; `pod`, `source` and `dest` are the names of those for
    pods. -/
def trafficOptions (pod source dest : String) : OptionTable :=
  [(pod, .text), ("--direction", .choice (namesOf PodDirection)), (source, .text), (dest, .text),
    ("--bidirectional", .flag), ("--no-bidirectional", .flag), ("--protocol", .text),
    ("--port", .whole), ("--transport", .text)]

/-- Reads the options for traffic. -/
def readTraffic (pod source dest : String) (given : GivenOptions) : TrafficOptions where
  pod := given.filled? pod
  direction := (given.named? PodDirection "--direction").getD .sentAndReceived
  source := given.filled? source
  dest := given.filled? dest
  bothWays := given.holds "--bidirectional" "--no-bidirectional" true
  protocol := given.filled? "--protocol"
  port := given.whole? "--port"
  transports := given.texts "--transport"

/-- Reads the options of the run of a capture. -/
def readRun (given : GivenOptions) : RunOptions where
  node := (given.text? "--node").getD ""
  traffic := readTraffic "--pod" "--source-pod" "--dest-pod" given
  sourceNode := given.filled? "--source-node"
  destNode := given.filled? "--dest-node"
  interface := given.filled? "--interface"
  filterText := given.filled? "--filter"
  duration := (given.real? "--duration").getD (.ofInt 10)
  output := (given.text? "--output").getD "."
  keepsPod := given.holds "--keep-pod" "--no-keep-pod" false

/-- A command at a cluster, which may be told where the kubeconfig is. -/
def atCluster (group name : String) (options : OptionTable) (required : List String)
    (read : GivenOptions → ClusterCommand) : CommandForm where
  group := group
  name := name
  options := options ++ [("--kubeconfig", .text)]
  required := required
  read given := .atCluster (given.filled? "--kubeconfig") (read given)

/-- A command at a node of a cluster. -/
def atNode (group name : String) (options : OptionTable)
    (read : String → GivenOptions → ClusterCommand) : CommandForm :=
  atCluster group name (("--node", .text) :: options) ["--node"]
    (fun given => read ((given.text? "--node").getD "") given)

/-- The commands. -/
def all : List CommandForm :=
  [atCluster "nodes" "list" [] [] (fun _ => .listNodes),
    atNode "nodes" "pods" [] (fun node _ => .listPods node),
    atNode "nodes" "check" [("--json", .flag)]
      (fun node given => .checkNode node (given.has "--json")),
    atNode "nodes" "interfaces" [] (fun node _ => .listInterfaces node),
    { group := "capture"
      name := "filter"
      options := trafficOptions "--pod-ip" "--source-ip" "--dest-ip"
      required := []
      read := fun given =>
        .previewFilter (readTraffic "--pod-ip" "--source-ip" "--dest-ip" given) },
    atNode "capture" "run"
      (trafficOptions "--pod" "--source-pod" "--dest-pod"
        ++ [("--source-node", .text), ("--dest-node", .text), ("--interface", .text),
          ("--filter", .text), ("--duration", .real), ("--output", .path),
          ("--keep-pod", .flag), ("--no-keep-pod", .flag)])
      (fun _ given => .runCapture (readRun given)),
    atNode "capture" "create-pod" [] (fun node _ => .createPod node),
    atNode "capture" "cleanup" [] (fun node _ => .cleanUp node),
    { group := "serve"
      name := "api"
      options := [("--host", .text), ("--port", .whole), ("--kubeconfig", .text)]
      required := []
      read := fun given => .serve (given.text? "--host") (given.whole? "--port") }]

/-- Reads the words behind the name of a command. What is wrong with a value counts before
    an option that is missing, and that before a word too many. -/
def readCommand (form : CommandForm) (words : List String) : Except ArgumentFault Command :=
  let table := helpOption :: form.options
  match readWords table true words with
  | .error fault => .error (.usage fault)
  | .ok r =>
    if r.options.has helpOption.1 then .ok .help
    else match r.options.fault? table with
      | some fault => .error fault
      | none =>
        match form.required.find? (fun name => !r.options.has name), r.words with
        | some name, _ => .error (.usage (.missingOption name))
        | none, word :: _ => .error (.usage (.unexpectedWord word))
        | none, [] => .ok (form.read r.options)

/-- Reads a choice: options in front of it, a name, and more words; `go` reads on from the
    name. -/
def readChoice (table : OptionTable) (go : String → List String → Except ArgumentFault Command)
    (words : List String) : Except ArgumentFault Command :=
  match readWords table false words with
  | .error fault => .error (.usage fault)
  | .ok r =>
    if r.options.has helpOption.1 then .ok .help
    else match r.words with
      | [] => .error (.usage .missingCommand)
      | name :: rest => go name rest

/-- Reads the words behind the name of a group. -/
def readGroup (forms : List CommandForm) (words : List String) : Except ArgumentFault Command :=
  readChoice [helpOption]
    (fun name rest =>
      match forms.find? (fun form => form.name == name) with
      | some form => form.readCommand rest
      | none => .error (.usage (.unknownCommand name))) words

end CommandForm

namespace Command

/-- Reads a command line. -/
def ofWords (words : List String) : Except ArgumentFault Command :=
  CommandForm.readChoice CommandForm.frontOptions
    (fun name rest =>
      match CommandForm.all.filter (fun form => form.group == name) with
      | [] => .error (.usage (.unknownCommand name))
      | forms => CommandForm.readGroup forms rest) words

end Command

end NodeCapture
