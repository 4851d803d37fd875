import NodeCapture.CommandLine.Capturing
import NodeCapture.CommandLine.Errand

/-!
# The command line

    A command line is read and what it asks for is done. A fault that is foreseen is
    told in the output and makes the exit code one; another one leaves the command.
    Words that make no command end with exit code two. A command that waits for ever
    ends only when it is broken off, and then with exit code one.
-/

namespace NodeCapture

/-- Where commands are run: the machine, the configuration, kubectl, the time, and which
    waits there are an end of. -/
structure Workplace where
  machine : Machine
  configuration : Configuration
  kubectl : Runner → Kubectl
  now : Moment
  wakes : Binary64 → Bool := fun _ => true

/-- How a command ends. -/
inductive Ending where
  | succeeded
  | failed (fault : CommandFault)
  | broken (fault : CommandFault)
  | misused (fault : UsageFault)
  | waiting

namespace Ending

/-- How a command ends whose errand did not get to its last step. -/
def ofHalt : Halt → Ending
  | .failed fault => failed fault
  | .waiting => waiting

/-- The exit code of an ending. A command that waits for ever has none until it is broken
    off, which is no success. -/
def exitCode : Ending → Nat
  | succeeded => 0
  | failed _ | broken _ | waiting => 1
  | misused _ => 2

/-- What is told last. -/
def lines : Ending → List String
  | failed fault => ["❌ " ++ fault.message]
  | _ => []

end Ending

/-- What a command did: how it ended, the lines that it printed, the exchanges with
    kubectl, of which the last comes first, the waits, and the server that it starts. -/
structure CommandReport where
  ending : Ending
  printed : List String := []
  exchanges : List Exchange := []
  waits : List Binary64 := []
  server : Option (String × Int) := none

namespace CommandReport

/-- The output: the lines that were printed, and what is told last. -/
def output (r : CommandReport) : String :=
  let text := String.join ((r.printed ++ r.ending.lines).map (fun line => line ++ "\n"))
  String.ofList (withLineFeeds text.toList)

/-- The exit code. -/
def exitCode (r : CommandReport) : Nat := r.ending.exitCode

end CommandReport

namespace Workplace

/-- Does an errand at the cluster of a kubeconfig. -/
def runErrand (w : Workplace) (kubeconfig : Option String) (errand : Kubectl → Errand Unit) :
    CommandReport :=
  match Setup.build w.machine kubeconfig w.configuration.kubeconfig false with
  | .error fault =>
    { ending := if fault.isForeseen then .failed (.setup fault) else .broken (.setup fault) }
  | .ok setup =>
    let (result, counter) := (errand (w.kubectl setup.runner)).run.run { station := setup.station }
    { ending := match result with
        | .ok _ => .succeeded
        | .error halt => .ofHalt halt
      printed := counter.printed.reverse
      exchanges := counter.station.bench.exchanges
      waits := counter.waits.reverse }

/-- What a command does at a cluster. -/
def errand (w : Workplace) (command : ClusterCommand) (kubectl : Kubectl) : Errand Unit :=
  match command with
  | .listNodes => Errand.listNodes kubectl
  | .listPods node => Errand.listPods kubectl node
  | .checkNode node asJson => Errand.checkNode kubectl node asJson
  | .listInterfaces node => Errand.listInterfaces kubectl node
  | .runCapture options => Errand.runCapture kubectl w.now w.wakes options
  | .createPod node => Errand.createPod kubectl node
  | .cleanUp node => Errand.cleanUp kubectl node

/-- Shows a filter. A transport that is not known is not foreseen. -/
def previewFilter (traffic : TrafficOptions) : CommandReport :=
  match readTransports traffic.transports with
  | .error e => { ending := .broken (.transport e) }
  | .ok transports =>
    match traffic.preview transports with
    | .error e => { ending := .failed (.protocol e) }
    | .ok s => { ending := .succeeded, printed := [derivedFilter s] }

/-- Starts the server at an address, or at the configured one. -/
def serve (w : Workplace) (host : Option String) (port : Option Int) : CommandReport :=
  let host := host.getD w.configuration.apiHost
  let port := port.getD w.configuration.apiPort
  { ending := .succeeded
    printed := ["📡 Serving capture API on http://" ++ host ++ ":" ++ integerText port]
    server := some (host, port) }

/-- Shows how commands are written. -/
def help : CommandReport :=
  { ending := .succeeded
    printed := CommandForm.all.map (fun form =>
      String.intercalate " " (["capturectl", form.group, form.name]
                               ++ form.options.map (fun o => "[" ++ o.1 ++ "]"))) }

/-- Does what a command asks for. -/
def run (w : Workplace) : Command → CommandReport
  | .help => help
  | .previewFilter traffic => previewFilter traffic
  | .serve host port => w.serve host port
  | .atCluster kubeconfig command => w.runErrand kubeconfig (w.errand command)

/-- Reads a command line and does what it asks for. -/
def runWords (w : Workplace) (words : List String) : CommandReport :=
  match Command.ofWords words with
  | .ok command => w.run command
  | .error (.usage fault) => { ending := .misused fault }
  | .error (.path fault) => { ending := .broken (.setup (.path fault)) }

end Workplace

end NodeCapture
