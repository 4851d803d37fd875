import NodeCapture.Kubectl.Basic
import NodeCapture.Kubectl.Listing
import NodeCapture.System

/-!
# Tasks

    A task is what remains to be done of an operation: it is done, or it waits for the
    reply to a call, or it uses something at hand (the local files, the client version
    that was found before and how deep a document may be nested). The index bounds the
    number of calls that are still to come, so that every task ends.

    What is at hand lies on the bench. It also keeps the exchanges with kubectl, which
    are all that kubectl is assumed to depend on.
-/

namespace NodeCapture

/-- What is known of the client before it is asked: its version, if it was found before,
    and how deep the document may be nested that it answers with. -/
structure ClientKnowledge where
  version : Option Version
  nesting : Nat

/-- The rest of an operation, with at most `n` calls to come. -/
inductive Task (α : Type) : Nat → Type where
  | done {n : Nat} (result : α) : Task α n
  | call {n : Nat} (request : Call) (next : Reply → Task α n) : Task α (n + 1)
  | resolve {n : Nat} (path : String) (next : Except PathFault LocalPath → Task α n) : Task α n
  | makeDirectories {n : Nat} (path : LocalPath) (next : Option OsError → Task α n) : Task α n
  | consult {n : Nat} (next : ClientKnowledge → Task α n) : Task α n
  | rememberVersion {n : Nat} (version : Version) (next : Task α n) : Task α n

/-- What operations have at hand, and the exchanges so far, of which the last comes
    first. -/
structure Bench where
  files : LocalFiles
  version : Option Version := none
  nesting : Nat := Json.usualNesting
  exchanges : List Exchange := []

namespace Bench

/-- Makes a call. -/
def exchange (kubectl : Kubectl) (b : Bench) (c : Call) : Reply × Bench :=
  let reply := kubectl b.exchanges c
  (reply, { b with exchanges := ⟨c, reply⟩ :: b.exchanges })

/-- Makes directories, and says what went wrong, if something did. -/
def makeDirectories (b : Bench) (path : LocalPath) : Option OsError × Bench :=
  match b.files.ensureDirectories path with
  | .ok files => (none, { b with files := files })
  | .error e => (some e, b)

/-- What is known of the client. -/
def client (b : Bench) : ClientKnowledge := ⟨b.version, b.nesting⟩

/-- Remembers the client version. -/
def remember (b : Bench) (version : Version) : Bench := { b with version := some version }

/-- The calls so far in their order. -/
def calls (b : Bench) : List Call := (b.exchanges.map Exchange.call).reverse

end Bench

namespace Task

variable {α : Type}

/-- Does everything that remains. -/
def run (kubectl : Kubectl) {n : Nat} : Task α n → Bench → α × Bench
  | done result, b => (result, b)
  | call c next, b =>
    let (reply, b) := b.exchange kubectl c
    run kubectl (next reply) b
  | resolve path next, b => run kubectl (next (b.files.resolve path)) b
  | makeDirectories path next, b =>
    let (fault, b) := b.makeDirectories path
    run kubectl (next fault) b
  | consult next, b => run kubectl (next b.client) b
  | rememberVersion version next, b => run kubectl next (b.remember version)

/-- Goes on to the next call or to the end. -/
def toCall {n : Nat} : Task α n → Bench → Task α n × Bench
  | done result, b => (done result, b)
  | call c next, b => (call c next, b)
  | resolve path next, b => toCall (next (b.files.resolve path)) b
  | makeDirectories path next, b =>
    let (fault, b) := b.makeDirectories path
    toCall (next fault) b
  | consult next, b => toCall (next b.client) b
  | rememberVersion version next, b => toCall next (b.remember version)

/-- Makes the next call and goes on to the one after it or to the end. -/
def answer (kubectl : Kubectl) {n : Nat} : Task α n → Bench → Task α (n - 1) × Bench
  | done result, b => (done result, b)
  | call c next, b =>
    let (reply, b) := b.exchange kubectl c
    toCall (next reply) b
  | resolve path next, b => answer kubectl (next (b.files.resolve path)) b
  | makeDirectories path next, b =>
    let (fault, b) := b.makeDirectories path
    answer kubectl (next fault) b
  | consult next, b => answer kubectl (next b.client) b
  | rememberVersion version next, b => answer kubectl next (b.remember version)

/-- The result of a task that is done. -/
def result? {n : Nat} : Task α n → Option α
  | done result => some result
  | _ => none

end Task

end NodeCapture
