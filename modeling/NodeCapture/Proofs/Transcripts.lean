import NodeCapture.Proofs.Endings

/-! # The exchanges of an operation

    `Task.Leads` lists what a task may lead to: the exchanges that it makes, of
    which the last comes first, and the result that it ends with.  Running a
    task leaves such exchanges on the bench, in front of those that were there
    (`run_leads`).

    `Task.Makes` says that a task makes calls of some sort only, whatever the
    replies are.  `Request.MayCall` lists the calls of each operation
    (`Operation.ofRequest_mayCall`); what only some operations call is read off
    that list: of all operations only the creation of a debug pod applies a
    manifest (`Request.MayCall.of_applies`). -/

namespace NodeCapture

namespace Task

variable {α : Type}

/-- A task may make some exchanges and end with a result. -/
inductive Leads : {n : Nat} → Task α n → List Exchange → α → Prop where
  | done {n : Nat} {result : α} : @Leads n (done result) [] result
  | call {n : Nat} {request : Call} {next : Reply → Task α n} {reply : Reply}
      {exchanges : List Exchange} {result : α} :
      Leads (next reply) exchanges result →
        Leads (call request next) (exchanges ++ [⟨request, reply⟩]) result
  | resolve {n : Nat} {path : String} {next : Except PathFault LocalPath → Task α n}
      {resolved : Except PathFault LocalPath} {exchanges : List Exchange} {result : α} :
      Leads (next resolved) exchanges result → Leads (resolve path next) exchanges result
  | makeDirectories {n : Nat} {path : LocalPath} {next : Option OsError → Task α n}
      {fault : Option OsError} {exchanges : List Exchange} {result : α} :
      Leads (next fault) exchanges result → Leads (makeDirectories path next) exchanges result
  | consult {n : Nat} {next : ClientKnowledge → Task α n} {known : ClientKnowledge}
      {exchanges : List Exchange} {result : α} :
      Leads (next known) exchanges result → Leads (consult next) exchanges result
  | rememberVersion {n : Nat} {version : Version} {next : Task α n}
      {exchanges : List Exchange} {result : α} :
      Leads next exchanges result → Leads (rememberVersion version next) exchanges result

/-- A task that is run leaves the exchanges that it leads to. -/
theorem run_leads (kubectl : Kubectl) {n : Nat} (t : Task α n) (b : Bench) :
    ∃ exchanges, (t.run kubectl b).2.exchanges = exchanges ++ b.exchanges
      ∧ t.Leads exchanges (t.run kubectl b).1 := by
  induction t generalizing b with
  | done result => exact ⟨[], rfl, .done⟩
  | call request next ih =>
      obtain ⟨exchanges, hrun, hleads⟩ := ih _ (b.exchange kubectl request).2
      refine ⟨exchanges ++ [⟨request, kubectl b.exchanges request⟩], ?_, .call hleads⟩
      rw [List.append_assoc]
      exact hrun
  | resolve path next ih =>
      obtain ⟨exchanges, hrun, hleads⟩ := ih (b.files.resolve path) b
      exact ⟨exchanges, hrun, .resolve hleads⟩
  | makeDirectories path next ih =>
      obtain ⟨exchanges, hrun, hleads⟩ := ih (b.makeDirectories path).1 (b.makeDirectories path).2
      have hsame : (b.makeDirectories path).2.exchanges = b.exchanges := by
        rw [Bench.makeDirectories]
        split <;> rfl
      exact ⟨exchanges, hrun.trans (by rw [hsame]), .makeDirectories hleads⟩
  | consult next ih =>
      obtain ⟨exchanges, hrun, hleads⟩ := ih b.client b
      exact ⟨exchanges, hrun, .consult hleads⟩
  | rememberVersion version next ih =>
      obtain ⟨exchanges, hrun, hleads⟩ := ih (b.remember version)
      exact ⟨exchanges, hrun, .rememberVersion hleads⟩

/-- What a task leads to is one of its ends. -/
theorem Leads.mayEnd {n : Nat} {t : Task α n} {exchanges : List Exchange} {result : α}
    (h : t.Leads exchanges result) : t.MayEnd result := by
  induction h with
  | done => exact .done
  | call _ ih => exact .call ih
  | resolve _ ih => exact .resolve ih
  | makeDirectories _ ih => exact .makeDirectories ih
  | consult _ ih => exact .consult ih
  | rememberVersion _ ih => exact .rememberVersion ih

/-- A task makes calls of some sort only. -/
def Makes (P : Call → Prop) {n : Nat} : Task α n → Prop
  | done _ => True
  | call request next => P request ∧ ∀ reply, Makes P (next reply)
  | resolve _ next => ∀ resolved, Makes P (next resolved)
  | makeDirectories _ next => ∀ fault, Makes P (next fault)
  | consult next => ∀ known, Makes P (next known)
  | rememberVersion _ next => Makes P next

/-- Every call on the way is one that may be made. -/
theorem Makes.of_leads {P : Call → Prop} {n : Nat} {t : Task α n} {exchanges : List Exchange}
    {result : α} (makes : t.Makes P) (leads : t.Leads exchanges result) :
    ∀ e ∈ exchanges, P e.call := by
  induction leads with
  | done => exact fun e he => absurd he List.not_mem_nil
  | call _ ih =>
      rw [List.forall_mem_append, List.forall_mem_singleton]
      exact ⟨ih (makes.2 _), makes.1⟩
  | resolve _ ih => exact ih (makes _)
  | makeDirectories _ ih => exact ih (makes _)
  | consult _ ih => exact ih (makes _)
  | rememberVersion _ ih => exact ih makes

/-- What makes few calls makes no others. -/
theorem Makes.mono {P Q : Call → Prop} {n : Nat} {t : Task α n} (h : t.Makes P)
    (hPQ : ∀ c, P c → Q c) : t.Makes Q := by
  induction t with
  | done => exact trivial
  | call request next ih => exact ⟨hPQ _ h.1, fun reply => ih reply (h.2 reply)⟩
  | resolve path next ih => exact fun resolved => ih resolved (h resolved)
  | makeDirectories path next ih => exact fun fault => ih fault (h fault)
  | consult next ih => exact fun known => ih known (h known)
  | rememberVersion version next ih => exact ih h

end Task

/-- A call did not go well. -/
def Reply.IsBad (reply : Reply) : Prop := ∀ r, reply = .exited r → r.succeeded = false

namespace Operation

variable {P : Call → Prop} {n : Nat}

/-- An attempt makes its call and those that follow. -/
theorem makes_attempt {c : Call} {failed : String → Response} {next : String → Operation n}
    (hc : P c) (hnext : ∀ out, (next out).Makes P) : (attempt c failed next).Makes P := by
  refine ⟨hc, ?_⟩
  intro reply
  cases reply with
  | exited r =>
      cases hok : r.succeeded with
      | true =>
          simp only [hok, if_true]
          exact hnext _
      | false =>
          simp only [hok]
          exact trivial
  | transportError text => exact trivial
  | crashed text => exact trivial

/-- Reading a listing makes no call. -/
theorem makes_reading {β : Type} {listing : Except NumberError β} {next : β → Operation n}
    (h : ∀ a, (next a).Makes P) : (reading listing next).Makes P := by
  cases listing with
  | ok a => exact h a
  | error e => exact trivial

/-- The operation ends here: what it does not provide for, or the report of a
    failure, is its result. -/
def Fails (failed : String → Response) (result : Except OperationFault Response) : Prop :=
  (∃ text, result = .ok (failed text)) ∨ ∃ fault, result = .error fault

/-- An attempt goes on after a call that went well, and ends with any other. -/
theorem leads_attempt {c : Call} {failed : String → Response} {next : String → Operation n}
    {exchanges : List Exchange} {result : Except OperationFault Response}
    (h : (attempt c failed next).Leads exchanges result) :
    (∃ r rest, r.succeeded = true ∧ exchanges = rest ++ [⟨c, .exited r⟩]
        ∧ (next r.stdout).Leads rest result)
      ∨ ∃ reply : Reply, reply.IsBad ∧ exchanges = [⟨c, reply⟩] ∧ Fails failed result := by
  cases h with
  | call hnext =>
      rename_i reply rest
      cases reply with
      | exited r =>
          cases hok : r.succeeded with
          | true =>
              simp only [hok, if_true] at hnext
              exact Or.inl ⟨r, rest, hok, rfl, hnext⟩
          | false =>
              simp only [hok, Bool.false_eq_true, if_false] at hnext
              cases hnext
              refine Or.inr ⟨_, ?_, rfl, Or.inl ⟨_, rfl⟩⟩
              rintro _ ⟨⟩
              exact hok
      | transportError text =>
          cases hnext
          exact Or.inr ⟨.transportError text, by rintro _ ⟨⟩, rfl, Or.inl ⟨_, rfl⟩⟩
      | crashed text =>
          cases hnext
          exact Or.inr ⟨.crashed text, by rintro _ ⟨⟩, rfl, Or.inr ⟨_, rfl⟩⟩

/-- An attempt makes its call. -/
theorem mem_of_leads_attempt {c : Call} {failed : String → Response} {next : String → Operation n}
    {exchanges : List Exchange} {result : Except OperationFault Response}
    (h : (attempt c failed next).Leads exchanges result) : ∃ e ∈ exchanges, e.call = c := by
  rcases leads_attempt h with ⟨r, rest, -, rfl, -⟩ | ⟨reply, -, rfl, -⟩
  · exact ⟨_, List.mem_append_right _ (List.mem_singleton_self _), rfl⟩
  · exact ⟨_, List.mem_singleton_self _, rfl⟩

end Operation

/-- A capture is started in the background. -/
theorem Settings.getLast?_startCommand (s : Settings) (capture : String)
    (filters : CaptureFilters) :
    (s.startCommand capture filters).toList.getLast? = some '&' := by
  simp [startCommand]

/-- The search does not run in the background. -/
theorem Settings.getLast?_findCommand (s : Settings) :
    s.findCommand.toList.getLast? ≠ some '&' := by
  rw [findCommand, String.toList_append, List.getLast?_append]
  simp

/-- A call applies a manifest. -/
def Call.Applies (c : Call) : Prop := c.args.head? = some "apply"

/-- A call looks at the nodes, or at the debug pod of one of them. -/
inductive Call.Looks (s : Settings) (node : String) : Call → Prop where
  | nodes : Looks s node listNodes
  | pods : Looks s node s.listDebugPods
  | readiness : Looks s node (s.waitReady node)
  | processes : Looks s node (s.exec node Settings.processCommand)
  | files : Looks s node (s.exec node s.findCommand)

/-- Looking applies no manifest. -/
theorem Call.Looks.not_applies {s : Settings} {node : String} {c : Call} (h : c.Looks s node) :
    ¬c.Applies := by
  cases h <;> simp [Applies, listNodes, Settings.listDebugPods, Settings.waitReady, Settings.exec]

/-- Which calls the operation of a request may make. -/
inductive Request.MayCall (s : Settings) : Request → Call → Prop where
  | looks {node : String} {c : Call} (looks : c.Looks s node) : MayCall s (.checkNode node) c
  | applies (node : String) : MayCall s (.createPod node) (s.applyManifest node)
  | waitsReady (node : String) : MayCall s (.createPod node) (s.waitReady node)
  | installs (node : String) :
      MayCall s (.createPod node) (s.exec node Settings.installCommand)
  | deletes (node : String) : MayCall s (.deletePod node) (s.deletePod node)
  | waitsDeleted (node : String) : MayCall s (.deletePod node) (s.waitDeleted node)
  | starts (node capture : String) (filters : CaptureFilters) :
      MayCall s (.startCapture node capture filters)
        (s.exec node (s.startCommand capture filters))
  | listsProcesses (node capture : String) :
      MayCall s (.stopCapture node capture) (s.exec node Settings.processCommand)
  | kills (node capture : String) (pid : Int) :
      MayCall s (.stopCapture node capture) (s.exec node (Settings.killCommand pid))
  | listsFiles (node capture : String) :
      MayCall s (.stopCapture node capture) (s.exec node s.findCommand)
  | asksVersion (node capture path : String) :
      MayCall s (.download node capture path) clientVersion
  | copies (node capture path : String) (target : LocalPath) (retries : Bool) :
      MayCall s (.download node capture path) (s.copyFile node capture target retries)
  | listsInterfaces (node : String) :
      MayCall s (.listInterfaces node) (s.exec node Settings.interfacesCommand)
  | listsNodes : MayCall s .listNodes NodeCapture.listNodes
  | listsPods (node : String) : MayCall s (.listPods node) (NodeCapture.listPods node)

namespace Operation

variable (s : Settings) (node : String)

/-- A command in the debug pod applies none. -/
theorem not_applies_exec (command : String) : ¬(s.exec node command).Applies := by
  simp [Call.Applies, Settings.exec]

/-- Waiting for the debug pod applies none. -/
theorem not_applies_waitReady : ¬(s.waitReady node).Applies := by
  simp [Call.Applies, Settings.waitReady]

/-- A check only looks. -/
theorem checkNode_makes : (checkNode s node).Makes (Call.Looks s node) := by
  rw [checkNode]
  refine makes_attempt .pods ?_
  intro names
  dsimp only
  split
  · refine makes_attempt .readiness ?_
    intro _
    refine makes_attempt .processes ?_
    intro ps
    refine makes_reading ?_
    intro processes
    refine makes_attempt .files ?_
    intro found
    refine makes_reading ?_
    intro files
    exact trivial
  · exact trivial

/-- The creation of a debug pod makes the calls of its request. -/
theorem createPod_mayCall : (createPod s node).Makes ((Request.createPod node).MayCall s) := by
  rw [createPod]
  refine makes_attempt (.applies node) ?_
  intro _
  refine makes_attempt (.waitsReady node) ?_
  intro _
  refine makes_attempt (.installs node) ?_
  intro _
  exact trivial

/-- The deletion of a debug pod makes the calls of its request. -/
theorem deletePod_mayCall : (deletePod s node).Makes ((Request.deletePod node).MayCall s) := by
  rw [deletePod]
  refine makes_attempt (.deletes node) ?_
  intro _
  refine makes_attempt (.waitsDeleted node) ?_
  intro _
  exact trivial

/-- A stop makes the calls of its request. -/
theorem stopCapture_mayCall (capture : String) :
    (stopCapture s node capture).Makes ((Request.stopCapture node capture).MayCall s) := by
  rw [stopCapture]
  refine makes_attempt (.listsProcesses node capture) ?_
  intro ps
  refine makes_reading ?_
  intro processes
  dsimp only
  split
  · exact trivial
  · refine makes_attempt (.kills node capture _) ?_
    intro _
    refine makes_attempt (.listsFiles node capture) ?_
    intro found
    refine makes_reading ?_
    intro files
    split <;> exact trivial

/-- A download makes the calls of its request. -/
theorem download_mayCall (capture path : String) :
    (download s node capture path).Makes ((Request.download node capture path).MayCall s) := by
  have copied : ∀ {n : Nat} {target : LocalPath} {retries : Bool} {failed : String → Response}
      {r : Response}, (attempt (s.copyFile node capture target retries) failed
        (fun _ => respond r) : Operation (n + 1)).Makes
          ((Request.download node capture path).MayCall s) :=
    makes_attempt (.copies node capture path _ _) (fun _ => trivial)
  rw [download]
  intro resolved
  cases resolved with
  | error fault => exact trivial
  | ok target =>
      intro fault
      cases fault with
      | some e => exact trivial
      | none =>
          rintro ⟨version, nesting⟩
          cases version with
          | some version => exact copied
          | none =>
              refine ⟨.asksVersion node capture path, ?_⟩
              intro reply
              cases reply with
              | exited result =>
                  dsimp only
                  split
                  · split
                    · exact trivial
                    · exact copied
                  · exact copied
              | transportError text => exact copied
              | crashed text => exact trivial

/-- Every operation makes the calls of its list only. -/
theorem ofRequest_mayCall (q : Request) : (ofRequest s q).Makes (q.MayCall s) := by
  cases q with
  | checkNode node => exact (checkNode_makes s node).mono fun _ looks => .looks looks
  | createPod node => exact createPod_mayCall s node
  | deletePod node => exact deletePod_mayCall s node
  | startCapture node capture filters =>
      rw [ofRequest, startCapture]
      exact makes_attempt (.starts node capture filters) fun _ => trivial
  | stopCapture node capture => exact stopCapture_mayCall s node capture
  | download node capture path => exact download_mayCall s node capture path
  | listInterfaces node =>
      rw [ofRequest, listInterfaces]
      exact makes_attempt (.listsInterfaces node) fun _ => trivial
  | listNodes =>
      rw [ofRequest, listNodes]
      exact makes_attempt .listsNodes fun _ => trivial
  | listPods node =>
      rw [ofRequest, listPods]
      exact makes_attempt (.listsPods node) fun _ => trivial

end Operation

/-- Only the creation of a debug pod applies a manifest. -/
theorem Request.MayCall.of_applies {s : Settings} {q : Request} {c : Call} (h : q.MayCall s c)
    (applies : c.Applies) : q.kind = .createPod := by
  cases h with
  | looks looks => exact absurd applies looks.not_applies
  | applies => rfl
  | waitsReady => rfl
  | installs => rfl
  | _ =>
      simp [Call.Applies, Settings.exec, Settings.deletePod, Settings.waitDeleted, clientVersion,
        Settings.copyFile, NodeCapture.listNodes, NodeCapture.listPods] at applies

end NodeCapture
