import Mathlib.Data.List.TakeWhile
import NodeCapture.Api.Basic
import NodeCapture.Json.Basic
import NodeCapture.Proofs.Events

/-! # Requests without the key

    Where a key is configured, a request without it is refused, unless it asks
    for the documentation.  What counts as asking for it is told by how the path
    of its address begins, while its own path tells where it leads.  The two
    agree as long as the host that the request names is no more than a host: the
    routes begin in another way than the documentation
    (`isOpen_address_of_found`).  But a host may bring a path with it.

    The main statement says that a request without the key is answered from
    itself alone, unless it leads to a route and its host brings an open path:
    one and the same answer is given at every station, with or without an
    orchestrator, and the station is left as it is.  A request that is rerouted
    in that way is handled as if it carried the key
    (`keyless_request_learns_nothing_unless_rerouted`). -/

namespace NodeCapture

/-- The paths of the routes begin with one of two segments. -/
theorem Route.head?_of_ofSegments {segments : List String} (h : ofSegments segments ≠ []) :
    segments.head? = some "state" ∨ segments.head? = some "nodes" := by
  unfold ofSegments at h
  split at h
  · exact Or.inl rfl
  · exact Or.inr rfl
  · exact Or.inr rfl
  · exact absurd rfl h

/-- The first segment stands behind the slash that a path begins with. -/
theorem prefix_of_pathSegments {path : List Char} {segments : List String} {first : String}
    (h : pathSegments path = some segments) (hfirst : segments.head? = some first) :
    '/' :: first.toList <+: path := by
  have hcut : ∀ rest : List Char, ((rest.splitOn '/').map String.ofList).head? = some first →
      first.toList <+: rest := by
    intro rest hhead
    rw [List.head?_map, Option.map_eq_some_iff] at hhead
    obtain ⟨segment, hsegment, rfl⟩ := hhead
    obtain ⟨more, hmore⟩ := List.head?_eq_some_iff.mp hsegment
    have hjoin : ['/'].intercalate (rest.splitOn '/') = rest := List.intercalate_splitOn '/'
    rw [hmore] at hjoin
    rw [String.toList_ofList, ← hjoin]
    cases more with
    | nil => simp
    | cons next more =>
        rw [List.intercalate_cons_cons, List.append_assoc]
        exact List.prefix_append segment _
  rw [pathSegments] at h
  generalize hline : (if path.getLast? == some '\n' then path.dropLast else path) = line at h
  have hpath : line <+: path := by
    rw [← hline]
    split
    · exact List.dropLast_prefix path
    · exact List.prefix_refl path
  obtain ⟨rest, rfl, rfl⟩ : ∃ rest, line = '/' :: rest
      ∧ (rest.splitOn '/').map String.ofList = segments := by
    split at h
    · next rest => exact ⟨rest, rfl, Option.some.inj h⟩
    · cases h
  exact ((List.prefix_cons_inj '/').mpr (hcut rest hfirst)).trans hpath

/-- What an address keeps as it is at the front of a path stays there. -/
theorem prefix_pathOf_withoutBreaks {front path : List Char} (h : front <+: path)
    (hbreaks : withoutBreaks front = front) (hpath : pathOf front = front) :
    front <+: pathOf (withoutBreaks path) := by
  obtain ⟨rest, rfl⟩ := h
  have happend : withoutBreaks (front ++ rest) = front ++ withoutBreaks rest := by
    rw [withoutBreaks, List.filter_append, ← withoutBreaks, ← withoutBreaks, hbreaks]
  rw [happend, pathOf, List.takeWhile_append, ← pathOf, hpath, if_pos rfl]
  exact List.prefix_append _ _

/-- A path to a route begins with one of two segments, also where it is the path
    of an address. -/
theorem Route.prefix_of_found {method : String} {path : List Char} {route : Route}
    (h : routing method path = .found route) :
    ∃ first, (first = "state" ∨ first = "nodes")
      ∧ '/' :: first.toList <+: pathOf (withoutBreaks path) := by
  have hroutes : Route.ofPath path ≠ [] := by
    intro hnone
    rw [routing, hnone] at h
    dsimp only at h
    split at h
    · split at h <;> cases h
    · split at h <;> cases h
  obtain ⟨segments, hsegments, hsome⟩ :
      ∃ segments, pathSegments path = some segments ∧ ofSegments segments ≠ [] := by
    rw [ofPath] at hroutes
    cases hsegments : pathSegments path with
    | none => exact absurd (by rw [hsegments]) hroutes
    | some segments => exact ⟨segments, rfl, by rwa [hsegments] at hroutes⟩
  rcases head?_of_ofSegments hsome with hfirst | hfirst
  · exact ⟨_, Or.inl rfl, prefix_pathOf_withoutBreaks (prefix_of_pathSegments hsegments hfirst)
      (by decide) (by decide)⟩
  · exact ⟨_, Or.inr rfl, prefix_pathOf_withoutBreaks (prefix_of_pathSegments hsegments hfirst)
      (by decide) (by decide)⟩

/-- What begins a text that goes on with a character of its own begins the text
    before that character. -/
theorem prefix_append_cons_iff {α : Type} {w a rest : List α} {c : α} (h : c ∉ w) :
    w <+: a ++ c :: rest ↔ w <+: a := by
  refine ⟨?_, fun hw => hw.trans (List.prefix_append a _)⟩
  intro hw
  rcases List.prefix_or_prefix_of_prefix hw (List.prefix_append a (c :: rest))
    with hw' | ⟨more, rfl⟩
  · exact hw'
  · rw [List.prefix_append_right_inj] at hw
    cases more with
    | nil => exact (List.append_nil a).symm ▸ List.prefix_rfl
    | cons x more =>
        obtain ⟨rfl, -⟩ := List.cons_prefix_cons.mp hw
        exact absurd (List.mem_append_right a List.mem_cons_self) h

namespace Api

/-- What the path of an open address begins with. -/
theorem isOpen_iff (path : List Char) :
    isOpen path = true ↔ "/docs".toList <+: path ∨ "/openapi.json".toList <+: path := by
  rw [isOpen, Bool.or_eq_true, List.isPrefixOf_iff_prefix, List.isPrefixOf_iff_prefix]

/-- A path to a route begins in a way of its own. -/
theorem isOpen_eq_false {path : List Char} {first : String}
    (hfirst : first = "state" ∨ first = "nodes") (h : '/' :: first.toList <+: path) :
    isOpen path = false := by
  obtain ⟨rest, rfl⟩ := h
  rcases hfirst with rfl | rfl <;> simp [isOpen, List.isPrefixOf]

/-- A slash behind a path that is not empty makes it no more open. -/
theorem isOpen_append (t : Char) (before rest : List Char) :
    isOpen (t :: before ++ '/' :: rest) = isOpen (t :: before) := by
  have hname (name : List Char) (hname : '/' ∉ name) :
      '/' :: name <+: t :: before ++ '/' :: rest ↔ '/' :: name <+: t :: before := by
    rw [List.cons_append, List.cons_prefix_cons, List.cons_prefix_cons,
      prefix_append_cons_iff hname]
  rw [Bool.eq_iff_iff, isOpen_iff, isOpen_iff]
  exact or_congr (hname "docs".toList (by decide)) (hname "openapi.json".toList (by decide))

/-- Where a request leads to a route, its address is open exactly if its host
    brings an open path with it. -/
theorem isOpen_address_of_found {r : HttpRequest} {route : Route}
    (h : routing r.method r.path.toList = .found route) :
    isOpen (pathOfAddress r.address)
      = isOpen (pathOfAddress (withoutBreaks r.host.toList)) := by
  obtain ⟨first, hfirst, hprefix⟩ := Route.prefix_of_found h
  have haddress : r.address = withoutBreaks r.host.toList ++ withoutBreaks r.path.toList :=
    List.filter_append ..
  obtain ⟨rest, hpath⟩ : ∃ rest, pathOf (withoutBreaks r.path.toList) = '/' :: rest := by
    obtain ⟨rest, hrest⟩ := hprefix
    exact ⟨_, hrest.symm⟩
  have hcut : (withoutBreaks r.path.toList).dropWhile isHostChar = withoutBreaks r.path.toList := by
    generalize withoutBreaks r.path.toList = path at hpath
    cases path with
    | nil => rfl
    | cons c path =>
        rw [pathOf, List.takeWhile_cons] at hpath
        split at hpath
        · obtain ⟨rfl, -⟩ := List.cons.inj hpath
          rfl
        · cases hpath
  rw [haddress, pathOfAddress, pathOfAddress, List.dropWhile_append]
  cases hhost : (withoutBreaks r.host.toList).dropWhile isHostChar with
  | nil =>
      -- the host is no more than a host
      rw [List.isEmpty_nil, if_pos rfl, hcut, isOpen_eq_false hfirst hprefix]
      rfl
  | cons t before =>
      rw [List.isEmpty_cons, if_neg Bool.false_ne_true, pathOf, List.takeWhile_append]
      split
      · next hall =>
          have hwhole : pathOf (t :: before) = t :: before :=
            (List.takeWhile_prefix _).eq_of_length hall
          rw [← pathOf, hpath, isOpen_append, hwhole]
      · rfl

end Api

/-- The host that a request names brings an open path with it, though the own
    path of the request leads to a route. -/
def HttpRequest.IsRerouted (r : HttpRequest) : Prop :=
  Api.isOpen (pathOfAddress (withoutBreaks r.host.toList)) = true
    ∧ ∃ route, routing r.method r.path.toList = .found route

/-- A host that is no more than a host brings no path. -/
theorem HttpRequest.not_isRerouted {r : HttpRequest} (h : r.host.toList.all isHostChar = true) :
    ¬r.IsRerouted := by
  have hwhole : (withoutBreaks r.host.toList).dropWhile isHostChar = [] :=
    List.dropWhile_eq_nil_iff.mpr fun c hc =>
      List.all_eq_true.mp h c (List.mem_filter.mp hc).1
  rintro ⟨hopen, -⟩
  rw [pathOfAddress, hwhole] at hopen
  cases hopen

namespace Api

variable {api : Api} {r : HttpRequest}

/-- A request that leads to no route is answered from itself alone. -/
theorem handleAny_eq_of_no_route (hreads : api.readsHost (hostOfAddress r.address) = true)
    (hauthorized : isAuthorized api.token r = true)
    (hroute : ∀ route, routing r.method r.path.toList ≠ .found route) :
    ∃ answer : HttpAnswer, answer.background = none
      ∧ ∀ kubectl now setUp station, { api with station }.handleAny kubectl now setUp r
        = (.ok answer, { api with station }) := by
  simp only [handleAny, hreads, hauthorized, Bool.not_true, Bool.false_eq_true, if_false, if_true]
  cases hrouting : routing r.method r.path.toList with
  | found route => exact absurd hrouting (hroute route)
  | documentation => exact ⟨⟨200, none, none⟩, rfl, fun _ _ _ _ => rfl⟩
  | otherMethod => exact ⟨Refusal.noMethod.answer, rfl, fun _ _ _ _ => rfl⟩
  | moved => exact ⟨⟨307, none, none⟩, rfl, fun _ _ _ _ => rfl⟩
  | notFound => exact ⟨Refusal.noRoute.answer, rfl, fun _ _ _ _ => rfl⟩

/-- Without the key, only an open address lets a request through. -/
theorem isAuthorized_of_keyless (configured : api.token ≠ "") (keyless : r.key ≠ some api.token) :
    isAuthorized api.token r = isOpen (pathOfAddress r.address) := by
  rw [isAuthorized, beq_eq_false_iff_ne.mpr keyless, String.isEmpty_eq_false_iff.mpr configured,
    Bool.or_false, Bool.or_false]

/-- A request without the key that is not rerouted is answered from itself
    alone: it is refused, unless its address is open, and then leads to no
    route. -/
theorem handleAny_of_keyless (configured : api.token ≠ "") (keyless : r.key ≠ some api.token)
    (direct : ¬r.IsRerouted) :
    ∃ answer : HttpAnswer, answer.background = none
      ∧ (api.readsHost (hostOfAddress r.address) = true →
          isOpen (pathOfAddress r.address) = false → answer.status = Refusal.unauthorized.status)
      ∧ ∀ kubectl now setUp station, { api with station }.handleAny kubectl now setUp r
        = (.ok answer, { api with station }) := by
  have authorized := isAuthorized_of_keyless configured keyless
  cases hreads : api.readsHost (hostOfAddress r.address) with
  | false =>
      refine ⟨⟨500, none, none⟩, rfl, nofun, fun kubectl now setUp station => ?_⟩
      simp only [handleAny, hreads, Bool.not_false, if_true]
  | true =>
      cases hopen : isOpen (pathOfAddress r.address) with
      | false =>
          refine ⟨Refusal.unauthorized.answer, rfl, fun _ _ => rfl, ?_⟩
          intro kubectl now setUp station
          simp only [handleAny, hreads, authorized, hopen, Bool.not_true, Bool.false_eq_true,
            if_false]
      | true =>
          have noRoute : ∀ route, routing r.method r.path.toList ≠ .found route := by
            intro route hroute
            exact direct ⟨(isOpen_address_of_found hroute).symm.trans hopen, route, hroute⟩
          obtain ⟨answer, hbackground, hanswer⟩ :=
            handleAny_eq_of_no_route hreads (authorized.trans hopen) noRoute
          exact ⟨answer, hbackground, nofun, hanswer⟩

/-- A request that is rerouted is let through whichever key it carries. -/
theorem handle_of_isRerouted (rerouted : r.IsRerouted) (key : Option String) (kubectl : Kubectl)
    (now : Moment) (setUp : Except SetupFault Station) :
    api.handle kubectl now setUp r = api.handle kubectl now setUp { r with key } := by
  obtain ⟨hopen, route, hroute⟩ := rerouted
  have authorized (key : Option String) : isAuthorized api.token { r with key } = true := by
    have haddress : isOpen (pathOfAddress { r with key }.address) = true :=
      (isOpen_address_of_found hroute).trans hopen
    rw [isAuthorized, haddress]
    rfl
  have sent : handleAny kubectl now setUp api r
      = handleAny kubectl now setUp api { r with key } := by
    rw [handleAny, handleAny, show isAuthorized api.token r = true from authorized r.key,
      authorized key]
    rfl
  rw [handle, handle, sent]

/-- Where a key is configured, a request without it is answered from itself
    alone, and every server is left as it is: no operation is begun or left to
    be carried out, and no call of kubectl is made.  The request is refused,
    unless the path of its address is open.  But where it is rerouted by its
    host, it is handled as if it carried the key. -/
theorem keyless_request_learns_nothing_unless_rerouted (configured : api.token ≠ "")
    (keyless : r.key ≠ some api.token) :
    (¬r.IsRerouted →
        ∃ answer : HttpAnswer, answer.background = none
          ∧ (api.readsHost (hostOfAddress r.address) = true →
              isOpen (pathOfAddress r.address) = false →
              answer.status = Refusal.unauthorized.status)
          ∧ ∀ kubectl now setUp station, { api with station }.handle kubectl now setUp r
            = (.ok answer, { api with station }))
      ∧ (r.IsRerouted → ∀ kubectl now setUp,
          api.handle kubectl now setUp r
            = api.handle kubectl now setUp { r with key := some api.token }) := by
  refine ⟨fun direct => ?_, fun rerouted => handle_of_isRerouted rerouted _⟩
  obtain ⟨answer, hbackground, hstatus, hanswer⟩ := handleAny_of_keyless configured keyless direct
  -- the answer to a HEAD request has no body, and is the same everywhere as well
  refine ⟨if r.method == "HEAD" then { answer with body := none } else answer, ?_, ?_, ?_⟩
  · split <;> exact hbackground
  · split <;> exact hstatus
  · intro kubectl now setUp station
    rw [handle, hanswer]
    rfl

end Api

/-- A server with a key and a station at which the debug pod of a node runs. -/
def guardedApi : Api where
  token := "secret"
  station := some
    { settings := {}
      orchestrator := (Orchestrator.create "lab" ["n"]).run
        [.intent (.checkNode "n"), .response (.nodeChecked .success "n" true none [])]
      bench := { files := .basic ["home"] } }

/-- A request for the deletion of that pod by way of the documentation, with a
    key that was guessed. -/
def detour : HttpRequest where
  method := "DELETE"
  path := "/docs/../nodes/n/debug-pod"
  key := some "guess"

/-- It is let through and leads nowhere, there and where nothing is set up. -/
theorem keyless_request_learns_nothing_by_detour :
    Api.isOpen (pathOfAddress detour.address) = true
      ∧ ∃ answer : HttpAnswer, answer.status = 404 ∧ answer.background = none
        ∧ ∀ setUp station, { guardedApi with station }.handle (fun _ _ => .exited {})
            ⟨2024, 5, 6, 0, 0, 0, 0⟩ setUp detour = (.ok answer, { guardedApi with station }) := by
  obtain ⟨answer, background, -, handled⟩ :=
    (@Api.keyless_request_learns_nothing_unless_rerouted guardedApi detour (by decide)
      (by decide)).1 (HttpRequest.not_isRerouted (by decide))
  have status : ({ guardedApi with station := none }.handle (fun _ _ => .exited {})
      ⟨2024, 5, 6, 0, 0, 0, 0⟩ (.error .noWorkers) detour).1.toOption.map HttpAnswer.status
        = some 404 := by
    decide +kernel
  rw [handled] at status
  exact ⟨by decide, answer, Option.some.inj status, background, fun _ _ => handled _ _ _ _⟩

/-- A request for the state, whose host brings the path of the documentation. -/
def reroutedRequest : HttpRequest where
  method := "GET"
  path := "/state"
  host := "x/docs"

/-- The cluster that an answer with the state names. -/
def shownCluster (result : Except ApiFault HttpAnswer) : Option String :=
  (result.toOption.bind HttpAnswer.body).bind (Json.textAt? "cluster_name")

/-- Without the key it is answered with the state. -/
theorem not_keyless_request_learns_nothing :
    ¬∀ (api : Api) (r : HttpRequest), api.token ≠ "" → r.key ≠ some api.token →
      ∀ kubectl now setUp station, ({ api with station }.handle kubectl now setUp r).1
        = (api.handle kubectl now setUp r).1 := by
  intro learnsNothing
  have same := learnsNothing guardedApi reroutedRequest (by decide) (by decide)
    (fun _ _ => .exited {}) ⟨2024, 5, 6, 0, 0, 0, 0⟩ (.error .noWorkers)
    (some { settings := {}, orchestrator := .create "another" [],
            bench := { files := .basic ["home"] } })
  exact absurd (congrArg shownCluster same) (by decide +kernel)

end NodeCapture
