import Mathlib.Data.List.Basic
import QueryAdvisor.Proofs.History.RecentList
import QueryAdvisor.Proofs.Json.Wire
import QueryAdvisor.Proofs.Service.Serving

/-!
# The recent queries of a sequence of requests

What clients read as the recent queries is a fold over all requests so far, of which only two kinds count:

    accepted analysis of q  ──▶  q to the front, an equal older one gone, cut to the maximum
    clearing                ──▶  nothing left
    anything else           ──▶  no change

Neither what the sandbox does nor how a request is answered has a part in it: an analysis is remembered before
its response is written. What the model does has a part in one case only, where its reply is nested too
deeply: then there is no analysis, and the query is not noted. That is not what is meant, so the fold leaves
open which queries are noted, and there are two readings of it:

    `Request.accepted?`  every accepted query, as it is meant
    `Request.analyzed?`  every accepted query of which there is an analysis, as it is
-/

namespace QueryAdvisor.Service

open History (cut cut_nil map_cut view fits firstRows)

/-! ### The list that is meant -/

/-- The queries analyzed last, newest first, each with its time, and how often the clock was read. -/
structure Recent where
  entries : List (Text × Double) := []
  ticks : Nat := 0

namespace Recent

variable (n : Int) (clock : Nat → Double) (noted : Request → Option Text)

/-- A query comes to the front, an equal older one goes, and so does what is beyond the maximum. -/
def note (recent : Recent) (query : Text) : Recent where
  entries := cut n ((query, clock recent.ticks) :: recent.entries.filter fun entry => entry.1 ≠ query)
  ticks := recent.ticks + 1

/-- What one request makes of the recent queries, if `noted` tells which query of it counts. -/
def after (recent : Recent) (request : Request) : Recent :=
  match noted request with
  | some query => recent.note n clock query
  | none => if request.route = .endpoint .clear then { recent with entries := [] } else recent

/-- What a sequence of requests leaves. -/
def ofRequests (requests : List Request) : Recent := requests.foldl (after n clock noted) {}

/-- The part that a read asks for; without a limit it asks for all. -/
def asked (limit : Option Int) (entries : List (Text × Double)) : List (Text × Double) :=
  match limit with
  | none => entries
  | some k => entries.take (min k n).toNat

/-- How many entries a read wants to see, at most. -/
def count (limit : Option Int) : Int :=
  match limit with
  | none => n
  | some k => max 0 (min k n)

/-- An entry as clients see it. -/
def item (entry : Text × Double) : Json :=
  .object [("query", .str entry.1), ("ts", .float entry.2)]

/-- Every entry can be written. -/
structure Writable (recent : Recent) : Prop where
  query : ∀ entry ∈ recent.entries, entry.1.hasSurrogate = false
  time : ∀ entry ∈ recent.entries, entry.2.isFinite = true

variable {n clock}

theorem writable_empty (ticks : Nat) : Writable { ticks := ticks } := ⟨by simp, by simp⟩

theorem Writable.note (hclock : ∀ k, (clock k).isFinite = true) {recent : Recent} (h : Writable recent)
    {query : Text} (hquery : query.hasSurrogate = false) : Writable (recent.note n clock query) := by
  have hmem : ∀ entry ∈ (recent.note n clock query).entries,
      entry = (query, clock recent.ticks) ∨ entry ∈ recent.entries := by
    intro entry hentry
    have hcons := (History.cut_sublist n _).mem hentry
    exact (List.mem_cons.mp hcons).imp_right fun hold => (List.mem_filter.mp hold).1
  constructor
  · intro entry hentry
    rcases hmem entry hentry with rfl | hold
    · exact hquery
    · exact h.query entry hold
  · intro entry hentry
    rcases hmem entry hentry with rfl | hold
    · exact hclock _
    · exact h.time entry hold

end Recent

/-! ### One request -/

/-- The history of the service shows the recent queries up to its maximum, and holds each only once. -/
structure Shows (n : Int) (recent : Recent) (service : Service) : Prop where
  isOpen : service.history.isOpen = true
  maxItems : service.history.maxItems = n
  rows : cut n (view service.history.rows) = recent.entries.map fun entry => (some entry.1, entry.2)
  once : ((view service.history.rows).map Prod.fst).Nodup
  ticks : service.ticks = recent.ticks

variable {n : Int} {around : Surroundings} {recent : Recent} {service service' : Service}
  {request : Request} {work : Work}

theorem shows_new (n : Int) : Shows n {} { history := { maxItems := n } } :=
  ⟨rfl, rfl, cut_nil n, List.nodup_nil, rfl⟩

/-- Of entries with each query once, a new entry supersedes one at most. -/
theorem countP_superseded_of_nodup {l : List History.Entry} (h : (l.map Prod.fst).Nodup)
    (query : Text) (time : Double) :
    l.countP (fun e => !decide (¬ History.Superseded e (some query, time))) ≤ 1 := by
  have hcount : l.countP (fun e => !decide (¬ History.Superseded e (some query, time))) =
      (l.map Prod.fst).count (some query) := by
    rw [List.count, List.countP_map]
    apply List.countP_congr
    intro e _
    simp +contextual [History.Superseded]
  rw [hcount]
  exact List.nodup_iff_count.mp h (some query)

/-- The new entry is behind no other of its query. -/
theorem nodup_view_push {h : History} (hnodup : ((view h.rows).map Prod.fst).Nodup) (query : Text)
    (time : Double) : ((view (h.push (some query) time)).map Prod.fst).Nodup := by
  rw [History.view_push, List.map_cons, List.nodup_cons]
  constructor
  · simp [History.Superseded]
  · exact hnodup.sublist (List.Sublist.map _ List.filter_sublist)

theorem shows_remember (h : Shows n recent service) {query : Text}
    (hquery : query.hasSurrogate = false) :
    Shows n (recent.note n around.clock query) (remember around service query).1 := by
  obtain ⟨hopen, rfl, hrows, honce, hticks⟩ := h
  have hstore : service.history.canStore (some query) = true := by
    simp [History.canStore, hopen, hquery]
  have hfst : (remember around service query).1 =
      { history := (service.history.add (some query) (around.clock service.ticks)).1
        ticks := if service.history.canStore (some query) then service.ticks + 1 else service.ticks } :=
    rfl
  have hunicode : (some query).any Text.hasSurrogate = false := hquery
  obtain ⟨rows, hadd, hsublist, hcut⟩ :=
    History.exists_rows_add hopen hunicode (around.clock service.ticks)
  rw [hfst, hadd, if_pos hstore]
  refine ⟨hopen, rfl, ?_, ?_, ?_⟩
  · -- the rows may reach beyond the entries, but not more than one of them makes room
    rw [hcut, History.view_push,
      ← History.cut_cons_filter_cut _ _ (countP_superseded_of_nodup honce query _), hrows, Recent.note,
      ← map_cut, List.map_cons, List.filter_map, hticks]
    congr 3
    apply List.filter_congr
    intro entry _
    by_cases hsame : entry.1 = query <;> simp [History.Superseded, hsame]
  · exact (nodup_view_push honce query _).sublist ((hsublist.map _).map _)
  · exact congrArg (· + 1) hticks

theorem shows_clear (h : Shows n recent service) :
    Shows n { recent with entries := [] } (clear service).1 := by
  obtain ⟨hopen, hmax, -, -, hticks⟩ := h
  rw [clear, History.clear_of_isOpen hopen]
  exact ⟨hopen, hmax, cut_nil n, List.nodup_nil, hticks⟩

/-- A request of which no query is noted, and that does not clear, changes nothing. -/
theorem Recent.after_of_none {clock : Nat → Double} {noted : Request → Option Text}
    (h : noted request = none) (hclear : request.route ≠ .endpoint .clear) :
    recent.after n clock noted request = recent := by
  rw [after, h]
  exact if_neg hclear

/-- Whatever a request does, the history shows afterwards what the fold says. -/
theorem Serves.shows (hserves : Serves around service request service' work)
    (hunicode : ∀ query ∈ request.accepted? .analyses, query.hasSurrogate = false)
    (h : Shows n recent service) :
    Shows n (recent.after n around.clock Request.analyzed? request) service' := by
  cases hserves with
  | analysis analyzed =>
    rw [Recent.after, analyzed]
    exact shows_remember h (hunicode _ (Request.analyzed?_eq_some_iff.mp analyzed).1)
  | unfinished accepted nests =>
    have hroute := Request.route_of_accepted? accepted
    rwa [Recent.after_of_none (Request.analyzed?_of_nests nests) (by simp [hroute])]
  | explanation accepted =>
    have hroute := Request.route_of_accepted? accepted
    rwa [Recent.after_of_none (Request.analyzed?_of_route_ne (by simp [hroute])) (by simp [hroute])]
  | clearing goes =>
    rw [Recent.after, Request.analyzed?_of_route_ne (by simp [goes]), goes]
    exact shows_clear h
  | nothing analyses _ clear =>
    rwa [Recent.after_of_none (Request.analyzed?_of_unaccepted analyses) clear]

theorem Recent.Writable.after {clock : Nat → Double} (hclock : ∀ k, (clock k).isFinite = true)
    {noted : Request → Option Text} (hunicode : ∀ query ∈ noted request, query.hasSurrogate = false)
    (h : recent.Writable) : (recent.after n clock noted request).Writable := by
  unfold Recent.after
  split
  · next query hnoted => exact h.note hclock (hunicode query hnoted)
  · split
    · exact Recent.writable_empty _
    · exact h

/-! ### Any number of requests -/

theorem shows_serveAll (h : Shows n recent service)
    {requests : List Request} (hunicode : ∀ request ∈ requests,
      ∀ query ∈ request.accepted? .analyses, query.hasSurrogate = false) :
    Shows n (requests.foldl (Recent.after n around.clock Request.analyzed?) recent)
      (serveAll around service requests).1 := by
  induction requests generalizing recent service with
  | nil => exact h
  | cons request rest ih =>
    obtain ⟨hrequest, hrest⟩ := List.forall_mem_cons.mp hunicode
    rw [serveAll_cons, List.foldl_cons]
    exact ih ((serves around service request).shows hrequest h) hrest

theorem Recent.writable_foldl {clock : Nat → Double} (hclock : ∀ k, (clock k).isFinite = true)
    {noted : Request → Option Text} (h : recent.Writable) {requests : List Request}
    (hunicode : ∀ request ∈ requests, ∀ query ∈ noted request, query.hasSurrogate = false) :
    (requests.foldl (Recent.after n clock noted) recent).Writable := by
  induction requests generalizing recent with
  | nil => exact h
  | cons request rest ih =>
    obtain ⟨hrequest, hrest⟩ := List.forall_mem_cons.mp hunicode
    rw [List.foldl_cons]
    exact ih (h.after hclock hrequest) hrest

/-- Where two readings note the same queries, they leave the same. -/
theorem Recent.ofRequests_congr {clock : Nat → Double} {noted noted' : Request → Option Text}
    {requests : List Request} (h : ∀ request ∈ requests, noted request = noted' request) :
    ofRequests n clock noted requests = ofRequests n clock noted' requests := by
  rw [ofRequests, ofRequests]
  refine List.foldl_ext _ _ _ fun recent request hmem => ?_
  rw [after, after, h request hmem]

/-! ### Reading -/

theorem count_of_shows (h : Shows n recent service) (limit : Option Int) :
    service.history.count limit = Recent.count n limit := by
  cases limit with
  | none => exact h.maxItems
  | some k => exact congrArg (fun n => max 0 (min k n)) h.maxItems

/-- The rows that are read are the entries that the limit asks for. -/
theorem view_recent (h : Shows n recent service) (limit : Option Int) :
    view (firstRows (service.history.count limit) service.history.rows) =
      (Recent.asked n limit recent.entries).map fun entry => (some entry.1, entry.2) := by
  rw [History.view_firstRows, count_of_shows h]
  cases limit with
  | none => exact h.rows
  | some k =>
    rw [Recent.count, Recent.asked, List.map_take, ← h.rows, cut, if_neg (by omega), cut]
    -- a negative maximum cuts nothing, but then every limit asks for nothing
    split
    · next hneg =>
      rw [show (max 0 (min k n)).toNat = 0 by omega, show (min k n).toNat = 0 by omega]
    · rw [List.take_take]
      congr 1
      omega

theorem map_rowToJson_eq {rows : List HistoryRow} {entries : List (Text × Double)}
    (h : view rows = entries.map fun entry => (some entry.1, entry.2)) :
    rows.map rowToJson = entries.map Recent.item := by
  have hrow : rowToJson = (fun e : History.Entry => Json.object
      [("query", .ofText? e.1), ("ts", .float e.2)]) ∘ fun row => (row.query, row.time) := rfl
  rw [hrow, ← List.map_map, ← view, h, List.map_map]
  rfl

theorem leaves_item {entry : Text × Double} (hquery : entry.1.hasSurrogate = false)
    (htime : entry.2.isFinite = true) : (Recent.item entry).Leaves := by
  refine Json.leaves_object ["query", "ts"] rfl (by decide) ?_
  simp [Json.leaves_str hquery, Json.leaves_float htime]

theorem asked_subset (n : Int) (limit : Option Int) (entries : List (Text × Double)) :
    Recent.asked n limit entries ⊆ entries := by
  cases limit with
  | none => exact List.Subset.refl _
  | some k => exact List.take_subset _ _

/-- The body of an answer with recent queries. -/
def recentBody (entries : List (Text × Double)) : Json :=
  .object [("ok", .bool true), ("items", .arr (entries.map Recent.item))]

theorem leaves_recentBody (hwritable : recent.Writable) (limit : Option Int) :
    (recentBody (Recent.asked n limit recent.entries)).Leaves := by
  have hitems : (Json.arr ((Recent.asked n limit recent.entries).map Recent.item)).Leaves := by
    apply Json.leaves_arr
    intro v hv
    obtain ⟨entry, hentry, rfl⟩ := List.mem_map.mp hv
    have hmem := asked_subset n limit recent.entries hentry
    exact leaves_item (hwritable.query entry hmem) (hwritable.time entry hmem)
  refine Json.leaves_object ["ok", "items"] rfl (by decide) ?_
  simp [Json.leaves_bool, hitems]

/-- The body of an answer to a read for more than the store can count. -/
def tooManyBody : Json :=
  .object [("ok", .bool false), ("error", .text "Python int too large to convert to SQLite INTEGER")]

theorem leaves_tooManyBody : tooManyBody.Leaves :=
  Json.leaves_object ["ok", "error"] rfl (by decide)
    (by simp [Json.leaves_bool, Json.leaves_text])

/-- What a read answers: the entries that it asks for, unless it asks for more than can be counted. -/
def readBody (n : Int) (limit : Option Int) (entries : List (Text × Double)) : Json :=
  if fits (Recent.count n limit) then recentBody (Recent.asked n limit entries)
  else tooManyBody

theorem recent_of_shows (h : Shows n recent service) (limit : Option Int) :
    Service.recent service limit = .ok (readBody n limit recent.entries) := by
  rw [Service.recent, History.recent, h.isOpen, readBody, ← count_of_shows h]
  cases hfits : fits (service.history.count limit) with
  | true =>
    rw [if_pos rfl, recentBody, ← map_rowToJson_eq (view_recent h limit)]
    rfl
  | false => rfl

theorem leaves_readBody (hwritable : recent.Writable) (limit : Option Int) :
    (readBody n limit recent.entries).Leaves := by
  rw [readBody]
  split
  · exact leaves_recentBody hwritable limit
  · exact leaves_tooManyBody

/-- A read answers with the queries of which there was an analysis. -/
theorem read_serveAll (hclock : ∀ k, (around.clock k).isFinite = true) {requests : List Request}
    (hunicode : ∀ request ∈ requests,
      ∀ query ∈ request.accepted? .analyses, query.hasSurrogate = false)
    {read : Request} (hread : read.route = .endpoint .recent) {limit : Option Int}
    (hlimit : (Address.ofText read.address).limit? = .ok limit) (n : Int) :
    (serve around (serveAll around { history := { maxItems := n } } requests).1 read).2 =
      .ok (readBody n limit
        (Recent.ofRequests n around.clock Request.analyzed? requests).entries) := by
  have hanalyzed : ∀ request ∈ requests, ∀ query ∈ request.analyzed?, query.hasSurrogate = false := by
    intro request hmem query hquery
    exact hunicode request hmem query (Request.analyzed?_eq_some_iff.mp hquery).1
  have hwritable : (Recent.ofRequests n around.clock Request.analyzed? requests).Writable :=
    Recent.writable_foldl hclock (Recent.writable_empty 0) hanalyzed
  have hshows : Shows n (Recent.ofRequests n around.clock Request.analyzed? requests)
      (serveAll around { history := { maxItems := n } } requests).1 :=
    shows_serveAll (shows_new n) hunicode
  rw [serve_of_route hread, serveAt, hlimit]
  simp only [recent_of_shows hshows limit]
  exact Response.sent_of_leaves rfl (leaves_readBody hwritable limit) _

/-- After any requests to a service with a new history, a read answers with the recent queries that the
requests leave, as many of them as it asks for. Each accepted query is among them in its turn, but for those
for which the model replied with something nested too deeply: where there are none of these, the accepted
queries are all that counts. -/
theorem recent_serveAll (hclock : ∀ k, (around.clock k).isFinite = true) {requests : List Request}
    (hunicode : ∀ request ∈ requests,
      ∀ query ∈ request.accepted? .analyses, query.hasSurrogate = false)
    {read : Request} (hread : read.route = .endpoint .recent) {limit : Option Int}
    (hlimit : (Address.ofText read.address).limit? = .ok limit) (n : Int) :
    (serve around (serveAll around { history := { maxItems := n } } requests).1 read).2 =
        .ok (readBody n limit
          (Recent.ofRequests n around.clock Request.analyzed? requests).entries) ∧
      ((∀ request ∈ requests, Advice.NestsTooDeeply request.model →
          request.accepted? .analyses = none) →
        (serve around (serveAll around { history := { maxItems := n } } requests).1 read).2 =
          .ok (readBody n limit
            (Recent.ofRequests n around.clock (Request.accepted? .analyses) requests).entries)) := by
  have hactual := read_serveAll hclock hunicode hread hlimit n
  refine ⟨hactual, fun hflat => ?_⟩
  rw [hactual, Recent.ofRequests_congr fun request hmem =>
    Request.analyzed?_eq_accepted? (hflat request hmem)]

/-- Requests around a clearing, while the model is of no use: behind it one query comes twice, and one
is rejected. -/
def visits : List Request :=
  let visit (e : Endpoint) (query : Text) : Request := .plain e (Request.bodyWith query)
  [visit .analyses "SELECT z FROM z", visit .clear [], visit .analyses " SELECT a FROM t ",
    visit .analyses "SELECT b FROM u", visit .analyses "DROP TABLE t", visit .explain "SELECT c FROM v",
    visit .analyses " SELECT a FROM t "]

/-- What they leave: the query that came again is first, as it was written, with its later time. -/
def lastVisits : List (Text × Double) :=
  [(" SELECT a FROM t ", .finite false 3), ("SELECT b FROM u", .finite false 2)]

/-- A read without a limit. -/
def readAll : Request := .plain .recent []

theorem recent_serveAll_visits :
    (∀ k, (Surroundings.counting.clock k).isFinite = true) ∧
      (∀ request ∈ visits, ∀ query ∈ request.accepted? .analyses, query.hasSurrogate = false) ∧
      readAll.route = .endpoint .recent ∧ (Address.ofText readAll.address).limit? = .ok none ∧
      (∀ request ∈ visits, Advice.NestsTooDeeply request.model →
        request.accepted? .analyses = none) ∧
      (serve .counting (serveAll .counting { history := { maxItems := 2 } } visits).1 readAll).2 =
        .ok (recentBody lastVisits) := by
  have hclock : ∀ k, (Surroundings.counting.clock k).isFinite = true := fun _ => rfl
  have hunicode : ∀ request ∈ visits,
      ∀ query ∈ request.accepted? .analyses, query.hasSurrogate = false := by decide +kernel
  have hread : readAll.route = .endpoint .recent := Request.route_plain _ _
  have hlimit : (Address.ofText readAll.address).limit? = .ok none := rfl
  have hflat : ∀ request ∈ visits, Advice.NestsTooDeeply request.model →
      request.accepted? .analyses = none := by
    have hraises : ∀ request ∈ visits, request.model = .raises "Timeout" := by decide
    intro request hmem hnests
    rw [hraises request hmem] at hnests
    obtain ⟨content, ⟨⟩, -⟩ := hnests
  have hentries : (Recent.ofRequests 2 Surroundings.counting.clock (Request.accepted? .analyses)
      visits).entries = lastVisits := by decide +kernel
  refine ⟨hclock, hunicode, hread, hlimit, hflat, ?_⟩
  rw [(recent_serveAll hclock hunicode hread hlimit 2).2 hflat, readBody, if_pos (by decide),
    Recent.asked, hentries]

/-- An accepted query of which there is no analysis, since the model replies with too many brackets. -/
def unansweredVisit : Request :=
  { Request.plain .analyses (Request.bodyWith "SELECT id FROM orders") with
    model := Advice.bracketing }

/-- So an accepted query is not always among the recent ones. -/
theorem not_forall_recent_serveAll : ¬ ∀ (around : Surroundings) (requests : List Request)
    (read : Request) (n : Int), (∀ k, (around.clock k).isFinite = true) →
    (∀ request ∈ requests, ∀ query ∈ request.accepted? .analyses, query.hasSurrogate = false) →
    read.route = .endpoint .recent → (Address.ofText read.address).limit? = .ok none →
      (serve around (serveAll around { history := { maxItems := n } } requests).1 read).2 =
        .ok (readBody n none
          (Recent.ofRequests n around.clock (Request.accepted? .analyses) requests).entries) := by
  intro h
  have hnests : Advice.NestsTooDeeply unansweredVisit.model := Advice.nests_bracketing
  have hroute : unansweredVisit.route = .endpoint .analyses :=
    Request.route_plain .analyses (Request.bodyWith "SELECT id FROM orders")
  have haccepted : unansweredVisit.accepted? .analyses = some "SELECT id FROM orders" :=
    Request.accepted?_of_body hroute (by decide +kernel) (by decide +kernel)
  have hunicode : ∀ request ∈ [unansweredVisit],
      ∀ query ∈ request.accepted? .analyses, query.hasSurrogate = false := by
    intro request hmem query hquery
    obtain rfl := List.mem_singleton.mp hmem
    obtain rfl := Option.some.inj (haccepted.symm.trans hquery)
    decide +kernel
  have hread : readAll.route = .endpoint .recent := Request.route_plain _ _
  have hmeant := h .counting [unansweredVisit] readAll 5 (fun _ => rfl) hunicode hread rfl
  rw [read_serveAll (fun _ => rfl) hunicode hread rfl, Recent.ofRequests, Recent.ofRequests,
    List.foldl_cons, List.foldl_cons, Recent.after_of_none (Request.analyzed?_of_nests hnests)
    (by simp [hroute]), Recent.after, haccepted] at hmeant
  have hbody : recentBody [] = recentBody [("SELECT id FROM orders", .finite false 0)] :=
    ResponseBody.json.inj (congrArg Response.body hmeant)
  simp [recentBody, Json.object] at hbody

end QueryAdvisor.Service
