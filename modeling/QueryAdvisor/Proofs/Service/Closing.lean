import QueryAdvisor.Proofs.Service.AnalysisAnswers

/-!
# A service whose history was closed

The history may be closed under a running service, and then it stays closed. Three endpoints have business
with it, and each meets the failure in its own way:

    analyses   the analysis is sent, the failure is logged ─────▶ 200
    recent     the failure is what is sent ─────────────────────▶ 200  ok: false
    clear      nothing is made of the failure ──────────────────▶ 500

So a failure of the history is kept from the request everywhere but where the history is to be cleared.
-/

namespace QueryAdvisor

/-- What happens to a running service. -/
inductive Happening where
  | request (request : Request)
  /-- The history is closed. -/
  | closing

/-! ### Requests that have business with the history -/

/-- The request has business with the history: there is an analysis to be remembered, and nothing is wrong
with it, or the request reads or clears what is remembered. -/
inductive Request.ReachesHistory (request : Request) : Prop where
  | analysis {query : Text} {analysis : Analysis} (accepted : request.accepted? .analyses = some query)
    (returned : (Advice.generate request.model query).result = .ok analysis)
    (legible : ¬ Advice.Garbles request.model)
  | reading (goes : request.route = .endpoint .recent)
  | clearing (goes : request.route = .endpoint .clear)

/-- The response tells of a failure of the history, in the log or to the client, unless the request was
refused before it came to the history. -/
inductive Response.OwnsUp (request : Request) (response : Response) : Prop where
  | logged (answered : response.status = 200) (written : Event.historyFailed ∈ response.events)
  | reported (answered : response.status = 200) (said : response.field? "ok" = some (.bool false))
  | refused {fault : RequestFault} (limit : (Address.ofText request.address).limit? = .error fault)
    (answered : response.status = 422)

theorem Response.OwnsUp.status_ne {request : Request} {response : Response}
    (h : response.OwnsUp request) : response.status ≠ 500 := by
  cases h with
  | logged answered _ => simp [answered]
  | reported answered _ => simp [answered]
  | refused _ answered => simp [answered]

/-! ### Limits can be shown -/

/-- What is no text in UTF-8 without surrogates is replaced. -/
theorem Encoding.hasSurrogate_decodeUtf8Anyway (bytes : Bytes) :
    Text.hasSurrogate (decodeUtf8Anyway bytes) = false := by
  rw [decodeUtf8Anyway]
  split
  · next t h => simpa using (Option.filter_eq_some_iff.mp h).2
  · rw [Text.hasSurrogate, List.any_map, List.any_eq_false]
    intro b _
    have hval : (CodePoint.ofNat (if b < 0x80 then b.toNat else 0xFFFD)).val =
        if b < 0x80 then b.toNat else 0xFFFD := by
      rw [CodePoint.val_ofNat]
      have := b.toNat_lt
      split <;> omega
    simp only [Function.comp_apply, CodePoint.isSurrogate, hval, Bool.and_eq_true, decide_eq_true_eq]
    have := b.toNat_lt
    split <;> omega

theorem Address.hasSurrogate_of_parameter? {t name value : Text}
    (h : (ofText t).parameter? name = some value) : value.hasSurrogate = false := by
  obtain ⟨before, after, hsplit, -⟩ := List.lookup_eq_some_iff.mp h
  have hmem : (name, value) ∈ (ofText t).parameters := by
    rw [← List.mem_reverse, hsplit]
    simp
  obtain ⟨piece, -, hpiece⟩ := List.mem_map.mp hmem
  rw [← (Prod.mk.inj hpiece).2]
  exact Encoding.hasSurrogate_decodeUtf8Anyway _

namespace Service

variable {around : Surroundings} {service : Service} {request : Request}

/-! ### Closed for good -/

/-- What one happening makes of the service. -/
def meet (around : Surroundings) (service : Service) : Happening → Service
  | .request request => (serve around service request).1
  | .closing => service.closeHistory

/-- What is left of the service after some happenings. -/
def after (around : Surroundings) (service : Service) (happenings : List Happening) : Service :=
  happenings.foldl (meet around) service

theorem isOpen_clear (service : Service) : (clear service).1.history.isOpen = service.history.isOpen := by
  obtain ⟨hopen, -⟩ := History.clear_fixed service.history
  rw [← hopen, clear]
  split <;> next hclear => rw [hclear]

/-- No request closes the history, and none opens it again. -/
theorem isOpen_serve (around : Surroundings) (service : Service) (request : Request) :
    (serve around service request).1.history.isOpen = service.history.isOpen := by
  have hserves := serves around service request
  generalize (serve around service request).1 = service',
    (serve around service request).2.work = work at hserves
  cases hserves with
  | analysis _ => exact (History.add_fixed _ _ _).1
  | unfinished _ _ => rfl
  | explanation _ => rfl
  | clearing _ => exact isOpen_clear service
  | nothing _ _ _ => rfl

theorem isOpen_after_iff {happenings : List Happening} :
    (after around service happenings).history.isOpen = true ↔
      service.history.isOpen = true ∧ Happening.closing ∉ happenings := by
  induction happenings generalizing service with
  | nil => simp [after]
  | cons happening rest ih =>
    rw [after, List.foldl_cons, ← after, ih, List.mem_cons, not_or]
    cases happening with
    | request request => simp [meet, isOpen_serve]
    | closing => simp [meet, closeHistory, History.close]

theorem isOpen_after_of_closing {before : List Happening} (h : Happening.closing ∈ before)
    (around : Surroundings) (service : Service) :
    (after around service before).history.isOpen = false := by
  rw [Bool.eq_false_iff]
  intro hopen
  exact (isOpen_after_iff.mp hopen).2 h

/-! ### What is answered then -/

theorem remember_of_closed (h : service.history.isOpen = false) (around : Surroundings) (query : Text) :
    remember around service query = (service, [.historyFailed]) := by
  simp [remember, History.add, History.canStore, h]

theorem ownsUp_analysis (h : service.history.isOpen = false) {query : Text}
    (haccepted : request.accepted? .analyses = some query) {analysis : Analysis}
    (hreturned : (Advice.generate request.model query).result = .ok analysis)
    (hlegible : ¬ Advice.Garbles request.model) : (serve around service request).2.OwnsUp request := by
  obtain ⟨hquery, haccepts⟩ := Request.accepted?_eq_some_iff.mp haccepted
  have hwritable : analysis.toJson.isWritable = true :=
    (Advice.isWritable_generate_iff hreturned).mpr hlegible
  rw [serve_analyses hquery, analyze, Advice.analyze, show Policy.check query = none from haccepts]
  simp only [hreturned, remember_of_closed h]
  rw [Response.sent_analysis rfl, if_pos hwritable]
  exact .logged rfl (by simp)

/-- The answer to a read of a history that is closed. -/
def closedBody : Json :=
  .object [("ok", .bool false), ("error", .text "Cannot operate on a closed database.")]

theorem recent_of_closed (h : service.history.isOpen = false) (limit : Option Int) :
    recent service limit = .ok closedBody := by
  simp only [recent, History.recent, h]
  rfl

theorem leaves_closedBody : closedBody.Leaves :=
  Json.leaves_object ["ok", "error"] rfl (by decide)
    (by simp [Json.leaves_bool, Json.leaves_text])

theorem isWritable_ofText? {text? : Option Text} (h : ∀ t, text? = some t → t.hasSurrogate = false) :
    (Json.ofText? text?).withoutReserved.isWritable = true := by
  cases text? with
  | none => rfl
  | some t => simp [Json.ofText?, Json.withoutReserved, Json.isWritable, h t rfl]

theorem ownsUp_reading (h : service.history.isOpen = false)
    (hroute : request.route = .endpoint .recent) : (serve around service request).2.OwnsUp request := by
  rw [serve_of_route hroute, serveAt]
  cases hlimit : (Address.ofText request.address).limit? with
  | ok limit =>
    simp only [recent_of_closed h]
    rw [Response.sent_of_leaves rfl leaves_closedBody]
    refine .reported rfl ?_
    rw [Response.field?_object rfl]
    rfl
  | error fault =>
    have hshown : (Json.ofText? ((Address.ofText request.address).parameter?
        "limit")).withoutReserved.isWritable = true :=
      isWritable_ofText? fun _ => Address.hasSurrogate_of_parameter?
    refine .refused hlimit ?_
    simp only [Response.sent_misfit hshown]

theorem status_clearing (h : service.history.isOpen = false)
    (hroute : request.route = .endpoint .clear) : (serve around service request).2.status = 500 := by
  rw [serve_of_route hroute, serveAt, clear, History.clear, h, if_neg Bool.false_ne_true,
    Response.sent_of_leaves rfl Response.leaves_internalError]
  rfl

/-- Once the history was closed, whatever else happened before and since, a request that has business with
it is an internal error if and only if it is to clear the history. Every other one is answered, and the
failure is logged or told. -/
theorem status_serve_closed_iff {before : List Happening} (hclosing : Happening.closing ∈ before)
    (hreaches : request.ReachesHistory) (around : Surroundings) (service : Service) :
    ((serve around (after around service before) request).2.status = 500 ↔
        request.route = .endpoint .clear) ∧
      (request.route ≠ .endpoint .clear →
        (serve around (after around service before) request).2.OwnsUp request) := by
  have hclosed := isOpen_after_of_closing hclosing around service
  have howns : request.route ≠ .endpoint .clear →
      (serve around (after around service before) request).2.OwnsUp request := by
    intro hroute
    cases hreaches with
    | analysis accepted returned legible =>
      exact ownsUp_analysis hclosed accepted returned legible
    | reading goes => exact ownsUp_reading hclosed goes
    | clearing goes => exact absurd goes hroute
  refine ⟨⟨?_, status_clearing hclosed⟩, howns⟩
  intro hstatus
  refine Classical.byContradiction fun hroute => ?_
  exact (howns hroute).status_ne hstatus

/-- A visit, and then the history is closed. -/
def untilClosed : List Happening :=
  [.request (.plain .analyses (Request.bodyWith plainQuery)), .closing]

theorem status_serve_closed_iff_clearing : Happening.closing ∈ untilClosed ∧
    (Request.plain .clear []).ReachesHistory ∧
      (serve .counting (after .counting { history := { maxItems := 5 } } untilClosed)
        (.plain .clear [])).2.status = 500 := by
  have hclosing : Happening.closing ∈ untilClosed := by simp [untilClosed]
  have hroute : (Request.plain .clear []).route = .endpoint .clear := Request.route_plain _ _
  refine ⟨hclosing, .clearing hroute, ?_⟩
  exact (status_serve_closed_iff hclosing (.clearing hroute) .counting _).1.mpr hroute

/-- So a failure of the history does fail a request. -/
theorem not_forall_status_serve_closed_ne : ¬ ∀ (around : Surroundings) (service : Service)
    (before : List Happening) (request : Request), Happening.closing ∈ before →
      request.ReachesHistory →
        (serve around (after around service before) request).2.status ≠ 500 := by
  intro h
  have hroute : (Request.plain .clear []).route = .endpoint .clear := Request.route_plain _ _
  have hclosing : Happening.closing ∈ untilClosed := by simp [untilClosed]
  exact h .counting { history := { maxItems := 5 } } untilClosed (.plain .clear []) hclosing
    (.clearing hroute) (status_clearing (isOpen_after_of_closing hclosing _ _) hroute)

end Service

end QueryAdvisor
