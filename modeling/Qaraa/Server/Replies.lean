import Qaraa.Server.TrackedSnapshots

/-!
The replies of a server.

* `Lasting`, `proceed_lasting`, `lasting_run`: **only a lack of capacity can be tried again**.
* `AcceptedBody.named`: the ids of an accepted body are not blank.
* `action_named`: the operation a request calls has the request's id and its session.
* `Reports`, `Succeeds`, `respond_correlated`: what a reply is made of.
* `replies_correlated`: **every reply is that of its request, and its receiver accepts it**.
-/

namespace Qaraa.SessionService

open Fallible Ordered KeyedQueue

variable {options : ServiceOptions} {sessionId : String} {slot : SessionSlot}

/-! ### Errors that can be tried again -/

/-- An error that can be tried again is a lack of capacity. -/
def Lasting (error : ServiceError) : Prop :=
  (safeError error).retryable = true → ∃ resource limit, error = capacityExhausted resource limit

namespace Lasting

lemma once {error : ServiceError} (h : (safeError error).retryable = false) : Lasting error :=
  fun htrue => by
    rw [h] at htrue
    cases htrue

lemma capacity (resource : String) (limit : ℕ) : Lasting (capacityExhausted resource limit) :=
  fun _ => ⟨resource, limit, rfl⟩

/-- The status of an error says whether it can be tried again. -/
lemma status {error : ServiceError} (h : Lasting error) :
    errorStatus (safeError error) = 503 ↔ (safeError error).retryable = true := by
  constructor
  · intro hstatus
    rw [errorStatus] at hstatus
    split at hstatus
    · cases hstatus
    · cases hstatus
    · split at hstatus
      · assumption
      · cases hstatus
    · cases hstatus
  · intro hretryable
    obtain ⟨resource, limit, rfl⟩ := h hretryable
    rfl

end Lasting

lemma assertObservationDomain_lasting (value : JsValue) :
    FailsIn Lasting (assertObservationDomain value) := by
  rw [assertObservationDomain]
  split
  · exact .ok _
  · exact .error (.once rfl)
  · exact .error (.once rfl)

lemma assertCommand_lasting (value : JsValue) (type : String) :
    FailsIn Lasting (assertCommand value type) := by
  rw [assertCommand]
  split
  · exact .error (.once rfl)
  split
  · exact .error (.once rfl)
  rw [assertValidCommand]
  split
  · exact .error (.once rfl)
  split
  · exact (assertObservationDomain_lasting value).bind fun _ _ => .pure _
  · exact .ok _

lemma domainFailure_lasting (error : JsError) (messages : List Pattern)
    {known : QaraaProtocolError} (h : known.retryable = false) :
    Lasting (domainFailure error messages known) := by
  rw [domainFailure]
  split
  · exact .once h
  · exact .once rfl

lemma admitObservation_lasting (command : ObservationSubmitCommand) :
    FailsIn Lasting (admitObservation command) := by
  refine FailsIn.bind ?_ fun _ _ => ?_
  · rw [assertValidObservation]
    split
    · exact .error (.once rfl)
    · exact assertObservationDomain_lasting _
  · rw [assertDomainObservation]
    split
    · exact .error (domainFailure_lasting _ _ rfl)
    · exact .ok _

lemma mapError_lasting {ε α : Type} {report : ε → ServiceError} (h : ∀ e, Lasting (report e))
    (x : Except ε α) : FailsIn Lasting (x.mapError report) := by
  cases x with
  | error e => exact .error (h e)
  | ok a => exact .ok a

lemma corpusFor_lasting (fixedCorpus : Option JsValue) (resolver : Option ResolverAnswer)
    (corpusId : String) : FailsIn Lasting (corpusFor fixedCorpus resolver corpusId) := by
  have hchecks : ∀ corpus : JsValue, FailsIn Lasting (do
      (assertValidCorpus corpus).mapError .protocol
      let checked ← assertDomainCorpus corpus
      failIf (checked.corpusId ≠ corpusId)
        (corpusError "Resolved corpus identifier does not match the request" corpusId)
      return corpus) := by
    intro corpus
    refine FailsIn.bind ?_ fun _ _ => FailsIn.bind ?_ fun _ _ => ?_
    · rw [assertValidCorpus]
      split
      · exact .error (.once rfl)
      · split
        · exact .error (.once rfl)
        · exact .ok _
    · rw [assertDomainCorpus]
      split
      · exact .error (domainFailure_lasting _ _ rfl)
      · split
        · exact .error (.once rfl)
        · exact .ok _
    · exact (FailsIn.failIf fun _ => .once rfl).bind fun _ _ => .pure _
  rw [corpusFor.eq_def]
  dsimp only
  split
  · exact hchecks _
  · exact .error (.once rfl)
  · exact .error (.once rfl)
  · rename_i corpus _
    cases corpus with
    | none => exact .error (.once rfl)
    | some corpus => exact hchecks corpus

lemma createRuntime_lasting (options : ServiceOptions) (command : SessionCreateCommand)
    (answer : ResolverAnswer) : FailsIn Lasting (createRuntime options command answer) := by
  rw [createRuntime]
  refine FailsIn.bind ?_ fun index _ => ?_
  · exact (corpusFor_lasting _ _ _).bind fun corpus _ => mapError_lasting (fun _ => .once rfl) _
  refine (FailsIn.failIf fun _ => .once rfl).bind fun _ _ => ?_
  exact (mapError_lasting (fun _ => .once rfl) _).bind fun _ _ => .pure _

/-! ### What an operation is rejected with -/

/-- A segment rejects its operation with such an error, if it does. -/
def RejectsLasting (x : SessionSlot × (Frame ⊕ Outcome)) : Prop :=
  ∀ error, x.2 = .inr (.error error) → Lasting error

lemma rejectsLasting_rejectWith (slot : SessionSlot) {error : ServiceError} (h : Lasting error) :
    RejectsLasting (rejectWith slot error) := by
  rintro _ ⟨⟩
  exact h

lemma rejectsLasting_read (answer : Answer) (slot : SessionSlot)
    (next : Option SessionRecord → Frame) : RejectsLasting (read answer slot next) := by
  rw [read]
  split
  · rintro _ ⟨⟩
  · exact rejectsLasting_rejectWith slot (.once rfl)

/-- A mutation that only throws such errors. -/
lemma rejectsLasting_update {mutate : SessionRecord → Mutation}
    (hmutate : ∀ record, FailsIn Lasting (mutate record).2) (verdict : StoreVerdict)
    (sessionId requestId : String) (slot : SessionSlot) :
    RejectsLasting (settleUpdate requestId (update verdict sessionId mutate slot)) := by
  have hupdate : FailsIn Lasting (update verdict sessionId mutate slot).2 := by
    rw [update.eq_def]
    split
    · exact .error (.once rfl)
    · rename_i record _
      cases verdict with
      | refused => exact .error (.once rfl)
      | failed => exact .error (.once rfl)
      | committed =>
          have hrecord := hmutate record
          dsimp only
          cases hresult : mutate record with
          | mk after outcome =>
              rw [hresult] at hrecord
              cases outcome with
              | error error => exact hrecord
              | ok stored => exact .ok _
  rw [settleUpdate.eq_def]
  split
  · rintro _ ⟨⟩
  · rename_i after error hresult
    rw [hresult] at hupdate
    exact rejectsLasting_rejectWith after (hupdate error rfl)

lemma resetRecord_lasting (caller : ℕ) (command : SessionResetCommand) (runtime : SessionRuntime)
    (slot : SessionSlot) (record : SessionRecord) :
    FailsIn Lasting (resetRecord caller command runtime slot record).2 := by
  rw [resetRecord]
  split
  · exact .error (.once rfl)
  · exact .ok _

lemma submitRecord_lasting (caller : ℕ) (sessionId : String) (o : CheckedObservation)
    (slot : SessionSlot) (record : SessionRecord) :
    FailsIn Lasting (submitRecord caller sessionId o slot record).2 := by
  rw [submitRecord]
  split
  · exact .ok _
  split
  · exact .error (.once rfl)
  split
  · exact .error (.once rfl)
  split
  · exact .error (.once rfl)
  · dsimp only
    split
    · exact .ok _
    · exact .ok _

/-- **A segment rejects an operation for now only for lack of capacity.** -/
theorem proceed_lasting (options : ServiceOptions) (frame : Frame) (answer : Answer)
    (slot : SessionSlot) : RejectsLasting (proceed options sessionId frame answer slot) := by
  cases frame with
  | create command =>
      rw [proceed]
      split
      · rename_i error herror
        exact rejectsLasting_rejectWith _ (createRuntime_lasting options command _ error herror)
      · rintro _ ⟨⟩
  | createStore command runtime =>
      rw [proceed]
      split
      · split
        · exact rejectsLasting_rejectWith _ (.once rfl)
        · rintro _ ⟨⟩
      · exact rejectsLasting_rejectWith _ (.once rfl)
  | createDone command runtime => rintro _ ⟨⟩
  | get command => exact rejectsLasting_read answer slot _
  | getRead command record =>
      cases record with
      | none => exact rejectsLasting_rejectWith slot (.once rfl)
      | some record => rintro _ ⟨⟩
  | reset caller command =>
      rw [proceed]
      split
      · exact rejectsLasting_rejectWith slot (.once rfl)
      · split
        · exact rejectsLasting_rejectWith slot (.once rfl)
        · exact rejectsLasting_update (resetRecord_lasting caller command _ slot) _ _ _ slot
  | submit caller requestId o =>
      exact rejectsLasting_update (submitRecord_lasting caller sessionId o slot) _ _ _ slot
  | publish requestId snapshot changed => rintro _ ⟨⟩
  | resume command => exact rejectsLasting_read answer slot _
  | resumeRead command record =>
      cases record with
      | none => exact rejectsLasting_rejectWith slot (.once rfl)
      | some record => rintro _ ⟨⟩
  | subscribe listener command => exact rejectsLasting_read answer slot _
  | subscribeRead listener command record =>
      cases record with
      | none => exact rejectsLasting_rejectWith slot (.once rfl)
      | some record =>
          rw [proceed]
          split
          · exact rejectsLasting_rejectWith slot (.capacity _ _)
          · obtain ⟨after, outcome, heq, -, -, -, -, -, sent, stay, -, -, hcases⟩ :=
              addSubscriber_cases answer sessionId listener command record slot
            rw [heq]
            rcases hcases with ⟨-, houtcome, -⟩ | ⟨-, houtcome⟩
            · rw [houtcome]
              rintro _ ⟨⟩
            · rw [houtcome]
              rintro _ ⟨⟩
              exact .once rfl
  | delete command =>
      rw [proceed]
      split
      · rintro _ ⟨⟩
      · exact rejectsLasting_rejectWith slot (.once rfl)
  | deleteDone command deleted =>
      cases deleted with
      | false => exact rejectsLasting_rejectWith slot (.once rfl)
      | true => rintro _ ⟨⟩

/-- The rule of the rejections. -/
lemma lastingRule (options : ServiceOptions) (sessionId : String) :
    Rule (program options) sessionId Called Frame.IsCall (fun _ => True) (fun _ _ => True)
      (fun outcome _ => FailsIn Lasting outcome) where
  call := fun _ _ _ h => h
  start := fun _ _ _ _ => trivial
  next := fun _ _ _ _ _ _ _ _ => trivial
  done := fun _ frame answer slot outcome _ _ hdone =>
    ⟨trivial, fun error heq => by
      subst heq
      exact @proceed_lasting sessionId options frame answer slot error hdone⟩
  kept := fun _ _ _ _ _ _ _ hkept => hkept
  touch := fun _ _ _ _ => trivial
  touchRunning := fun _ _ _ _ _ => trivial
  touchKept := fun _ _ _ _ hkept => hkept

/-- **An operation is rejected for now only for lack of capacity.** -/
theorem lasting_run (options : ServiceOptions) (actions : List ServiceAction) {ticket : ℕ}
    {error : ServiceError}
    (h : (Service.run options State.empty actions).outcome (some ticket) = some (.error error)) :
    Lasting error := by
  obtain ⟨entry, hentry, hresult⟩ := outcome_entry.mp h
  exact (run_rule (lastingRule options entry.key) trivial actions).2.results (ticket, entry)
    (State.mem_queue.mpr ⟨hentry, rfl⟩) _ hresult error rfl

/-! ### The ids of a request -/

/-- The ids of an accepted body are not blank. -/
structure NamedBody (value : JsValue) (type : String) : Prop where
  request : ∃ id, (value.field "requestId").text? = some id ∧ isBlank id = false
  session : type ≠ "session.create" →
    ∃ id, (value.field "sessionId").text? = some id ∧ isBlank id = false

/-- A text that is required is there. -/
lemma text_of_required {name : String} {required : List String}
    {properties : List (String × Schema)} {fields : List (String × JsValue)}
    (hname : name ∈ required) (hproperty : (name, Schema.nonEmptyString) ∈ properties)
    (h : (Schema.object required properties).accepts (.object fields) = true) :
    ∃ id, ((JsValue.object fields).field name).text? = some id ∧ isBlank id = false := by
  have hrequired := h
  rw [Schema.accepts, Bool.and_eq_true, Bool.and_eq_true, List.all_eq_true] at hrequired
  obtain ⟨found, hlookup⟩ := Option.isSome_iff_exists.mp (hrequired.1.1 name hname)
  have htext := Schema.accepts_field h hproperty hlookup
  rw [field_of_lookup hlookup]
  cases found with
  | string text => exact ⟨text, rfl, by simpa [Schema.accepts] using htext⟩
  | _ => simp [Schema.accepts] at htext

/-- The ids of a body about a session. -/
lemma namedBody_session {type type' : String} {required : List String}
    {properties : List (String × Schema)} {fields : List (String × JsValue)}
    (h : (sessionSchema type required properties).accepts (.object fields) = true) :
    NamedBody (.object fields) type' where
  request := text_of_required (List.mem_append_left _ (by simp))
    (List.mem_append_left _ (List.mem_append_left _ (by simp [envelopeProperties]))) h
  session := fun _ => text_of_required (List.mem_append_left _ (by simp))
    (List.mem_append_left _ (List.mem_append_right _ (by simp))) h

lemma AcceptedBody.named {value : JsValue} {type : String} {fields : List (String × JsValue)}
    (h : AcceptedBody value type fields) : NamedBody value type := by
  have hshape := h.shape
  rw [h.object, commandSchema, Schema.accepts, beq_iff_eq] at hshape
  obtain ⟨schema, hmem, haccepts⟩ :=
    exists_of_countAccepts (by rw [hshape]; exact one_ne_zero)
  rw [h.object]
  simp only [List.mem_cons, List.not_mem_nil, or_false] at hmem
  rcases hmem with rfl | rfl | rfl | rfl | rfl | rfl
  · refine ⟨text_of_required (by simp) (List.mem_append_left _ (by simp [envelopeProperties]))
      haccepts, fun hne => absurd ?_ hne⟩
    exact accepts_type (List.mem_append_left _ (by simp [envelopeProperties])) h.type haccepts
  · exact namedBody_session haccepts
  · exact namedBody_session haccepts
  · exact namedBody_session haccepts
  · rw [observationSubmitSchema, Schema.accepts, Bool.and_eq_true] at haccepts
    exact namedBody_session haccepts.1
  · exact namedBody_session haccepts

lemma named_of_checked {value : JsValue} {type : String} (h : assertCommand value type = .ok ()) :
    NamedBody value type := by
  obtain ⟨fields, hbody⟩ := assertCommand_ok h
  exact hbody.named

/-- An id that is made is not blank. -/
lemma HttpRequest.id_notBlank (request : HttpRequest) (uuid : Uuid) :
    isBlank (request.id uuid) = false := by
  have hgiven : ∀ (candidate : Option String) (text : String),
      nonBlank candidate = some text → isBlank text = false := by
    intro candidate text hsome
    rw [nonBlank, Option.filter_eq_some_iff] at hsome
    simpa using hsome.2
  rw [HttpRequest.id]
  cases hbody : nonBlank (request.body.field "requestId").text? with
  | some text => exact hgiven _ _ hbody
  | none =>
      cases hquery : nonBlank request.queryRequestId with
      | some text => exact hgiven _ _ hquery
      | none =>
          cases hheader : nonBlank request.headerRequestId with
          | some text => exact hgiven _ _ hheader
          | none => exact uuid.notBlank

/-- The id of a named body is the id of its request. -/
lemma HttpRequest.id_of_body {request : HttpRequest} {type : String}
    (h : NamedBody request.body type) (uuid : Uuid) :
    request.body.textField "requestId" = request.id uuid := by
  obtain ⟨id, htext, hblank⟩ := h.request
  rw [JsValue.textField, HttpRequest.id, htext, nonBlank, Option.filter_some]
  simp [hblank]

/-! ### The operation of a request -/

/-- The session id of the path. -/
def Route.path : Route → Option String
  | .create => none
  | .get sessionId | .reset sessionId | .observations sessionId | .resume sessionId
  | .delete sessionId => some sessionId

/-- What a route is for. -/
def Route.purpose (requestId : String) : Route → Purpose
  | .create => .create requestId
  | .get _ => .get requestId
  | .reset _ | .observations _ => .change requestId
  | .resume _ => .resume requestId
  | .delete _ => .delete requestId

/-- The operation a route calls, for a request and a session. -/
structure CallNamed (request : HttpRequest) (route : Route) (call : String × Frame) : Prop where
  purpose : call.2.purpose = route.purpose request.commandId
  path : ∀ sessionId ∈ route.path, call.1 = sessionId ∧ isBlank sessionId = false

lemma assertPath_ok {body : JsValue} {sessionId : String} {type : String}
    (hpath : assertPath body sessionId = .ok ()) (hbody : NamedBody body type)
    (htype : type ≠ "session.create") :
    body.textField "sessionId" = sessionId ∧ isBlank sessionId = false := by
  rw [assertPath, failIf_eq_ok, not_not] at hpath
  obtain ⟨id, htext, hblank⟩ := hbody.session htype
  rw [hpath] at htext
  cases htext
  exact ⟨by rw [JsValue.textField, hpath]; rfl, hblank⟩

/-- **The operation a request calls has the request's id and its session.** -/
theorem action_named {request : HttpRequest} {caller : ℕ} {newId : String} {route : Route}
    {action : ServiceAction} (haction : request.action caller newId route = .ok action)
    {call : String × Frame} (hcall : action.call? = some call) :
    CallNamed request route call := by
  -- every command but `session.create` is checked to name a session that is not blank
  have hnaming : ∀ {type sessionId : String}, type ≠ "session.create" →
      assertCommand (request.naming type sessionId) type = .ok () → isBlank sessionId = false := by
    intro type sessionId htype hchecked
    obtain ⟨id, htext, hblank⟩ := (named_of_checked hchecked).session htype
    cases htext
    exact hblank
  cases route with
  | create =>
      rw [HttpRequest.action, bind_eq_ok] at haction
      obtain ⟨_, hchecked, heq⟩ := haction
      cases pure_eq_ok.mp heq
      cases hcall
      refine ⟨?_, fun _ hmem => by cases hmem⟩
      exact congrArg Purpose.create (HttpRequest.id_of_body (named_of_checked hchecked) _)
  | get sessionId =>
      rw [HttpRequest.action, bind_eq_ok] at haction
      obtain ⟨_, hchecked, heq⟩ := haction
      cases pure_eq_ok.mp heq
      cases hcall
      refine ⟨rfl, ?_⟩
      rintro _ ⟨⟩
      exact ⟨rfl, hnaming (by decide) hchecked⟩
  | reset sessionId =>
      rw [HttpRequest.action, bind_eq_ok] at haction
      obtain ⟨_, hchecked, haction⟩ := haction
      rw [bind_eq_ok] at haction
      obtain ⟨_, hpath, heq⟩ := haction
      cases pure_eq_ok.mp heq
      cases hcall
      have hnamed := named_of_checked hchecked
      refine ⟨congrArg Purpose.change (HttpRequest.id_of_body hnamed _), ?_⟩
      rintro _ ⟨⟩
      exact assertPath_ok hpath hnamed (by decide)
  | observations sessionId =>
      rw [HttpRequest.action, bind_eq_ok] at haction
      obtain ⟨_, hchecked, haction⟩ := haction
      rw [bind_eq_ok] at haction
      obtain ⟨_, hpath, heq⟩ := haction
      cases pure_eq_ok.mp heq
      rw [ServiceAction.call?] at hcall
      split at hcall
      · cases hcall
        have hnamed := named_of_checked hchecked
        refine ⟨congrArg Purpose.change (HttpRequest.id_of_body hnamed _), ?_⟩
        rintro _ ⟨⟩
        exact assertPath_ok hpath hnamed (by decide)
      · cases hcall
  | resume sessionId =>
      rw [HttpRequest.action, bind_eq_ok] at haction
      obtain ⟨_, hchecked, haction⟩ := haction
      rw [bind_eq_ok] at haction
      obtain ⟨_, hpath, heq⟩ := haction
      cases pure_eq_ok.mp heq
      cases hcall
      have hnamed := named_of_checked hchecked
      refine ⟨congrArg Purpose.resume (HttpRequest.id_of_body hnamed _), ?_⟩
      rintro _ ⟨⟩
      exact assertPath_ok hpath hnamed (by decide)
  | delete sessionId =>
      rw [HttpRequest.action, bind_eq_ok] at haction
      obtain ⟨_, hchecked, heq⟩ := haction
      cases pure_eq_ok.mp heq
      cases hcall
      refine ⟨rfl, ?_⟩
      rintro _ ⟨⟩
      exact ⟨rfl, hnaming (by decide) hchecked⟩

/-- A request is turned away for now only for lack of capacity. -/
lemma action_lasting (request : HttpRequest) (caller : ℕ) (newId : String) (route : Route) :
    FailsIn Lasting (request.action caller newId route) := by
  have hpath : ∀ body sessionId, FailsIn Lasting (assertPath body sessionId) :=
    fun _ _ => FailsIn.failIf fun _ => .once rfl
  cases route with
  | create => exact (assertCommand_lasting _ _).bind fun _ _ => .pure _
  | get sessionId => exact (assertCommand_lasting _ _).bind fun _ _ => .pure _
  | reset sessionId =>
      exact (assertCommand_lasting _ _).bind fun _ _ => (hpath _ _).bind fun _ _ => .pure _
  | observations sessionId =>
      exact (assertCommand_lasting _ _).bind fun _ _ => (hpath _ _).bind fun _ _ => .pure _
  | resume sessionId =>
      exact (assertCommand_lasting _ _).bind fun _ _ => (hpath _ _).bind fun _ _ => .pure _
  | delete sessionId => exact (assertCommand_lasting _ _).bind fun _ _ => .pure _

lemma refusal_lasting {s : Service} {action : ServiceAction} {error : ServiceError}
    (h : s.refusal options action = some error) : Lasting error := by
  rw [Service.refusal.eq_def] at h
  split at h
  · split at h
    · cases h
      exact .capacity _ _
    · cases h
  · rename_i command
    split at h
    · rename_i error' herror
      cases h
      exact admitObservation_lasting command _ herror
    · cases h
  · cases h

/-! ### The replies -/

/-- The events a reply is sent as. -/
def Reply.events : Reply → List JsValue
  | .created event => [event.toJson]
  | .updated event => [event.toJson]
  | .resumed events => events.map SnapshotUpdatedEvent.toJson
  | .subscribed _ => []
  | .deleted event => [event.toJson]

/-- The reply reports an error under the id of its request, with the status of the error. -/
def Reports (request : HttpRequest) (reply : HttpReply) : Prop :=
  ∃ error : TrustedProtocolError, reply = request.report error ∧
    (reply.status = 503 ↔ error.retryable = true) ∧
    ∀ issues, eventValidator ((error.toEnvelope request.errorId).toJson issues) = true

/-- The reply is the result of what its request asks for, under the id of the request and about
the session of its path. -/
def Succeeds (request : HttpRequest) (reply : HttpReply) : Prop :=
  ∃ route sessionId answer, request.intake = .routed route ∧
    reply = ⟨successStatus route, .ok answer⟩ ∧
    (∀ id ∈ route.path, sessionId = id ∧ isBlank id = false) ∧
    answer.Serves sessionId (route.purpose request.commandId) ∧
    ∀ event ∈ answer.events, eventValidator event = !isBlank sessionId

lemma report_reports (request : HttpRequest) {error : TrustedProtocolError}
    (h : errorStatus error = 503 ↔ error.retryable = true) :
    Reports request (request.report error) := by
  refine ⟨error, rfl, h, fun issues => ?_⟩
  rw [envelope_valid]
  change (!isBlank (request.id request.errorUuid)) = true
  rw [request.id_notBlank]
  rfl

/-- A request is turned away with an error of its own. -/
lemma TurnedAway.reports {s : QaraaServer} {request : HttpRequest} {newId : String}
    {error : TrustedProtocolError} (h : TurnedAway options s request newId error) :
    Reports request (request.report error) := by
  refine report_reports request ?_
  cases h with
  | unrouted _ once =>
      rw [once, errorStatus]
      split <;> simp [once]
  | failed route failure fails => exact (action_lasting request _ newId route failure fails).status
  | refused action failure refusal => exact (refusal_lasting refusal).status

/-- The events that serve a request are accepted, unless the id of their session is blank. -/
lemma Reply.Serves.accepted {route : Route} {requestId : String} {answer : Reply}
    (h : answer.Serves sessionId (route.purpose requestId)) (htracked : answer.Tracked)
    (hid : isBlank requestId = false) :
    ∀ event ∈ answer.events, eventValidator event = !isBlank sessionId := by
  have hupdated : ∀ event : SnapshotUpdatedEvent, OfTracker event.snapshot →
      event.requestId = requestId ∧ event.sessionId = sessionId →
      eventValidator event.toJson = !isBlank sessionId := by
    rintro event hevent ⟨rfl, rfl⟩
    refine (snapshotEvent_valid (by simp [eventBodies]) hevent.accepted _ _).trans ?_
    rw [hid]
    rfl
  cases answer with
  | created event =>
      have hnamed : event.requestId = requestId ∧ event.sessionId = sessionId := by
        cases route with
        | create => exact h
        | _ => exact h.elim
      obtain ⟨rfl, rfl⟩ := hnamed
      intro value hvalue
      rw [List.mem_singleton.mp hvalue]
      refine (snapshotEvent_valid (by simp [eventBodies]) (OfTracker.accepted htracked) _ _).trans
        ?_
      rw [hid]
      rfl
  | updated event =>
      intro value hvalue
      rw [List.mem_singleton.mp hvalue]
      refine hupdated event htracked ?_
      cases route with
      | get _ => exact h
      | reset _ => exact h
      | observations _ => exact h
      | _ => exact h.elim
  | resumed events =>
      intro value hvalue
      obtain ⟨event, hmem, rfl⟩ := List.mem_map.mp hvalue
      refine hupdated event (htracked event hmem) ?_
      cases route with
      | resume _ => exact h event hmem
      | _ => exact h.elim
  | subscribed index => exact fun _ hmem => by cases hmem
  | deleted event =>
      have hnamed : event.requestId = requestId ∧ event.sessionId = sessionId := by
        cases route with
        | delete _ => exact h
        | _ => exact h.elim
      obtain ⟨rfl, rfl⟩ := hnamed
      intro value hvalue
      rw [List.mem_singleton.mp hvalue, deleted_valid, hid]
      rfl

/-- What an operation has ended with is the reply to the request that has called it. -/
lemma respond_correlated (options : ServiceOptions) (actions : List ServerAction) {number : ℕ}
    {exchange : Exchange} {route : Route} {outcome : Outcome}
    (hget : (QaraaServer.run options {} actions).exchanges[number]? = some exchange)
    (hroute : exchange.request.intake = .routed route)
    (houtcome : (QaraaServer.run options {} actions).service.outcome exchange.ticket
      = some outcome) :
    Reports exchange.request (respond exchange.request route outcome) ∨
      Succeeds exchange.request (respond exchange.request route outcome) := by
  cases hticket : exchange.ticket with
  | none =>
      rw [hticket] at houtcome
      cases houtcome
  | some ticket =>
      rw [hticket] at houtcome
      have hwire : ((QaraaServer.run options {} actions).exchanges.map Exchange.wire)[number]?
          = some (exchange.request, some ticket) := by
        rw [List.getElem?_map, hget, ← hticket]
        rfl
      obtain ⟨route', newId, action, call, hrouted, haction, hcall, -, hcalled⟩ :=
        (wired_run options actions).exchanges number exchange.request ticket hwire
      rw [hroute] at hrouted
      cases hrouted
      have hnamed := action_named haction hcall
      obtain ⟨serviceActions, hservice, -⟩ :=
        @run_service options actions [.committed, .refused, .failed] fun action _ => by
          cases action with
          | proceed _ answer => cases h : answer.store <;> simp [ServerAction.onStore, h]
          | _ => rfl
      rw [hservice] at houtcome hcalled
      cases outcome with
      | error error =>
          exact Or.inl (report_reports _ (lasting_run options serviceActions houtcome).status)
      | ok answer =>
          have htracked := (tracked_run options serviceActions).2 ticket answer houtcome
          obtain ⟨entry, hentry, hresult⟩ := outcome_entry.mp houtcome
          have hserves := serves_of_run options serviceActions hentry hresult
          rw [Service.calls_getElem, hentry, Option.map_some, Option.some_inj] at hcalled
          subst hcalled
          rw [hnamed.purpose] at hserves
          exact Or.inr ⟨route, entry.key, answer, hroute, rfl, hnamed.path, hserves,
            hserves.accepted htracked (exchange.request.id_notBlank _)⟩

/-- **Every reply is that of its request.** In every run of a server, whatever its store, its
resolver and its sockets do, a reply is one of two. It reports an error under the id of its request,
with the status of the error's code, which is 503 exactly when the request can be tried again. Or it
is the result of what the request asks for, under the id of the request and about the session of its
path. The check of the receiver accepts all of it, unless a session was created under a blank id. -/
theorem replies_correlated (options : ServiceOptions) (actions : List ServerAction) :
    ∀ exchange ∈ (QaraaServer.run options {} actions).exchanges, ∀ reply,
      exchange.reply = some reply →
        Reports exchange.request reply ∨ Succeeds exchange.request reply := by
  induction actions using List.reverseRecOn with
  | nil => exact fun _ hmem => by cases hmem
  | append_singleton actions action ih =>
      rw [QaraaServer.run_concat]
      have hrespond := @respond_correlated options actions
      generalize QaraaServer.run options {} actions = s at ih hrespond
      have hstep := step_serverStep options s action
      generalize s.step options action = after at hstep
      cases hstep with
      | turnedAway request newId error away =>
          intro exchange hmem reply hreply
          rcases List.mem_append.mp hmem with hold | hnew
          · exact ih exchange hold reply hreply
          · rw [List.mem_singleton.mp hnew] at hreply ⊢
            cases hreply
            exact Or.inl away.reports
      | called request newId route serviceAction routed calls admitted =>
          intro exchange hmem reply hreply
          rcases List.mem_append.mp hmem with hold | hnew
          · exact ih exchange hold reply hreply
          · rw [List.mem_singleton.mp hnew] at hreply
            cases hreply
      | answered number =>
          intro exchange hmem reply hreply
          obtain ⟨i, hget⟩ := List.mem_iff_getElem?.mp hmem
          rw [QaraaServer.answer, List.getElem?_modify] at hget
          obtain ⟨old, hold, heq⟩ := Option.map_eq_some_iff.mp hget
          have hkept : exchange = old → Reports exchange.request reply ∨
              Succeeds exchange.request reply := by
            rintro rfl
            exact ih exchange (List.mem_of_getElem? hold) reply hreply
          split at heq
          · split at heq
            · rename_i route outcome hnone hroute houtcome
              have hanswered := hrespond hold hroute houtcome
              subst heq
              cases hreply
              exact hanswered
            · exact hkept heq.symm
          · exact hkept heq.symm
      | proceeded ticket answer =>
          rw [QaraaServer.proceed]
          split <;> exact ih
      | _ => exact ih

/-- The reply to a submission. -/
theorem replies_correlated_sample :
    ∃ exchange reply,
      (QaraaServer.run singleOptions {} serverSample).exchanges[1]? = some exchange ∧
      exchange.reply = some reply ∧ reply.status = 200 ∧
      (Reports exchange.request reply ∨ Succeeds exchange.request reply) := by
  have hsome : ((QaraaServer.run singleOptions {} serverSample).exchanges[1]?.bind
      Exchange.reply).map HttpReply.status = some 200 := by decide +kernel
  obtain ⟨reply, hbind, hstatus⟩ := Option.map_eq_some_iff.mp hsome
  obtain ⟨exchange, hget, hreply⟩ := Option.bind_eq_some_iff.mp hbind
  exact ⟨exchange, reply, hget, hreply, hstatus, replies_correlated singleOptions serverSample
    exchange (List.mem_of_getElem? hget) reply hreply⟩

end Qaraa.SessionService
