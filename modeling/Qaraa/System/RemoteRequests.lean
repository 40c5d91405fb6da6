import Qaraa.System.RemoteSystem
import Qaraa.Server.Callers

/-!
The requests of a remote session and what the server makes of them.

* `Turn`, `step_turn`: what a step of the system does to the service, the client and the
  requests between them.
* `CalledFor`: the call a request is for.
* `Linked`: what holds of requests, arrivals and operations; `Linked.run`: **in every run**.
* `Linked.late`: a request that arrives after one of a later mutation has been rejected.
-/

namespace Qaraa.Remote

open Ordered KeyedQueue Chronicle Client SessionService

variable {options : SystemOptions} {s s' : RemoteSystem}

/-! ### One step -/

/-- What a step does to all but the sockets. -/
inductive Turn (options : SystemOptions) (s : RemoteSystem) (action : SystemAction)
    (s' : RemoteSystem) : Prop
  | served (call : ServiceAction)
      (ofOthers : (∃ call', action = .serve call' ∧ call = foreign call') ∨
        ∃ listener command, call = .subscribe listener command)
      (service : s'.service = s.service.step options.service call)
      (past : s'.past = s.past ++ [s'.slot options]) (client : s'.client = s.client)
      (arrivals : s'.arrivals = s.arrivals) (rejected : s'.rejected = s.rejected)
  | arrived (request : ℕ) (sent : Request) (found : s.client.requests[request]? = some sent)
      (new : s.hasArrived request = false)
      (service : s'.service = s.service.step options.service (callOf request sent.command))
      (past : s'.past = s.past ++ [s'.slot options]) (client : s'.client = s.client)
      (arrivals : s'.arrivals = s.arrivals ++ [⟨request,
        if (s.service.refusal options.service (callOf request sent.command)).isSome then none
          else some s.service.entries.length, s.past.length⟩])
      (rejected : s'.rejected = s.rejected)
  | turnedAway (request : ℕ) (sent : request < s.client.requests.length)
      (new : s.hasArrived request = false) (service : s'.service = s.service)
      (past : s'.past = s.past) (client : s'.client = s.client)
      (arrivals : s'.arrivals = s.arrivals ++ [⟨request, none, s.past.length⟩])
      (rejected : s'.rejected = s.rejected)
  | stepped (step : RemoteAction) (quiet : ∀ ticket answer, step ≠ .resume ticket answer)
      (service : s'.service = s.service) (past : s'.past = s.past)
      (client : s'.client = s.client.step options.client step)
      (arrivals : s'.arrivals = s.arrivals) (rejected : s'.rejected = s.rejected)
  | resumed (ticket : ℕ) (answer : Client.Answer) (idle : s.awaited options ticket = none)
      (service : s'.service = s.service) (past : s'.past = s.past)
      (client : s'.client = s.client.step options.client (.resume ticket answer))
      (arrivals : s'.arrivals = s.arrivals) (rejected : s'.rejected = s.rejected)
  | lost (ticket : ℕ) (answer : Client.Answer) (request : ℕ)
      (awaited : s.awaited options ticket = some request)
      (response : ∃ retryable, answer.response = .failed retryable)
      (service : s'.service = s.service) (past : s'.past = s.past)
      (client : s'.client = s.client.step options.client (.resume ticket answer))
      (arrivals : s'.arrivals = s.arrivals) (rejected : s'.rejected = s.rejected ++ [request])
  | answered (ticket : ℕ) (answer : Client.Answer) (request : ℕ)
      (awaited : s.awaited options ticket = some request)
      (answers : s.answers request answer.response = true)
      (service : s'.service = s.service) (past : s'.past = s.past)
      (client : s'.client = s.client.step options.client (.resume ticket answer))
      (arrivals : s'.arrivals = s.arrivals) (rejected : s'.rejected = s.rejected)
  | nothing (service : s'.service = s.service) (past : s'.past = s.past)
      (client : s'.client = s.client) (arrivals : s'.arrivals = s.arrivals)
      (rejected : s'.rejected = s.rejected)

lemma Turn.refl (action : SystemAction) : Turn options s action s := .nothing rfl rfl rfl rfl rfl

lemma respond_turn (ticket : ℕ) (answer : Client.Answer) (action : SystemAction) :
    Turn options s action (s.respond options ticket answer) := by
  rw [RemoteSystem.respond]
  dsimp only
  split
  · rename_i hidle
    exact .resumed ticket answer hidle rfl rfl rfl rfl rfl
  · rename_i request hawaited
    split
    · rename_i retryable hresponse
      exact .lost ticket answer request hawaited ⟨retryable, hresponse⟩ rfl rfl rfl rfl rfl
    · split
      · rename_i hanswers
        exact .answered ticket answer request hawaited hanswers rfl rfl rfl rfl rfl
      · exact .refl action

/-- A step of the service, and what else the step does to arrivals and sockets. -/
lemma serve_past (call : ServiceAction) (s : RemoteSystem) :
    (s.serve options call).past = s.past ++ [(s.serve options call).slot options] := rfl

/-- **What a step of the system does.** -/
theorem step_turn (options : SystemOptions) (s : RemoteSystem) (action : SystemAction) :
    Turn options s action (s.step options action) := by
  cases action with
  | serve call =>
      rw [RemoteSystem.step]
      exact .served (foreign call) (Or.inl ⟨call, rfl, rfl⟩) rfl (serve_past _ s) rfl rfl rfl
  | arrive request =>
      rw [RemoteSystem.step, RemoteSystem.arrive]
      split
      · exact .refl _
      · rename_i sent hsent
        split
        · exact .refl _
        · rename_i hnew
          exact .arrived request sent hsent ((Bool.not_eq_true _).mp hnew) rfl (serve_past _ s) rfl
            rfl rfl
  | turnAway request =>
      rw [RemoteSystem.step, RemoteSystem.turnAway]
      split
      · rename_i hgo
        exact .turnedAway request hgo.1 hgo.2 rfl rfl rfl rfl rfl
      · exact .refl _
  | accept generation requestId =>
      rw [RemoteSystem.step, RemoteSystem.accept]
      split
      · exact .refl _
      · split
        · exact .refl _
        · exact .served (.subscribe generation _) (Or.inr ⟨_, _, rfl⟩) rfl (serve_past _ s) rfl
            rfl rfl
  | hangUp generation => exact .nothing rfl rfl rfl rfl rfl
  | receive generation =>
      rw [RemoteSystem.step, RemoteSystem.receive]
      split
      · exact .refl _
      · split
        · exact .refl _
        · rename_i snapshot rest _
          have hquiet : ∀ ticket answer, RemoteAction.socketEvent generation
              (.message (some snapshot)) ≠ .resume ticket answer := fun _ _ h => by cases h
          exact .stepped _ hquiet rfl rfl rfl rfl rfl
  | act action =>
      rw [RemoteSystem.step, RemoteSystem.act.eq_def]
      split
      · exact respond_turn _ _ _
      · exact .refl _
      · rename_i hresume _
        exact .stepped action hresume rfl rfl rfl rfl rfl

/-! ### The request awaited -/

lemma lastRequest_eq {ticket : ℕ} {command : RemoteCommand}
    (h : s.client.requests.getLast? = some ⟨ticket, command⟩) :
    ∃ request, s.lastRequest ticket = some request ∧ request + 1 = s.client.requests.length ∧
      s.client.requests[request]? = some ⟨ticket, command⟩ := by
  obtain ⟨earlier, hrequests⟩ := List.getLast?_eq_some_iff.mp h
  have hlast : s.client.requests[earlier.length]? = some ⟨ticket, command⟩ := by
    rw [hrequests, List.getElem?_concat_length]
  have hlength : earlier.length + 1 = s.client.requests.length := by
    rw [hrequests, List.length_append, List.length_singleton]
  refine ⟨earlier.length, ?_, hlength, hlast⟩
  rw [RemoteSystem.lastRequest, ← hlength, List.range_succ, List.reverse_concat, List.find?_cons,
    hlast]
  simp

/-- The request awaited is the last one, and that of the mutation under way. -/
lemma awaited_some (h : s.client.Tracked options.client) {ticket request : ℕ}
    (hawaited : s.awaited options ticket = some request) :
    ∃ frame command, s.client.Runs ticket frame ∧
      frame.awaited options.client = some command ∧
      request + 1 = s.client.requests.length ∧
      s.client.requests[request]? = some ⟨ticket, command⟩ := by
  rw [RemoteSystem.awaited] at hawaited
  split at hawaited
  · rename_i key call previous frame hentry
    split at hawaited
    · rename_i hsome
      obtain ⟨command, hcommand⟩ := Option.isSome_iff_exists.mp hsome
      have hruns : s.client.Runs ticket frame := ⟨key, call, previous, hentry⟩
      obtain ⟨request', hlast, hlength, hfound⟩ :=
        lastRequest_eq (h.requested.awaiting ticket frame command hruns hcommand)
      obtain rfl : request' = request := Option.some.inj (hlast.symm.trans hawaited)
      exact ⟨frame, command, hruns, hcommand, hlength, hfound⟩
    · cases hawaited
  · cases hawaited

lemma awaited_none (h : s.client.Tracked options.client) {ticket : ℕ}
    (hawaited : s.awaited options ticket = none) {frame : Client.Mutation}
    (hruns : s.client.Runs ticket frame) : frame.awaited options.client = none := by
  by_contra hsome
  obtain ⟨command, hcommand⟩ := Option.ne_none_iff_exists'.mp hsome
  obtain ⟨request, hlast, -⟩ :=
    lastRequest_eq (h.requested.awaiting ticket frame command hruns hcommand)
  obtain ⟨key, call, previous, hentry⟩ := hruns
  rw [RemoteSystem.awaited, hentry] at hawaited
  dsimp only at hawaited
  rw [hcommand, Option.isSome_some, if_pos rfl, hlast] at hawaited
  cases hawaited

lemma hasArrived_iff {request : ℕ} :
    s.hasArrived request = true ↔ ∃ arrival ∈ s.arrivals, arrival.request = request := by
  rw [RemoteSystem.hasArrived, List.any_eq_true]
  simp

/-- What is answered has arrived. -/
lemma answers_arrived {request : ℕ} {response : Response}
    (h : s.answers request response = true) : s.hasArrived request = true := by
  rw [RemoteSystem.answers, List.any_eq_true] at h
  obtain ⟨arrival, hmem, hanswer⟩ := h
  rw [Bool.and_eq_true, beq_iff_eq] at hanswer
  exact hasArrived_iff.mpr ⟨arrival, hmem, hanswer.1⟩

lemma reports_updated {snapshot : ReadingSnapshot} {outcome : Option SessionService.Outcome}
    (h : reports (.updated snapshot) outcome = true) :
    ∃ event, outcome = some (.ok (.updated event)) ∧ snapshot = event.snapshot := by
  cases outcome with
  | none => cases h
  | some outcome =>
      cases outcome with
      | error error => cases h
      | ok reply =>
          cases reply with
          | updated event => exact ⟨event, rfl, beq_iff_eq.mp h⟩
          | _ => cases h

/-- A snapshot is answered by the operation of the request. -/
lemma answers_updated {request : ℕ} {snapshot : ReadingSnapshot}
    (h : s.answers request (.updated snapshot) = true) :
    ∃ arrival ∈ s.arrivals, arrival.request = request ∧ ∃ ticket entry event,
      arrival.ticket = some ticket ∧ s.service.entries[ticket]? = some entry ∧
        entry.phase.result = some (.ok (.updated event)) ∧ snapshot = event.snapshot := by
  rw [RemoteSystem.answers, List.any_eq_true] at h
  obtain ⟨arrival, hmem, hanswer⟩ := h
  rw [Bool.and_eq_true, beq_iff_eq] at hanswer
  refine ⟨arrival, hmem, hanswer.1, ?_⟩
  have hreports := hanswer.2
  split at hreports
  · cases hreports
  · rename_i ticket hticket
    split at hreports
    · rename_i outcome houtcome
      obtain ⟨entry, hentry, hresult⟩ := Option.bind_eq_some_iff.mp houtcome
      obtain ⟨event, heq, hsnapshot⟩ := reports_updated hreports
      exact ⟨ticket, entry, event, hticket, hentry, hresult.trans heq, hsnapshot⟩
    · cases hreports

/-! ### Calls -/

/-- The call a request is for. -/
def CalledFor (request : ℕ) : RemoteCommand → Frame → Prop
  | .submit command, frame => ∃ o, admitObservation command = .ok o ∧
      frame = .submit (own request) command.requestId o
  | .reset command, frame => frame = .reset (own request) command

lemma own_injective {request request' : ℕ} (h : own request = own request') :
    request = request' := by
  rw [own, own] at h
  omega

lemma own_ne_even (request n : ℕ) : own request ≠ 2 * n := by
  rw [own]
  omega

lemma CalledFor.caller {request : ℕ} {command : RemoteCommand} {frame : Frame}
    (h : CalledFor request command frame) : frame.caller = some (own request) := by
  cases command with
  | submit command =>
      obtain ⟨o, -, rfl⟩ := h
      rfl
  | reset command =>
      cases h
      rfl

/-- A reset makes its change. -/
lemma CalledFor.resets {request : ℕ} {command : RemoteCommand} {frame : Frame}
    (h : CalledFor request command frame) (hkind : command.kind = some .reset) :
    frame.Makes (.reset (own request)) := by
  cases command with
  | submit command =>
      rw [RemoteCommand.kind] at hkind
      split at hkind <;> cases hkind
  | reset command =>
      cases h
      rfl

/-- A submission makes its observation accepted. -/
lemma CalledFor.accepts {request : ℕ} {command : RemoteCommand} {frame : Frame}
    (h : CalledFor request command frame) {observationId : String}
    (hkind : command.kind = some (.submission observationId)) :
    frame.Makes (.accepted (own request) observationId) := by
  cases command with
  | submit command =>
      obtain ⟨o, hadmission, rfl⟩ := h
      rw [RemoteCommand.kind, admitObservation_id hadmission] at hkind
      cases hkind
      rfl
  | reset command => cases hkind

/-- A request calls its operation, unless it is refused at once. -/
lemma callOf_calls (service : Service) (request : ℕ) (command : RemoteCommand) :
    ((service.refusal options.service (callOf request command)).isSome = true ∧
      service.newCalls options.service (callOf request command) = []) ∨
    service.refusal options.service (callOf request command) = none ∧
      ∃ frame, CalledFor request command frame ∧
        service.newCalls options.service (callOf request command)
          = [(command.sessionId, frame)] := by
  cases command with
  | reset command =>
      refine Or.inr ⟨rfl, .reset (own request) command, rfl, ?_⟩
      rw [Service.newCalls, Service.queueActions.eq_def]
      rfl
  | submit command =>
      cases hadmission : admitObservation command with
      | error error =>
          have hrefusal : service.refusal options.service (callOf request (.submit command))
              = some error := by
            rw [callOf, Service.refusal, hadmission]
          refine Or.inl ⟨by rw [hrefusal]; rfl, ?_⟩
          rw [Service.newCalls, Service.queueActions.eq_def, hrefusal]
          rfl
      | ok o =>
          have hrefusal : service.refusal options.service (callOf request (.submit command))
              = none := by
            rw [callOf, Service.refusal, hadmission]
          refine Or.inr
            ⟨hrefusal, .submit (own request) command.requestId o, ⟨o, hadmission, rfl⟩, ?_⟩
          rw [Service.newCalls, Service.queueActions.eq_def, hrefusal, callOf]
          dsimp only [Option.isSome_none]
          rw [hadmission]
          rfl

/-- Somebody else does not call under the number of a request. -/
lemma foreign_calls (service : Service) (action : ServiceAction) {key : String} {frame : Frame}
    (h : (key, frame) ∈ service.newCalls options.service (foreign action)) (request : ℕ) :
    frame.caller ≠ some (own request) := by
  rw [Service.newCalls, Service.queueActions.eq_def] at h
  split at h
  · cases h
  · cases action with
    | create sessionId command =>
        cases List.mem_singleton.mp h
        exact fun heq => by cases heq
    | get command =>
        cases List.mem_singleton.mp h
        exact fun heq => by cases heq
    | reset caller command =>
        cases List.mem_singleton.mp h
        exact fun heq => own_ne_even request caller (Option.some.inj heq).symm
    | submit caller command =>
        dsimp only [foreign] at h
        split at h
        · cases List.mem_singleton.mp h
          exact fun heq => own_ne_even request caller (Option.some.inj heq).symm
        · cases h
    | resume command =>
        cases List.mem_singleton.mp h
        exact fun heq => by cases heq
    | subscribe listener command =>
        cases List.mem_singleton.mp h
        exact fun heq => by cases heq
    | delete command =>
        cases List.mem_singleton.mp h
        exact fun heq => by cases heq
    | unsubscribe sessionId index => cases h
    | start ticket => cases h
    | proceed ticket answer => cases h
    | drain ticket => cases h
    | clean ticket => cases h

/-- A subscription has no number. -/
lemma subscribe_calls (service : Service) (listener : ℕ) (command : SessionResumeCommand)
    {key : String} {frame : Frame}
    (h : (key, frame) ∈ service.newCalls options.service (.subscribe listener command))
    (request : ℕ) : frame.caller ≠ some (own request) :=
  foreign_calls service (.subscribe listener command) h request

/-! ### Requests, arrivals and operations -/

/-- An item of a list stays where it is when the list grows. -/
lemma getElem?_prefixed {α : Type} {xs ys : List α} (h : xs <+: ys) {i : ℕ} (hi : i < xs.length) :
    ys[i]? = xs[i]? := by
  obtain ⟨more, rfl⟩ := h
  exact List.getElem?_append_left hi

lemma getElem?_prefixed_some {α : Type} {xs ys : List α} (h : xs <+: ys) {i : ℕ} {x : α}
    (hx : xs[i]? = some x) : ys[i]? = some x :=
  (getElem?_prefixed h (List.getElem?_eq_some_iff.mp hx).1).trans hx

/-- What becomes of a request: its fetch is rejected, it arrives, or it is the last one and its
answer is awaited. -/
def Resolved (options : SystemOptions) (s : RemoteSystem) (request : ℕ) : Prop :=
  request ∈ s.rejected ∨ s.hasArrived request = true ∨
    request + 1 = s.client.requests.length ∧ ¬s.client.Idle options.client

/-- A request of an earlier mutation than that of one which has arrived has been rejected. -/
def LateRejected (s : RemoteSystem) (earlier later : Arrival) : Prop :=
  ∀ x y, s.client.requests[earlier.request]? = some x →
    s.client.requests[later.request]? = some y → y.ticket < x.ticket → later.request ∈ s.rejected

/-- The client, its requests and the operations they have become belong together. -/
structure Linked (options : SystemOptions) (s : RemoteSystem) : Prop where
  tracked : s.client.Tracked options.client
  leading : Leading s.service options.client.sessionId
  present : s.past.getLast? = some (s.slot options)
  sent : ∀ arrival ∈ s.arrivals,
    arrival.request < s.client.requests.length ∧ arrival.since ≤ s.past.length
  called : ∀ arrival ∈ s.arrivals, ∀ ticket, arrival.ticket = some ticket →
    ∃ sent frame, s.client.requests[arrival.request]? = some sent ∧
      CalledFor arrival.request sent.command frame ∧
        s.service.calls[ticket]? = some (options.client.sessionId, frame)
  owners : ∀ ticket key frame request, s.service.calls[ticket]? = some (key, frame) →
    frame.caller = some (own request) →
      ∃ arrival ∈ s.arrivals, arrival.request = request ∧ arrival.ticket = some ticket
  inTurn : s.arrivals.Pairwise fun earlier later => ∀ ticket ticket',
    earlier.ticket = some ticket → later.ticket = some ticket' → ticket < ticket'
  resolved : ∀ request < s.client.requests.length, Resolved options s request
  late : s.arrivals.Pairwise (LateRejected s)

namespace Linked

lemma hasArrived_congr (h : s'.arrivals = s.arrivals) (request : ℕ) :
    s'.hasArrived request = s.hasArrived request := by
  rw [RemoteSystem.hasArrived, RemoteSystem.hasArrived, h]

/-- The service goes on without a request. -/
lemma served (h : Linked options s) {call : ServiceAction}
    (hothers : ∀ key frame, (key, frame) ∈ s.service.newCalls options.service call →
      ∀ request, frame.caller ≠ some (own request))
    (hservice : s'.service = s.service.step options.service call)
    (hpast : s'.past = s.past ++ [s'.slot options]) (hclient : s'.client = s.client)
    (harrivals : s'.arrivals = s.arrivals) (hrejected : s'.rejected = s.rejected) :
    Linked options s' where
  tracked := hclient ▸ h.tracked
  leading := hservice ▸ h.leading.step options.service call
  present := by rw [hpast, List.getLast?_concat]
  sent := by
    intro arrival hmem
    rw [harrivals] at hmem
    obtain ⟨hsent, hsince⟩ := h.sent arrival hmem
    rw [hclient, hpast, List.length_append]
    exact ⟨hsent, hsince.trans (Nat.le_add_right _ _)⟩
  called := by
    intro arrival hmem ticket hticket
    rw [harrivals] at hmem
    obtain ⟨sent, frame, hsent, hcalled, hcall⟩ := h.called arrival hmem ticket hticket
    rw [hclient, hservice, Service.calls_step]
    refine ⟨sent, frame, hsent, hcalled, ?_⟩
    rw [List.getElem?_append_left (List.getElem?_eq_some_iff.mp hcall).1, hcall]
  owners := by
    intro ticket key frame request hcall hcaller
    rw [hservice, Service.calls_step, List.getElem?_append] at hcall
    rw [harrivals]
    split at hcall
    · exact h.owners ticket key frame request hcall hcaller
    · exact absurd hcaller (hothers key frame (List.mem_of_getElem? hcall) request)
  inTurn := harrivals ▸ h.inTurn
  resolved := by
    intro request hlt
    rw [hclient] at hlt
    have hresolved := h.resolved request hlt
    rw [Resolved, hrejected, hasArrived_congr harrivals, hclient]
    exact hresolved
  late := by
    rw [harrivals]
    refine h.late.imp fun {earlier later} hlate x y hx hy hlt => ?_
    rw [hclient] at hx hy
    rw [hrejected]
    exact hlate x y hx hy hlt

/-- A request that arrives now, while one of a later mutation has arrived, has been rejected. -/
lemma lateRejected (h : Linked options s) {request : ℕ} (hsent : request < s.client.requests.length)
    (hnew : s.hasArrived request = false) {earlier later : Arrival} (hmem : earlier ∈ s.arrivals)
    (hlater : later.request = request) : LateRejected s earlier later := by
  intro x y hx hy hlt
  rw [hlater] at hy ⊢
  rcases h.resolved request hsent with hrejected | harrived | ⟨hlast, -⟩
  · exact hrejected
  · rw [hnew] at harrived
    cases harrived
  · have hle : earlier.request ≤ request := by
      have := (h.sent earlier hmem).1
      omega
    rcases hle.lt_or_eq with hbefore | heq
    · exact absurd (h.tracked.inTurn hx hy hbefore) (not_le.mpr hlt)
    · rw [heq, hy] at hx
      cases hx
      exact absurd hlt (lt_irrefl _)

/-- A request arrives. -/
lemma arrivedAt (h : Linked options s) {request : ℕ}
    (hsent : request < s.client.requests.length) (hnew : s.hasArrived request = false)
    {ticket : Option ℕ} (hleading : Leading s'.service options.client.sessionId)
    (hpresent : s'.past.getLast? = some (s'.slot options)) (hpast : s.past.length ≤ s'.past.length)
    (hcalls : s.service.calls <+: s'.service.calls)
    (hcalled : ∀ t, ticket = some t → t = s.service.calls.length ∧ ∃ sent frame,
      s.client.requests[request]? = some sent ∧ CalledFor request sent.command frame ∧
        s'.service.calls[t]? = some (options.client.sessionId, frame))
    (howners : ∀ t key frame other, s.service.calls.length ≤ t →
      s'.service.calls[t]? = some (key, frame) → frame.caller = some (own other) →
        other = request ∧ ticket = some t)
    (hclient : s'.client = s.client)
    (harrivals : s'.arrivals = s.arrivals ++ [⟨request, ticket, s.past.length⟩])
    (hrejected : s'.rejected = s.rejected) : Linked options s' where
  tracked := hclient ▸ h.tracked
  leading := hleading
  present := hpresent
  sent := by
    intro arrival hmem
    rw [harrivals] at hmem
    rw [hclient]
    rcases List.mem_append.mp hmem with hmem | hmem
    · exact ⟨(h.sent arrival hmem).1, (h.sent arrival hmem).2.trans hpast⟩
    · rw [List.mem_singleton.mp hmem]
      exact ⟨hsent, hpast⟩
  called := by
    intro arrival hmem t ht
    rw [harrivals] at hmem
    rw [hclient]
    rcases List.mem_append.mp hmem with hmem | hmem
    · obtain ⟨sent, frame, hfound, hfor, hcall⟩ := h.called arrival hmem t ht
      exact ⟨sent, frame, hfound, hfor, getElem?_prefixed_some hcalls hcall⟩
    · rw [List.mem_singleton.mp hmem] at ht ⊢
      exact (hcalled t ht).2
  owners := by
    intro t key frame other hcall hcaller
    rw [harrivals]
    -- an operation called before has its owner already, a new one is that of this arrival
    by_cases hold : t < s.service.calls.length
    · rw [getElem?_prefixed hcalls hold] at hcall
      obtain ⟨arrival, hmem, hrequest, hticket⟩ := h.owners t key frame other hcall hcaller
      exact ⟨arrival, List.mem_append_left _ hmem, hrequest, hticket⟩
    · obtain ⟨rfl, hticket⟩ := howners t key frame other (not_lt.mp hold) hcall hcaller
      exact ⟨_, List.mem_append_right _ (List.mem_singleton_self _), rfl, hticket⟩
  inTurn := by
    rw [harrivals, List.pairwise_append]
    refine ⟨h.inTurn, List.pairwise_singleton _ _, fun earlier hmem later hlater t t' ht ht' => ?_⟩
    rw [List.mem_singleton.mp hlater] at ht'
    obtain ⟨_, _, _, _, hcall⟩ := h.called earlier hmem t ht
    have := (List.getElem?_eq_some_iff.mp hcall).1
    rw [(hcalled t' ht').1]
    exact this
  resolved := by
    intro other hlt
    rw [hclient] at hlt
    have harrived : s.hasArrived other = true → s'.hasArrived other = true := by
      rw [hasArrived_iff, hasArrived_iff, harrivals]
      rintro ⟨arrival, hmem, heq⟩
      exact ⟨arrival, List.mem_append_left _ hmem, heq⟩
    have hresolved := h.resolved other hlt
    rw [Resolved, hrejected, hclient]
    exact hresolved.imp_right (Or.imp_left harrived)
  late := by
    have hold : ∀ {earlier later : Arrival}, LateRejected s earlier later →
        LateRejected s' earlier later := by
      intro earlier later hlate x y hx hy hlt
      rw [hclient] at hx hy
      rw [hrejected]
      exact hlate x y hx hy hlt
    rw [harrivals, List.pairwise_append]
    refine ⟨h.late.imp hold, List.pairwise_singleton _ _, fun earlier hmem later hlater => hold ?_⟩
    rw [List.mem_singleton.mp hlater]
    -- a request that arrives out of order is one whose fetch was rejected
    exact h.lateRejected hsent hnew hmem rfl

/-- The client goes on. -/
lemma stepped (h : Linked options s) (htracked : s'.client.Tracked options.client)
    (hservice : s'.service = s.service) (hpast : s'.past = s.past)
    (harrivals : s'.arrivals = s.arrivals)
    (hrequests : s.client.requests <+: s'.client.requests)
    (hrejected : ∀ request ∈ s.rejected, request ∈ s'.rejected)
    (hresolved : ∀ request < s'.client.requests.length, Resolved options s' request) :
    Linked options s' where
  tracked := htracked
  leading := hservice ▸ h.leading
  present := by
    rw [hpast, RemoteSystem.slot, hservice]
    exact h.present
  sent := by
    intro arrival hmem
    rw [harrivals] at hmem
    rw [hpast]
    exact ⟨(h.sent arrival hmem).1.trans_le hrequests.length_le, (h.sent arrival hmem).2⟩
  called := by
    intro arrival hmem t ht
    rw [harrivals] at hmem
    rw [hservice]
    obtain ⟨sent, frame, hfound, hfor, hcall⟩ := h.called arrival hmem t ht
    exact ⟨sent, frame, getElem?_prefixed_some hrequests hfound, hfor, hcall⟩
  owners := by
    rw [hservice, harrivals]
    exact h.owners
  inTurn := harrivals ▸ h.inTurn
  resolved := hresolved
  late := by
    rw [harrivals]
    refine h.late.imp_of_mem fun {earlier later} hearlier hlater hlate x y hx hy hlt => ?_
    rw [getElem?_prefixed hrequests (h.sent earlier hearlier).1] at hx
    rw [getElem?_prefixed hrequests (h.sent later hlater).1] at hy
    exact hrejected _ (hlate x y hx hy hlt)

/-- A mutation that awaits no request goes on. -/
lemma resumed (h : Linked options s) {ticket : ℕ} {answer : Client.Answer}
    (hidle : s.awaited options ticket = none) (hservice : s'.service = s.service)
    (hpast : s'.past = s.past)
    (hclient : s'.client = s.client.step options.client (.resume ticket answer))
    (harrivals : s'.arrivals = s.arrivals) (hrejected : s'.rejected = s.rejected) :
    Linked options s' := by
  have htracked := hclient ▸ h.tracked.step (.resume ticket answer)
  have hturned : RemoteSession.Turned options.client ticket answer s.client s'.client :=
    hclient ▸ RemoteSession.resume_turned h.tracked.sound.inOrder ticket answer
  have hnone : ∀ {frame}, s.client.Runs ticket frame → frame.awaited options.client = none :=
    awaited_none h.tracked hidle
  have hnotIdle : ∀ {frame}, s.client.Runs ticket frame → s.client.Idle options.client := by
    intro frame hruns other frame' hruns'
    obtain rfl := h.tracked.sound.inOrder.unique hruns hruns'
    exact hnone hruns'
  -- while the mutation under way awaits nothing, all requests have been resolved
  have hall : ∀ {frame}, s.client.Runs ticket frame → ∀ request < s.client.requests.length,
      Resolved options s' request := by
    intro frame hruns request hlt
    rw [Resolved, hrejected, hasArrived_congr harrivals]
    rcases h.resolved request hlt with hresolved | hresolved | ⟨-, hbusy⟩
    · exact Or.inl hresolved
    · exact Or.inr (Or.inl hresolved)
    · exact absurd (hnotIdle hruns) hbusy
  -- a step that sends nothing leaves the requests as they are
  have hkeep : ∀ {frame}, s.client.Runs ticket frame → s'.client.requests = s.client.requests →
      Linked options s' := by
    intro frame hruns hrequests
    refine h.stepped htracked hservice hpast harrivals (hrequests ▸ List.prefix_refl _)
      (fun request hmem => hrejected ▸ hmem) fun request hlt => ?_
    rw [hrequests] at hlt
    exact hall hruns request hlt
  cases hturned with
  | calm hcalm _ =>
      refine h.stepped htracked hservice hpast harrivals (hcalm.requests ▸ List.prefix_refl _)
        (fun request hmem => hrejected ▸ hmem) fun request hlt => ?_
      rw [hcalm.requests] at hlt
      rw [Resolved, hrejected, hasArrived_congr harrivals, hcalm.requests, hcalm.idle_iff]
      exact h.resolved request hlt
  | sent frame next command hruns _ hgoes hawaits _ hrequests _ =>
      refine h.stepped htracked hservice hpast harrivals (hrequests ▸ List.prefix_append _ _)
        (fun request hmem => hrejected ▸ hmem) fun request hlt => ?_
      rw [hrequests, List.length_append, List.length_singleton] at hlt
      rcases Nat.lt_succ_iff_lt_or_eq.mp hlt with hlt | rfl
      · exact hall hruns request hlt
      -- the request just sent is the one awaited
      · refine Or.inr (Or.inr ⟨by rw [hrequests, List.length_append, List.length_singleton], ?_⟩)
        intro hidle'
        rw [hidle' ticket next hgoes] at hawaits
        cases hawaits
  | remembered o hruns _ _ hrequests _ _ => exact hkeep hruns hrequests
  | rejected frame error hruns _ hrequests _ _ => exact hkeep hruns hrequests
  | waits frame command hruns _ _ hrequests _ _ => exact hkeep hruns hrequests
  | succeeded frame command next mid hruns _ _ _ hrequests _ _ => exact hkeep hruns hrequests

/-- The answer a mutation awaits comes, or its fetch is rejected. -/
lemma answered (h : Linked options s) {ticket request : ℕ} {answer : Client.Answer}
    (hawaited : s.awaited options ticket = some request) (hservice : s'.service = s.service)
    (hpast : s'.past = s.past)
    (hclient : s'.client = s.client.step options.client (.resume ticket answer))
    (harrivals : s'.arrivals = s.arrivals) (hrejected : ∀ other ∈ s.rejected, other ∈ s'.rejected)
    (hrequest : request ∈ s'.rejected ∨ s.hasArrived request = true) : Linked options s' := by
  have htracked := hclient ▸ h.tracked.step (.resume ticket answer)
  obtain ⟨frame, command, hruns, hcommand, hlast, -⟩ := awaited_some h.tracked hawaited
  have hturned : RemoteSession.Turned options.client ticket answer s.client s'.client :=
    hclient ▸ RemoteSession.resume_turned h.tracked.sound.inOrder ticket answer
  have hrequests := hturned.requests_of_awaited hruns hcommand
  refine h.stepped htracked hservice hpast harrivals (hrequests ▸ List.prefix_refl _) hrejected
    fun other hlt => ?_
  rw [hrequests] at hlt
  rw [Resolved, hasArrived_congr harrivals]
  rcases h.resolved other hlt with hresolved | hresolved | ⟨hother, -⟩
  · exact Or.inl (hrejected other hresolved)
  · exact Or.inr (Or.inl hresolved)
  · obtain rfl : other = request := by omega
    exact hrequest.imp_right Or.inl

/-- **Every step of the system keeps requests, arrivals and operations linked.** -/
theorem step (h : Linked options s) (action : SystemAction) :
    Linked options (s.step options action) := by
  have hturn := step_turn options s action
  generalize s.step options action = s' at hturn ⊢
  cases hturn with
  | served call hothers hservice hpast hclient harrivals hrejected =>
      refine h.served (fun key frame hmem request => ?_) hservice hpast hclient harrivals hrejected
      rcases hothers with ⟨call', -, rfl⟩ | ⟨listener, command, rfl⟩
      · exact foreign_calls s.service call' hmem request
      · exact subscribe_calls s.service listener command hmem request
  | arrived request sent hfound hnew hservice hpast hclient harrivals hrejected =>
      have hsent := (List.getElem?_eq_some_iff.mp hfound).1
      have hleading : Leading s'.service options.client.sessionId :=
        hservice ▸ h.leading.step options.service _
      have hcalls : s'.service.calls = s.service.calls
          ++ s.service.newCalls options.service (callOf request sent.command) := by
        rw [hservice, Service.calls_step]
      have hpresent : s'.past.getLast? = some (s'.slot options) := by
        rw [hpast, List.getLast?_concat]
      have hlonger : s.past.length ≤ s'.past.length := by
        rw [hpast, List.length_append]
        exact Nat.le_add_right _ _
      -- the service refuses the request, or it becomes the next operation
      rcases @callOf_calls options s.service request sent.command with
        ⟨hrefused, hnone⟩ | ⟨hadmitted, frame, hfor, hone⟩
      · rw [if_pos hrefused] at harrivals
        rw [hnone, List.append_nil] at hcalls
        refine h.arrivedAt hsent hnew hleading hpresent hlonger (hcalls ▸ List.prefix_refl _)
          (fun t ht => by cases ht) (fun t key frame other hle hcall _ => ?_) hclient harrivals
          hrejected
        rw [hcalls] at hcall
        exact absurd (List.getElem?_eq_some_iff.mp hcall).1 (not_lt.mpr hle)
      · rw [if_neg (by rw [hadmitted]; exact Bool.false_ne_true)] at harrivals
        rw [hone] at hcalls
        have hkey : sent.command.sessionId = options.client.sessionId :=
          h.tracked.requested.session sent (List.mem_of_getElem? hfound)
        have hnewCall : s'.service.calls[s.service.calls.length]?
            = some (options.client.sessionId, frame) := by
          rw [hcalls, List.getElem?_concat_length, hkey]
        refine h.arrivedAt hsent hnew hleading hpresent hlonger (hcalls ▸ List.prefix_append _ _)
          (fun t ht => ?_) (fun t key frame' other hle hcall hcaller => ?_) hclient harrivals
          hrejected
        · obtain rfl : s.service.entries.length = t := Option.some.inj ht
          rw [← Service.calls_length]
          exact ⟨rfl, sent, frame, hfound, hfor, hnewCall⟩
        · have hlt := (List.getElem?_eq_some_iff.mp hcall).1
          rw [hcalls, List.length_append, List.length_singleton] at hlt
          obtain rfl : t = s.service.calls.length := by omega
          rw [hnewCall] at hcall
          cases hcall
          rw [hfor.caller] at hcaller
          exact ⟨own_injective (Option.some.inj hcaller).symm, by rw [Service.calls_length]⟩
  | turnedAway request hsent hnew hservice hpast hclient harrivals hrejected =>
      refine h.arrivedAt hsent hnew (hservice ▸ h.leading) ?_ (congrArg List.length hpast).ge
        (hservice ▸ List.prefix_refl _) (fun t ht => by cases ht)
        (fun t key frame other hle hcall _ => ?_) hclient harrivals hrejected
      · rw [hpast, RemoteSystem.slot, hservice]
        exact h.present
      · rw [hservice] at hcall
        exact absurd (List.getElem?_eq_some_iff.mp hcall).1 (not_lt.mpr hle)
  | stepped action' hquiet hservice hpast hclient harrivals hrejected =>
      have hcalm : RemoteSession.Calm options.client s.client s'.client :=
        hclient ▸ RemoteSession.step_calm h.tracked.sound.inOrder action' hquiet
      refine h.stepped (hclient ▸ h.tracked.step action') hservice hpast harrivals
        (hcalm.requests ▸ List.prefix_refl _) (fun request hmem => hrejected ▸ hmem)
        fun request hlt => ?_
      rw [hcalm.requests] at hlt
      rw [Resolved, hrejected, hasArrived_congr harrivals, hcalm.requests, hcalm.idle_iff]
      exact h.resolved request hlt
  | resumed ticket answer hidle hservice hpast hclient harrivals hrejected =>
      exact h.resumed hidle hservice hpast hclient harrivals hrejected
  | lost ticket answer request hawaited _ hservice hpast hclient harrivals hrejected =>
      -- the fetch is rejected: the request is resolved as such
      refine h.answered hawaited hservice hpast hclient harrivals (fun other hmem => ?_)
        (Or.inl ?_)
      · rw [hrejected]
        exact List.mem_append_left _ hmem
      · rw [hrejected]
        exact List.mem_append_right _ (List.mem_singleton_self _)
  | answered ticket answer request hawaited hanswers hservice hpast hclient harrivals hrejected =>
      exact h.answered hawaited hservice hpast hclient harrivals
        (fun other hmem => hrejected ▸ hmem) (Or.inr (answers_arrived hanswers))
  | nothing hservice hpast hclient harrivals hrejected =>
      refine h.stepped (hclient ▸ h.tracked) hservice hpast harrivals
        (hclient ▸ List.prefix_refl _) (fun request hmem => hrejected ▸ hmem) fun request hlt => ?_
      rw [hclient] at hlt
      rw [Resolved, hrejected, hasArrived_congr harrivals, hclient]
      exact h.resolved request hlt

/-- **In every run they are linked.** -/
theorem run (h : Linked options s) (actions : List SystemAction) :
    Linked options (s.run options actions) := by
  induction actions using List.reverseRecOn with
  | nil => exact h
  | append_singleton actions action ih =>
      rw [RemoteSystem.run_concat]
      exact ih.step action

end Linked

/-! ### The start -/

/-- What a system starts from. -/
structure Opened (options : SystemOptions) (earlier : List ServiceAction) (s : RemoteSystem) :
    Prop where
  service : s.service = Service.run options.service State.empty (earlier.map foreign)
  arrivals : s.arrivals = []
  rejected : s.rejected = []
  connections : s.connections = []
  past : s.past = [s.slot options]
  client : ∃ (ticket : ℕ) (entry : Entry String Frame SessionService.Outcome)
    (event : SnapshotUpdatedEvent) (dial : Dial), s.service.entries[ticket]? = some entry ∧
    entry.key = options.client.sessionId ∧ entry.phase.result = some (.ok (.updated event)) ∧
      createRemoteSession options.client (.ok event.snapshot) dial = .ok s.client

/-- A call of the service has the session id of its command as its key. -/
lemma getCall_key (actions : List ServiceAction) {ticket : ℕ} {key : String}
    {command : SessionGetCommand}
    (h : (Service.run options.service State.empty actions).calls[ticket]?
      = some (key, .get command)) : key = command.sessionId := by
  induction actions using List.reverseRecOn with
  | nil => cases h
  | append_singleton actions action ih =>
      rw [Service.run, List.foldl_append] at h
      change (Service.step options.service (Service.run options.service State.empty actions)
        action).calls[ticket]? = _ at h
      rw [Service.calls_step, List.getElem?_append] at h
      split at h
      · exact ih h
      · have hmem := List.mem_of_getElem? h
        rw [Service.newCalls, Service.queueActions.eq_def] at hmem
        split at hmem
        · cases hmem
        · cases action with
          | submit caller command' =>
              dsimp only at hmem
              split at hmem
              · cases List.mem_singleton.mp hmem
              · cases hmem
          | unsubscribe sessionId index => cases hmem
          | start ticket' => cases hmem
          | proceed ticket' answer => cases hmem
          | drain ticket' => cases hmem
          | clean ticket' => cases hmem
          | get command' =>
              cases List.mem_singleton.mp hmem
              rfl
          | _ => cases List.mem_singleton.mp hmem

lemma openSystem_opened {earlier : List ServiceAction} {ticket : ℕ} {dial : Dial}
    (h : openSystem options earlier ticket dial = some s) : Opened options earlier s := by
  rw [openSystem] at h
  split at h
  · rename_i key command previous phase hentry
    split at h
    · rename_i event hresult
      split at h
      · rename_i hsession
        split at h
        · rename_i client hclient
          cases h
          have hkey : key = command.sessionId := by
            have hcall : (Service.run options.service State.empty
                (earlier.map foreign)).calls[ticket]? = some (key, .get command) := by
              rw [Service.calls_getElem, hentry]
              rfl
            exact getCall_key _ hcall
          exact ⟨rfl, rfl, rfl, rfl, rfl, ticket, _, event, dial, hentry, hkey.trans hsession,
            hresult, hclient⟩
        · cases h
      · cases h
    · cases h
  · cases h

/-- Before there are requests, nothing has been called under their numbers. -/
lemma foreign_owners (earlier : List ServiceAction) {ticket : ℕ} {key : String} {frame : Frame}
    (h : (Service.run options.service State.empty (earlier.map foreign)).calls[ticket]?
      = some (key, frame)) (request : ℕ) : frame.caller ≠ some (own request) := by
  induction earlier using List.reverseRecOn with
  | nil => cases h
  | append_singleton earlier action ih =>
      rw [List.map_append, Service.run, List.foldl_append] at h
      change (Service.step options.service (Service.run options.service State.empty
        (earlier.map foreign)) (foreign action)).calls[ticket]? = _ at h
      rw [Service.calls_step, List.getElem?_append] at h
      split at h
      · exact ih h
      · exact foreign_calls _ action (List.mem_of_getElem? h) request

/-- A session that is created has sent no request. -/
lemma created_requests {options : RemoteOptions} {first : Except SessionError ReadingSnapshot}
    {dial : Dial} {session : RemoteSession}
    (h : createRemoteSession options first dial = .ok session) : session.requests = [] := by
  obtain ⟨snapshot, -, hstream⟩ := RemoteSession.createRemoteSession_onlyStream h
  exact hstream.requests

lemma Opened.linked {earlier : List ServiceAction} (h : Opened options earlier s) :
    Linked options s := by
  obtain ⟨ticket, entry, event, dial, -, -, -, hclient⟩ := h.client
  have hrequests := created_requests hclient
  refine ⟨RemoteSession.createRemoteSession_tracked hclient,
    h.service ▸ leading_run options.service _ _, by rw [h.past]; rfl, ?_, ?_, ?_, ?_, ?_, ?_⟩
  · rw [h.arrivals]
    exact fun arrival hmem => (by cases hmem)
  · rw [h.arrivals]
    exact fun arrival hmem => (by cases hmem)
  · intro ticket key frame request hcall hcaller
    rw [h.service] at hcall
    exact absurd hcaller (foreign_owners earlier hcall request)
  · rw [h.arrivals]
    exact List.Pairwise.nil
  · intro request hlt
    rw [hrequests] at hlt
    cases hlt
  · rw [h.arrivals]
    exact List.Pairwise.nil

end Qaraa.Remote
