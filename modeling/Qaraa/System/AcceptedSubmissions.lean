import Qaraa.System.LateRequests

/-!
Submissions that resolve, and what the server has accepted.

* `RemoteSystem.Shows`: a change that is made between two states of the session, or has been.
* `Grows`: what only grows in a run.
* `Accounted`, `Accounted.run`: what succeeds at the client **has been shown by the service after
  the request arrived, and before any later request did**.
* `resolved_accepted`: a submission that resolves has been accepted after the resets that were
  called before it and succeeded.
-/

namespace Qaraa.Remote

open Ordered KeyedQueue Chronicle Client SessionService

variable {options : SystemOptions} {s s' : RemoteSystem}

/-! ### What the service shows -/

/-- A change is made between one state of the session and the next, or its observation has been
accepted. -/
def RemoteSystem.Shows (s : RemoteSystem) (moment : ℕ) (change : Applied) : Prop :=
  ∃ slot after, s.past[moment]? = some slot ∧ s.past[moment + 1]? = some after ∧
    change.Confirmed slot after

lemma RemoteSystem.Shows.mono {moment : ℕ} {change : Applied} (h : s.Shows moment change)
    (hpast : s.past <+: s'.past) : s'.Shows moment change := by
  obtain ⟨slot, after, hslot, hafter, hconfirmed⟩ := h
  exact ⟨slot, after, getElem?_prefixed_some hpast hslot, getElem?_prefixed_some hpast hafter,
    hconfirmed⟩

lemma RemoteSystem.Shows.lt {moment : ℕ} {change : Applied} (h : s.Shows moment change) :
    moment + 1 < s.past.length := by
  obtain ⟨slot, after, -, hafter, -⟩ := h
  exact (List.getElem?_eq_some_iff.mp hafter).1

/-- The last step of the service. -/
lemma shows_last (hpresent : s.past.getLast? = some (s.slot options))
    (hpast : s'.past = s.past ++ [s'.slot options]) {change : Applied}
    (hconfirmed : change.Confirmed (s.slot options) (s'.slot options)) :
    s'.Shows (s.past.length - 1) change := by
  obtain ⟨earlier, hearlier⟩ := List.getLast?_eq_some_iff.mp hpresent
  have hlength : s.past.length - 1 = earlier.length := by simp [hearlier]
  refine ⟨s.slot options, s'.slot options, ?_, ?_, hconfirmed⟩
  · rw [hpast, hlength, hearlier, List.append_assoc, List.getElem?_append_right le_rfl,
      Nat.sub_self]
    rfl
  · have hnext : s.past.length - 1 + 1 = s.past.length := by
      rw [hlength, hearlier, List.length_append, List.length_singleton]
    rw [hnext, hpast, List.getElem?_concat_length]

/-- The change a mutation asks for. -/
def Kind.change (caller : ℕ) : Kind → Applied
  | .submission observationId => .accepted caller observationId
  | .reset => .reset caller

lemma CalledFor.makes {request : ℕ} {command : RemoteCommand} {frame : Frame}
    (h : CalledFor request command frame) {kind : Kind} (hkind : command.kind = some kind) :
    frame.Makes (Kind.change (own request) kind) := by
  cases kind with
  | submission observationId => exact h.accepts hkind
  | reset => exact h.resets hkind

/-! ### What only grows -/

/-- States, requests and log only grow, and what arrives does so after the states there were. -/
structure Grows (s s' : RemoteSystem) : Prop where
  past : s.past <+: s'.past
  requests : s.client.requests <+: s'.client.requests
  acts : s.client.acts <+: s'.client.acts
  arrivals : ∃ new, s'.arrivals = s.arrivals ++ new ∧
    ∀ arrival ∈ new, s.past.length ≤ arrival.since

namespace Grows

/-- The client stays as it is. -/
lemma server (hpast : s.past <+: s'.past) (hclient : s'.client = s.client) {new : List Arrival}
    (harrivals : s'.arrivals = s.arrivals ++ new)
    (hnew : ∀ arrival ∈ new, arrival.since = s.past.length) : Grows s s' where
  past := hpast
  requests := hclient ▸ List.prefix_refl _
  acts := hclient ▸ List.prefix_refl _
  arrivals := ⟨new, harrivals, fun arrival hmem => (hnew arrival hmem).ge⟩

/-- The server stays as it is. -/
lemma client (hpast : s'.past = s.past) (harrivals : s'.arrivals = s.arrivals)
    (hrequests : s.client.requests <+: s'.client.requests)
    (hacts : s.client.acts <+: s'.client.acts) : Grows s s' where
  past := hpast ▸ List.prefix_refl _
  requests := hrequests
  acts := hacts
  arrivals := ⟨[], harrivals.trans (List.append_nil _).symm, fun _ hmem => (by cases hmem)⟩

lemma refl (s : RemoteSystem) : Grows s s :=
  client rfl rfl (List.prefix_refl _) (List.prefix_refl _)

lemma trans {s'' : RemoteSystem} (h : Grows s s') (h' : Grows s' s'') : Grows s s'' where
  past := h.past.trans h'.past
  requests := h.requests.trans h'.requests
  acts := h.acts.trans h'.acts
  arrivals := by
    obtain ⟨new, harrivals, hnew⟩ := h.arrivals
    obtain ⟨new', harrivals', hnew'⟩ := h'.arrivals
    refine ⟨new ++ new', ?_, fun arrival hmem => ?_⟩
    · rw [harrivals', harrivals, List.append_assoc]
    · rcases List.mem_append.mp hmem with hmem | hmem
      · exact hnew arrival hmem
      · exact h.past.length_le.trans (hnew' arrival hmem)

/-- **Every step only adds.** -/
theorem step (hlinked : Linked options s) (action : SystemAction) :
    Grows s (s.step options action) := by
  have hturn := step_turn options s action
  have hresumed : ∀ {s' : RemoteSystem} {ticket : ℕ} {answer : Client.Answer},
      s'.past = s.past → s'.arrivals = s.arrivals →
      s'.client = s.client.step options.client (.resume ticket answer) → Grows s s' := by
    intro s' ticket answer hpast harrivals hclient
    obtain ⟨hrequests, hacts⟩ :=
      (RemoteSession.resume_turned hlinked.tracked.sound.inOrder ticket answer).grows
    exact client hpast harrivals (hclient ▸ hrequests) (hclient ▸ hacts)
  generalize s.step options action = s' at hturn ⊢
  cases hturn with
  | served _ _ _ hpast hclient harrivals _ =>
      exact server (hpast ▸ List.prefix_append _ _) hclient
        (harrivals.trans (List.append_nil _).symm) fun _ hmem => (by cases hmem)
  | arrived _ _ _ _ _ hpast hclient harrivals _ =>
      refine server (hpast ▸ List.prefix_append _ _) hclient harrivals fun arrival hmem => ?_
      rw [List.mem_singleton.mp hmem]
  | turnedAway _ _ _ _ hpast hclient harrivals _ =>
      refine server (hpast ▸ List.prefix_refl _) hclient harrivals fun arrival hmem => ?_
      rw [List.mem_singleton.mp hmem]
  | stepped action' hquiet _ hpast hclient harrivals _ =>
      have hcalm : RemoteSession.Calm options.client s.client s'.client :=
        hclient ▸ RemoteSession.step_calm hlinked.tracked.sound.inOrder action' hquiet
      obtain ⟨new, hacts, -⟩ := hcalm.acts
      exact client hpast harrivals (hcalm.requests ▸ List.prefix_refl _)
        (hacts ▸ List.prefix_append _ _)
  | resumed _ _ _ _ hpast hclient harrivals _ => exact hresumed hpast harrivals hclient
  | lost _ _ _ _ _ _ hpast hclient harrivals _ => exact hresumed hpast harrivals hclient
  | answered _ _ _ _ _ _ hpast hclient harrivals _ => exact hresumed hpast harrivals hclient
  | nothing _ hpast hclient harrivals _ =>
      exact client hpast harrivals (hclient ▸ List.prefix_refl _) (hclient ▸ List.prefix_refl _)

/-- **Every run only adds.** -/
theorem run (hlinked : Linked options s) {first later : List SystemAction}
    (hmore : first <+: later) : Grows (s.run options first) (s.run options later) := by
  obtain ⟨rest, rfl⟩ := hmore
  induction rest using List.reverseRecOn with
  | nil =>
      rw [List.append_nil]
      exact refl _
  | append_singleton rest action ih =>
      rw [← List.append_assoc, RemoteSystem.run_concat]
      exact ih.trans (step (hlinked.run _) action)

end Grows

/-! ### What has succeeded -/

/-- The service has shown the change of a mutation at a moment: after the arrival of one of its
requests, and before that of any request that is sent later than its success. -/
def AnsweredAt (s : RemoteSystem) (before : List Act) (ticket : ℕ) (kind : Kind) (moment : ℕ) :
    Prop :=
  ∃ arrival ∈ s.arrivals, ∃ sent, s.client.requests[arrival.request]? = some sent ∧
    sent.ticket = ticket ∧ arrival.since ≤ moment ∧
    s.Shows moment (Kind.change (own arrival.request) kind) ∧
    ∀ other ∈ s.arrivals, (before.filterMap Act.request).length ≤ other.request →
      moment < other.since

lemma AnsweredAt.mono {before : List Act} {ticket moment : ℕ} {kind : Kind}
    (h : AnsweredAt s before ticket kind moment) (hgrows : Grows s s') :
    AnsweredAt s' before ticket kind moment := by
  obtain ⟨arrival, hmem, sent, hsent, hticket, hsince, hshows, hlater⟩ := h
  obtain ⟨new, harrivals, hnew⟩ := hgrows.arrivals
  refine ⟨arrival, harrivals ▸ List.mem_append_left _ hmem, sent,
    getElem?_prefixed_some hgrows.requests hsent, hticket, hsince, hshows.mono hgrows.past,
    fun other hother hle => ?_⟩
  rw [harrivals] at hother
  rcases List.mem_append.mp hother with hother | hother
  · exact hlater other hother hle
  · have hlt := hshows.lt
    have hlast := hnew other hother
    omega

/-- What succeeds has been shown. -/
def Answered (s : RemoteSystem) (before : List Act) : Act → Prop
  | .succeeded ticket kind => ∃ moment, AnsweredAt s before ticket kind moment
  | _ => True

lemma Answered.mono {before : List Act} {act : Act} (h : Answered s before act)
    (hgrows : Grows s s') : Answered s' before act := by
  cases act with
  | succeeded ticket kind =>
      obtain ⟨moment, hanswered⟩ := h
      exact ⟨moment, hanswered.mono hgrows⟩
  | _ => trivial

lemma answered_of_turn {before : List Act} {act : Act} (h : act.turn = none) :
    Answered s before act := by
  cases act with
  | succeeded ticket kind => cases h
  | _ => trivial

lemma answered_of_mid {before : List Act} {act : Act} {ticket : ℕ} {kind : Kind}
    (h : act ≠ .resolved ticket kind → act.turn = none) : Answered s before act := by
  by_cases heq : act = .resolved ticket kind
  · rw [heq]
    trivial
  · exact answered_of_turn (h heq)

/-- An operation that has just been called waits. -/
lemma callOf_waits (service : Service) (request : ℕ) (command : RemoteCommand)
    {entry : Entry String Frame SessionService.Outcome}
    (h : (service.step options.service (callOf request command)).entries[service.entries.length]?
      = some entry) : entry.phase = .waiting := by
  have hcall : ∀ key frame, (State.step (program options.service) service
      (.call key frame)).entries[service.entries.length]? = some entry →
        entry.phase = .waiting := by
    intro key frame hentry
    rw [State.step, List.getElem?_concat_length] at hentry
    cases hentry
    rfl
  rw [Service.step, Service.queueActions.eq_def] at h
  split at h
  · exact absurd (List.getElem?_eq_some_iff.mp h).1 (lt_irrefl _)
  · cases command with
    | reset command => exact hcall _ _ h
    | submit command =>
        rw [callOf] at h
        dsimp only at h
        split at h
        · exact hcall _ _ h
        · exact absurd (List.getElem?_eq_some_iff.mp h).1 (lt_irrefl _)

/-- The service is sound, and shows what the requests that have arrived ask for before it answers
them. -/
structure Accounted (options : SystemOptions) (s : RemoteSystem) : Prop where
  sound : SessionService.Sound s.service
  since : ∀ arrival ∈ s.arrivals, ∀ ticket, arrival.ticket = some ticket →
    arrival.since < s.past.length
  granted : ∀ arrival ∈ s.arrivals, ∀ ticket entry change, arrival.ticket = some ticket →
    s.service.entries[ticket]? = some entry → entry.call.Makes change → Granted (ticket, entry) →
      ∃ moment, arrival.since ≤ moment ∧ s.Shows moment change
  succeeded : Obeys (Answered s) s.client.acts

/-- Somebody else's call asks the store for the same. -/
lemma foreign_onStore (action : ServiceAction) (verdicts : List StoreVerdict) :
    (foreign action).onStore verdicts = action.onStore verdicts := by
  cases action <;> rfl

/-- A request asks nothing of the store when it is called. -/
lemma callOf_clean (service : Service) (request : ℕ) (command : RemoteCommand) :
    CleanFailure service (callOf request command) := by
  cases command <;> trivial

/-- The store does not fail late in this step. -/
def SystemAction.clean : SystemAction → Bool
  | .serve action => action.onStore [.committed, .refused]
  | _ => true

namespace Accounted

/-- The service takes a step, for the arrivals there were. -/
lemma grants (h : Accounted options s) (hlinked : Linked options s) {call : ServiceAction}
    (hclean : CleanFailure s.service call)
    (hservice : s'.service = s.service.step options.service call)
    (hpast : s'.past = s.past ++ [s'.slot options]) {arrival : Arrival}
    (hmem : arrival ∈ s.arrivals) {ticket : ℕ} {entry : Entry String Frame SessionService.Outcome}
    {change : Applied} (hticket : arrival.ticket = some ticket)
    (hentry : s'.service.entries[ticket]? = some entry) (hmakes : entry.call.Makes change)
    (hgranted : Granted (ticket, entry)) :
    ∃ moment, arrival.since ≤ moment ∧ s'.Shows moment change := by
  have hmore : s.past <+: s'.past := hpast ▸ List.prefix_append _ _
  obtain ⟨sent, frame, -, -, hcall⟩ := hlinked.called arrival hmem ticket hticket
  rw [Service.calls_getElem] at hcall
  obtain ⟨earlier, hearlier, hpair⟩ := Option.map_eq_some_iff.mp hcall
  have hcalls : s'.service.calls[ticket]? = some (earlier.key, earlier.call) := by
    rw [hservice, Service.calls_step, List.getElem?_append_left, Service.calls_getElem, hearlier]
    · rfl
    · rw [Service.calls_length]
      exact (List.getElem?_eq_some_iff.mp hearlier).1
  rw [Service.calls_getElem, hentry] at hcalls
  have hsame : entry.call = earlier.call := (Prod.mk.inj (Option.some.inj hcalls)).2
  have hkey : earlier.key = options.client.sessionId := (Prod.mk.inj hpair).1
  rw [hservice] at hentry
  rcases granted_step hlinked.leading h.sound options.service hclean hearlier hkey hentry
    (hsame ▸ hmakes) hgranted with hbefore | hconfirmed
  · obtain ⟨moment, hsince, hshows⟩ := h.granted arrival hmem ticket earlier change hticket hearlier
      (hsame ▸ hmakes) hbefore
    exact ⟨moment, hsince, hshows.mono hmore⟩
  · rw [← hservice] at hconfirmed
    have hsince := h.since arrival hmem ticket hticket
    exact ⟨s.past.length - 1, by omega, shows_last hlinked.present hpast hconfirmed⟩

/-- The service takes a step, and a request may arrive with it. -/
lemma served (h : Accounted options s) (hlinked : Linked options s) {call : ServiceAction}
    (hclean : CleanFailure s.service call)
    (hservice : s'.service = s.service.step options.service call)
    (hpast : s'.past = s.past ++ [s'.slot options]) (hclient : s'.client = s.client)
    {new : List Arrival} (harrivals : s'.arrivals = s.arrivals ++ new)
    (hnew : ∀ arrival ∈ new, arrival.since = s.past.length ∧ ∀ ticket entry,
      arrival.ticket = some ticket → s'.service.entries[ticket]? = some entry →
        entry.phase = .waiting) : Accounted options s' where
  sound := hservice ▸ h.sound.step options.service call hclean
  since := by
    intro arrival hmem ticket hticket
    rw [harrivals] at hmem
    rw [hpast, List.length_append, List.length_singleton]
    rcases List.mem_append.mp hmem with hmem | hmem
    · exact (h.since arrival hmem ticket hticket).trans (Nat.lt_succ_self _)
    · rw [(hnew arrival hmem).1]
      exact Nat.lt_succ_self _
  granted := by
    intro arrival hmem ticket entry change hticket hentry hmakes hgranted
    rw [harrivals] at hmem
    rcases List.mem_append.mp hmem with hmem | hmem
    · exact h.grants hlinked hclean hservice hpast hmem hticket hentry hmakes hgranted
    · have hwaits := (hnew arrival hmem).2 ticket entry hticket hentry
      exact absurd hgranted.updated (not_updated (Or.inl hwaits))
  succeeded := by
    rw [hclient]
    exact h.succeeded.imp fun before act hanswered => hanswered.mono
      (.server (hpast ▸ List.prefix_append _ _) hclient harrivals
        fun arrival hmem => (hnew arrival hmem).1)

/-- The client takes a step. -/
lemma stepped (h : Accounted options s) (hservice : s'.service = s.service)
    (hpast : s'.past = s.past) (harrivals : s'.arrivals = s.arrivals)
    (hrequests : s.client.requests <+: s'.client.requests) {new : List Act}
    (hacts : s'.client.acts = s.client.acts ++ new)
    (hnew : ∀ before act after, new = before ++ act :: after →
      Answered s' (s.client.acts ++ before) act) : Accounted options s' where
  sound := hservice ▸ h.sound
  since := by
    rw [harrivals, hpast]
    exact h.since
  granted := by
    intro arrival hmem ticket entry change hticket hentry hmakes hgranted
    rw [harrivals] at hmem
    rw [hservice] at hentry
    obtain ⟨moment, hsince, hshows⟩ := h.granted arrival hmem ticket entry change hticket hentry
      hmakes hgranted
    exact ⟨moment, hsince, hshows.mono (hpast ▸ List.prefix_refl _)⟩
  succeeded := by
    rw [hacts]
    refine (h.succeeded.imp fun before act hanswered => ?_).append hnew
    exact hanswered.mono (.client hpast harrivals hrequests (hacts ▸ List.prefix_append _ _))

/-- A request is turned away. -/
lemma turnedAway (h : Accounted options s) (hservice : s'.service = s.service)
    (hpast : s'.past = s.past) (hclient : s'.client = s.client) {request : ℕ}
    (harrivals : s'.arrivals = s.arrivals ++ [⟨request, none, s.past.length⟩]) :
    Accounted options s' where
  sound := hservice ▸ h.sound
  since := by
    intro arrival hmem ticket hticket
    rw [harrivals] at hmem
    rw [hpast]
    rcases List.mem_append.mp hmem with hmem | hmem
    · exact h.since arrival hmem ticket hticket
    · rw [List.mem_singleton.mp hmem] at hticket
      cases hticket
  granted := by
    intro arrival hmem ticket entry change hticket hentry hmakes hgranted
    rw [harrivals] at hmem
    rw [hservice] at hentry
    rcases List.mem_append.mp hmem with hmem | hmem
    · obtain ⟨moment, hsince, hshows⟩ := h.granted arrival hmem ticket entry change hticket hentry
        hmakes hgranted
      exact ⟨moment, hsince, hshows.mono (hpast ▸ List.prefix_refl _)⟩
    · rw [List.mem_singleton.mp hmem] at hticket
      cases hticket
  succeeded := by
    rw [hclient]
    refine h.succeeded.imp fun before act hanswered => hanswered.mono
      (.server (hpast ▸ List.prefix_refl _) hclient harrivals fun arrival hmem => ?_)
    rw [List.mem_singleton.mp hmem]

/-- What a calm client writes. -/
lemma calm (h : Accounted options s) (hservice : s'.service = s.service) (hpast : s'.past = s.past)
    (harrivals : s'.arrivals = s.arrivals)
    (hcalm : RemoteSession.Calm options.client s.client s'.client) : Accounted options s' := by
  obtain ⟨new, hacts, hnew⟩ := hcalm.acts
  refine h.stepped hservice hpast harrivals (hcalm.requests ▸ List.prefix_refl _) hacts
    fun before act after hsplit => answered_of_turn (hnew act ?_)
  rw [hsplit]
  exact List.mem_append_right _ (List.mem_cons_self ..)

/-- A mutation goes on; if it succeeds, the service has answered its request. -/
lemma resumed (h : Accounted options s) (hlinked : Linked options s)
    (hservice : s'.service = s.service) (hpast : s'.past = s.past)
    (harrivals : s'.arrivals = s.arrivals) {ticket : ℕ} {answer : Client.Answer}
    (hclient : s'.client = s.client.step options.client (.resume ticket answer))
    (hanswers : ∀ frame command next, s.client.Runs ticket frame →
      frame.awaited options.client = some command → answer.response = .updated next →
        ∃ request, s.client.requests[request]? = some ⟨ticket, command⟩ ∧
          s.answers request answer.response = true) : Accounted options s' := by
  have hturned : RemoteSession.Turned options.client ticket answer s.client s'.client :=
    hclient ▸ RemoteSession.resume_turned hlinked.tracked.sound.inOrder ticket answer
  have hsingle : ∀ {act : Act}, s'.client.acts = s.client.acts ++ [act] →
      s.client.requests <+: s'.client.requests → Answered s' s.client.acts act →
      Accounted options s' := by
    intro act hacts hrequests hanswered
    refine h.stepped hservice hpast harrivals hrequests hacts fun before act' after hsplit => ?_
    rcases List.append_eq_singleton_iff.mp hsplit.symm with ⟨rfl, heq⟩ | ⟨-, hcontra⟩
    · cases heq
      rw [List.append_nil]
      exact hanswered
    · cases hcontra
  cases hturned with
  | calm hcalm _ => exact h.calm hservice hpast harrivals hcalm
  | sent frame next command _ _ _ _ _ hrequests hacts =>
      exact hsingle hacts (hrequests ▸ List.prefix_append _ _) trivial
  | remembered o _ _ _ hrequests hacts _ =>
      exact hsingle hacts (hrequests ▸ List.prefix_refl _) trivial
  | rejected frame error _ _ hrequests hacts _ =>
      exact hsingle hacts (hrequests ▸ List.prefix_refl _) trivial
  | waits frame command _ _ _ hrequests hacts _ =>
      refine h.stepped hservice hpast harrivals (hrequests ▸ List.prefix_refl _)
        (hacts.trans (List.append_nil _).symm) fun before act after hsplit => ?_
      simp at hsplit
  | succeeded frame command next mid hruns hawaited hresponse hcalls hrequests hacts _ =>
      obtain ⟨request, hfound, hanswer⟩ := hanswers frame command next hruns hawaited hresponse
      rw [hresponse] at hanswer
      obtain ⟨arrival, hmem, rfl, operation, entry, event, hticket, hentry, hresult, -⟩ :=
        answers_updated hanswer
      obtain ⟨sent, call, hsent, hcalled, hcall⟩ := hlinked.called arrival hmem operation hticket
      rw [hfound] at hsent
      cases hsent
      rw [Service.calls_getElem, hentry] at hcall
      have hentryCall : entry.call = call := (Prod.mk.inj (Option.some.inj hcall)).2
      have hmakes : entry.call.Makes (Kind.change (own arrival.request) frame.kind) :=
        hentryCall ▸ hcalled.makes (Mutation.awaited_kind hawaited)
      obtain ⟨moment, hsince, hshows⟩ := h.granted arrival hmem operation entry _ hticket hentry
        hmakes (Or.inr ⟨_, hresult⟩)
      refine h.stepped hservice hpast harrivals (hrequests ▸ List.prefix_refl _) hacts
        fun before act after hsplit => ?_
      rcases List.cons_eq_append_iff.mp hsplit with ⟨rfl, heq⟩ | ⟨rest, rfl, hrest⟩
      · cases heq
        rw [List.append_nil]
        refine ⟨moment, arrival, harrivals ▸ hmem, _, hrequests ▸ hfound, rfl, hsince,
          hshows.mono (hpast ▸ List.prefix_refl _), fun other hother hle => ?_⟩
        -- no request has been sent that could have arrived later
        rw [harrivals] at hother
        have hlt := (hlinked.sent other hother).1
        have hlength := congrArg List.length hlinked.tracked.requested.log
        rw [List.length_map] at hlength
        omega
      · have hact : act ∈ mid ++ [.resolved ticket frame.kind] := by simp [hrest]
        have hother : act ≠ .resolved ticket frame.kind → act.turn = none := fun hne =>
          hcalls act ((List.mem_append.mp hact).resolve_right fun hlast =>
            hne (List.mem_singleton.mp hlast))
        exact answered_of_mid hother

/-- **What succeeds stays accounted for in every step.** -/
theorem step (h : Accounted options s) (hlinked : Linked options s) {action : SystemAction}
    (hclean : action.clean = true) : Accounted options (s.step options action) := by
  have hturn := step_turn options s action
  generalize s.step options action = s' at hturn ⊢
  cases hturn with
  | served call hothers hservice hpast hclient harrivals _ =>
      refine h.served hlinked ?_ hservice hpast hclient (harrivals.trans (List.append_nil _).symm)
        fun arrival hmem => (by cases hmem)
      rcases hothers with ⟨call', rfl, rfl⟩ | ⟨listener, command, rfl⟩
      · refine cleanFailure_of_onStore ?_ s.service
        rw [foreign_onStore]
        exact hclean
      · trivial
  | arrived request sent hfound _ hservice hpast hclient harrivals _ =>
      refine h.served hlinked (callOf_clean s.service request sent.command) hservice hpast hclient
        harrivals fun arrival hmem => ?_
      rw [List.mem_singleton.mp hmem]
      refine ⟨rfl, fun ticket entry hticket hentry => ?_⟩
      dsimp only at hticket
      split at hticket
      · cases hticket
      · cases hticket
        rw [hservice] at hentry
        exact callOf_waits s.service request sent.command hentry
  | turnedAway request _ _ hservice hpast hclient harrivals _ =>
      exact h.turnedAway hservice hpast hclient harrivals
  | stepped action' hquiet hservice hpast hclient harrivals _ =>
      exact h.calm hservice hpast harrivals
        (hclient ▸ RemoteSession.step_calm hlinked.tracked.sound.inOrder action' hquiet)
  | resumed ticket answer hidle hservice hpast hclient harrivals _ =>
      refine h.resumed hlinked hservice hpast harrivals hclient
        fun frame command next hruns hawaited _ => ?_
      rw [awaited_none hlinked.tracked hidle hruns] at hawaited
      cases hawaited
  | lost ticket answer request _ hresponse hservice hpast hclient harrivals _ =>
      refine h.resumed hlinked hservice hpast harrivals hclient
        fun frame command next _ _ hupdated => ?_
      obtain ⟨retryable, hfailed⟩ := hresponse
      rw [hfailed] at hupdated
      cases hupdated
  | answered ticket answer request hawaited hanswers hservice hpast hclient harrivals _ =>
      refine h.resumed hlinked hservice hpast harrivals hclient
        fun frame command next hruns hcommand _ => ⟨request, ?_, hanswers⟩
      obtain ⟨frame', command', hruns', hcommand', -, hfound⟩ :=
        awaited_some hlinked.tracked hawaited
      obtain ⟨key, call, previous, hentry⟩ := hruns
      obtain ⟨key', call', previous', hentry'⟩ := hruns'
      rw [hentry] at hentry'
      cases hentry'
      rw [hcommand] at hcommand'
      cases hcommand'
      exact hfound
  | nothing hservice hpast hclient harrivals _ =>
      exact h.calm hservice hpast harrivals (hclient ▸ .refl _)

/-- **In every run they are accounted for.** -/
theorem run (h : Accounted options s) (hlinked : Linked options s) {actions : List SystemAction}
    (hclean : ∀ action ∈ actions, action.clean = true) :
    Accounted options (s.run options actions) := by
  induction actions using List.reverseRecOn with
  | nil => exact h
  | append_singleton actions action ih =>
      rw [RemoteSystem.run_concat]
      exact (ih fun action hmem => hclean action (List.mem_append_left _ hmem)).step
        (hlinked.run actions) (hclean action (List.mem_append_right _ (List.mem_singleton_self _)))

end Accounted

lemma Opened.accounted {earlier : List ServiceAction} (h : Opened options earlier s)
    (hclean : ∀ action ∈ earlier, action.onStore [.committed, .refused] = true) :
    Accounted options s where
  sound := by
    rw [h.service]
    refine SessionService.run_sound options.service sound_empty
      (Along.of_forall options.service (fun action hmem service => ?_) State.empty)
    obtain ⟨call, hcall, rfl⟩ := List.mem_map.mp hmem
    exact cleanFailure_of_onStore ((foreign_onStore call _).trans (hclean call hcall)) service
  since := by
    rw [h.arrivals]
    exact fun arrival hmem => (by cases hmem)
  granted := by
    rw [h.arrivals]
    exact fun arrival hmem => (by cases hmem)
  succeeded := by
    obtain ⟨_, _, _, dial, -, -, -, hclient⟩ := h.client
    obtain ⟨snapshot, -, hstream⟩ := RemoteSession.createRemoteSession_onlyStream hclient
    have hcalm : RemoteSession.Calm options.client _ s.client := hstream.calm
    obtain ⟨new, hacts, hnew⟩ := hcalm.acts
    rw [hacts]
    refine Obeys.nil.append fun before act after hsplit => answered_of_turn (hnew act ?_)
    rw [hsplit]
    exact List.mem_append_right _ (List.mem_cons_self ..)

/-! ### Submissions that resolve -/

/-- A call of `submit` whose promise resolves, with the snapshot held or by a mutation. -/
def Resolves (log : List Act) (observationId : String) : Act → Prop
  | .held observationId' => observationId' = observationId
  | .queued ticket (.submission observationId') | .shared observationId' ticket =>
      observationId' = observationId ∧ .resolved ticket (.submission observationId) ∈ log
  | _ => False

/-- A submission that resolves is confirmed by one that has succeeded, called after the resets
that were called before and succeed. -/
lemma resolves_remembered {session : RemoteSession} (h : session.Tracked options.client)
    {before after : List Act} {act : Act} {observationId : String}
    (hacts : session.acts = before ++ act :: after)
    (hresolves : Resolves session.acts observationId act) :
    ∃ other, .succeeded other (.submission observationId) ∈ session.acts ∧
      ∀ reset, .queued reset .reset ∈ before → .succeeded reset .reset ∈ session.acts →
        reset < other := by
  have hlog := h.sound.log before act after hacts
  cases act with
  | held observationId' =>
      cases hresolves
      exact h.sound.held_remembered hacts
  | queued ticket kind =>
      cases kind with
      | submission observationId' =>
          obtain ⟨rfl, hresolved⟩ := hresolves
          obtain ⟨other, hdone, hlater⟩ := h.sound.remembered h.confirmed hresolved
          exact ⟨other, hdone, fun reset hqueued => hlater reset (hlog reset .reset hqueued)⟩
      | reset => exact hresolves.elim
  | shared observationId' ticket =>
      obtain ⟨rfl, hresolved⟩ := hresolves
      obtain ⟨other, hdone, hlater⟩ := h.sound.remembered h.confirmed hresolved
      exact ⟨other, hdone, fun reset hqueued => hlater reset (hlog.2 reset hqueued)⟩
  | _ => exact hresolves.elim

/-- The requests of a mutation are sent when those called before it have settled. -/
lemma sent_after {session : RemoteSession} (h : session.Tracked options.client)
    {before after : List Act} {earlier later request : ℕ} {kind : Kind} {sent : Request}
    (hacts : session.acts = before ++ .succeeded earlier kind :: after)
    (hsent : session.requests[request]? = some sent) (hticket : sent.ticket = later)
    (hlt : earlier < later) : (before.filterMap Act.request).length ≤ request := by
  by_contra hless
  have hmapped : (session.acts.filterMap Act.request)[request]?
      = some (sent.ticket, sent.command.kind) := by
    rw [← h.requested.log, List.getElem?_map, hsent]
    rfl
  rw [hacts, List.filterMap_append, List.getElem?_append_left (not_le.mp hless)] at hmapped
  obtain ⟨act, hact, hfetched⟩ := List.mem_filterMap.mp (List.mem_of_getElem? hmapped)
  cases act with
  | fetched ticket kind' =>
      have hsame : ticket = sent.ticket := (Prod.mk.inj (Option.some.inj hfetched)).1
      obtain ⟨first, mid, rfl⟩ := List.append_of_mem hact
      rw [List.append_assoc, List.cons_append] at hacts
      rcases h.sound.inOrder.turns.between hacts rfl rfl with ⟨heq, -⟩ | ⟨hgt, -⟩
      · dsimp only at heq
        omega
      · dsimp only at hgt
        omega
  | _ => cases hfetched

/-- A reset is answered, and then a submission. -/
def acceptedCalls : List SystemAction :=
  [.act (.call (.reset none)), .act (.call (.submit handedSample)), .act (.start 0),
    .act (.resume 0 {})] ++ arriveSample 0 2

/-- The submission is sent and served. -/
def submittedCalls : List SystemAction :=
  acceptedCalls ++ [.act (.resume 0 (answerOf (openedSystem.run systemSample acceptedCalls) 2)),
    .act (.settle 0), .act (.start 1), .act (.resume 1 {})] ++ arriveSample 1 3

/-- The submission is answered. -/
def acceptedRun : List SystemAction :=
  submittedCalls ++ [.act (.resume 1 (answerOf (openedSystem.run systemSample submittedCalls) 3))]

/-- **A mutation that succeeds takes effect before it is answered**: its moment at the server lies
before every state of the run in which its success stands in the log. -/
lemma Opened.moment {earlier : List ServiceAction} (hopened : Opened options earlier s)
    (hclean : ∀ action ∈ earlier, action.onStore [.committed, .refused] = true)
    {actions : List SystemAction} (hactions : ∀ action ∈ actions, action.clean = true)
    (ticket : ℕ) :
    ∃ moment, ∀ kind, .succeeded ticket kind ∈ (s.run options actions).client.acts →
      (∃ before after,
        (s.run options actions).client.acts = before ++ .succeeded ticket kind :: after ∧
          AnsweredAt (s.run options actions) before ticket kind moment) ∧
      ∀ first, first <+: actions → .succeeded ticket kind ∈ (s.run options first).client.acts →
        moment + 1 < (s.run options first).past.length := by
  have hlinked := hopened.linked
  by_cases hsome : ∃ kind, .succeeded ticket kind ∈ (s.run options actions).client.acts
  · obtain ⟨kind, hsucceeded⟩ := hsome
    -- the run up to the step that logs the success
    obtain ⟨first, hfirst, hlogged, hearliest⟩ := @exists_first _ actions
      (fun first => .succeeded ticket kind ∈ (s.run options first).client.acts) hsucceeded
    have haccounted : Accounted options (s.run options first) :=
      (hopened.accounted hclean).run hlinked fun action hmem =>
        hactions action (hfirst.subset hmem)
    obtain ⟨before, after, hsplit⟩ := List.append_of_mem hlogged
    obtain ⟨moment, hanswered⟩ := haccounted.succeeded _ _ _ hsplit
    refine ⟨moment, fun kind' hsucceeded' => ?_⟩
    have hkind : kind = kind' :=
      (hlinked.run actions).tracked.sound.kind_eq hsucceeded hsucceeded' rfl rfl
    subst hkind
    have hgrows := Grows.run hlinked hfirst
    refine ⟨?_, fun other hother hfound => ?_⟩
    · obtain ⟨more, hmore⟩ := hgrows.acts
      refine ⟨before, after ++ more, ?_, hanswered.mono hgrows⟩
      rw [← hmore, hsplit, List.append_assoc, List.cons_append]
    · obtain ⟨_, -, _, -, -, -, hshows, -⟩ := hanswered
      have hlength := (Grows.run hlinked (hearliest other hother hfound)).past.length_le
      exact hshows.lt.trans_le hlength
  · exact ⟨0, fun kind hsucceeded => absurd ⟨kind, hsucceeded⟩ hsome⟩

/-- **The mutations of a client take effect in the order of their calls.** In every run of a
remote session against a service whose store does not fail after an update has run, each
mutation that succeeds has a moment at the server, between the arrival of one of its requests
and its answer, that is, before every state of the run whose log has the success: a reset is
applied then, the observation of a submission is accepted then or has been since the last reset;
and the moments have the order of the calls. -/
theorem mutations_take_effect_in_order (options : SystemOptions) (earlier : List ServiceAction)
    (ticket : ℕ) (dial : Dial) (system : RemoteSystem)
    (opened : openSystem options earlier ticket dial = some system)
    (earlierClean : ∀ action ∈ earlier, action.onStore [.committed, .refused] = true)
    (actions : List SystemAction) (clean : ∀ action ∈ actions, action.clean = true) :
    let s := system.run options actions
    ∃ moment : ℕ → ℕ,
      (∀ ticket kind, .succeeded ticket kind ∈ s.client.acts → ∃ arrival ∈ s.arrivals, ∃ sent,
        s.client.requests[arrival.request]? = some sent ∧ sent.ticket = ticket ∧
          arrival.since ≤ moment ticket ∧ moment ticket + 1 < s.past.length ∧
            s.Shows (moment ticket) (Kind.change (own arrival.request) kind)) ∧
      (∀ ticket kind first, first <+: actions →
        .succeeded ticket kind ∈ (system.run options first).client.acts →
          moment ticket + 1 < (system.run options first).past.length) ∧
      ∀ ticket ticket' kind kind', .succeeded ticket kind ∈ s.client.acts →
        .succeeded ticket' kind' ∈ s.client.acts → ticket < ticket' →
          moment ticket < moment ticket' := by
  intro s
  have hopened := openSystem_opened opened
  have hlinked : Linked options s := hopened.linked.run actions
  choose moment hmoment using hopened.moment earlierClean clean
  refine ⟨moment, fun ticket kind hsucceeded => ?_, fun ticket kind first hfirst hlogged => ?_,
    fun ticket ticket' kind kind' hsucceeded hsucceeded' hlt => ?_⟩
  · obtain ⟨⟨_, _, -, arrival, hmem, sent, hsent, hticket, hsince, hshows, -⟩, -⟩ :=
      hmoment ticket kind hsucceeded
    exact ⟨arrival, hmem, sent, hsent, hticket, hsince, hshows.lt, hshows⟩
  · have hsucceeded := (Grows.run hopened.linked hfirst).acts.subset hlogged
    exact (hmoment ticket kind hsucceeded).2 first hfirst hlogged
  · obtain ⟨⟨before, after, hsplit, _, -, _, -, -, -, -, hbefore⟩, -⟩ :=
      hmoment ticket kind hsucceeded
    obtain ⟨⟨_, _, -, arrival', hmem', sent', hsent', hticket', hsince', -, -⟩, -⟩ :=
      hmoment ticket' kind' hsucceeded'
    have hafter := sent_after hlinked.tracked hsplit hsent' hticket' hlt
    exact (hbefore arrival' hmem' hafter).trans_le hsince'

/-- The reset takes effect before its answer comes, and the submission after it. -/
theorem mutations_take_effect_in_order_sample :
    ∃ moment : ℕ → ℕ, moment 0 < moment 1 ∧
      moment 0 + 1 < (openedSystem.run systemSample submittedCalls).past.length ∧
      (∃ arrival ∈ (openedSystem.run systemSample acceptedRun).arrivals,
        (openedSystem.run systemSample acceptedRun).Shows (moment 0)
          (Kind.change (own arrival.request) .reset)) ∧
      ∃ arrival ∈ (openedSystem.run systemSample acceptedRun).arrivals,
        (openedSystem.run systemSample acceptedRun).Shows (moment 1)
          (Kind.change (own arrival.request) (.submission "a")) := by
  have hreset : .succeeded 0 .reset ∈ (openedSystem.run systemSample acceptedRun).client.acts := by
    decide +kernel
  have hsubmission : .succeeded 1 (.submission "a")
      ∈ (openedSystem.run systemSample acceptedRun).client.acts := by decide +kernel
  obtain ⟨moment, hmoment, hbefore, hordered⟩ :=
    mutations_take_effect_in_order systemSample openedCalls 1 .created openedSystem
      openedSystem_opened (by decide) acceptedRun (by decide +kernel)
  obtain ⟨arrival, hmem, _, -, -, -, -, hshows⟩ := hmoment 0 .reset hreset
  obtain ⟨arrival', hmem', _, -, -, -, -, hshows'⟩ := hmoment 1 _ hsubmission
  exact ⟨moment, hordered 0 1 _ _ hreset hsubmission (by decide),
    hbefore 0 .reset submittedCalls (List.prefix_append _ _) (by decide +kernel),
    ⟨arrival, hmem, hshows⟩, arrival', hmem', hshows'⟩

/-- **A submission that resolves has been accepted.** In every run of a remote session against a
service whose store does not fail after an update has run, when the promise of a submission
resolves there is a state of the session at the server in which its observation is accepted,
and which comes after all resets of the client that were called before the submission and
succeed. -/
theorem resolved_accepted (options : SystemOptions) (earlier : List ServiceAction) (ticket : ℕ)
    (dial : Dial) (system : RemoteSystem)
    (opened : openSystem options earlier ticket dial = some system)
    (earlierClean : ∀ action ∈ earlier, action.onStore [.committed, .refused] = true)
    (actions : List SystemAction) (clean : ∀ action ∈ actions, action.clean = true) :
    let s := system.run options actions
    ∀ (before after : List Act) (act : Act) (observationId : String),
      s.client.acts = before ++ act :: after → Resolves s.client.acts observationId act →
      ∃ moment slot, s.past[moment]? = some slot ∧ observationId ∈ acceptedSince slot.applied ∧
        ∀ reset, .queued reset .reset ∈ before → .succeeded reset .reset ∈ s.client.acts →
          ∃ resetMoment request sent, resetMoment < moment ∧
            s.client.requests[request]? = some sent ∧ sent.ticket = reset ∧
              s.Makes resetMoment (.reset (own request)) := by
  intro s before after act observationId hacts hresolves
  have hopened := openSystem_opened opened
  have hlinked : Linked options s := hopened.linked.run actions
  have haccounted : Accounted options s := (hopened.accounted earlierClean).run hopened.linked clean
  obtain ⟨other, hdone, hlater⟩ := resolves_remembered hlinked.tracked hacts hresolves
  obtain ⟨first, rest, hsplit⟩ := List.append_of_mem hdone
  obtain ⟨moment, arrival, hmem, sent, hsent, hticket, hsince, hshows, -⟩ :=
    haccounted.succeeded _ _ _ hsplit
  obtain ⟨_, slot, -, hslot, haccepted⟩ := hshows
  refine ⟨moment + 1, slot, hslot, haccepted, fun reset hqueued hsucceeded => ?_⟩
  obtain ⟨first', rest', hsplit'⟩ := List.append_of_mem hsucceeded
  obtain ⟨resetMoment, arrival', -, sent', hsent', hticket', -, hreset, hbefore⟩ :=
    haccounted.succeeded _ _ _ hsplit'
  have hafter := sent_after hlinked.tracked hsplit' hsent hticket (hlater reset hqueued hsucceeded)
  have hlt : resetMoment < arrival.since := hbefore arrival hmem hafter
  exact ⟨resetMoment, arrival'.request, sent', by omega, hsent', hticket', hreset⟩

/-- The submission of the sample that follows a reset is accepted later than the reset. -/
theorem resolved_accepted_sample :
    ∃ moment slot, (openedSystem.run systemSample acceptedRun).past[moment]? = some slot ∧
      "a" ∈ acceptedSince slot.applied ∧ ∃ resetMoment request sent, resetMoment < moment ∧
        (openedSystem.run systemSample acceptedRun).client.requests[request]? = some sent ∧
          sent.ticket = 0 ∧
            (openedSystem.run systemSample acceptedRun).Makes resetMoment
              (.reset (own request)) := by
  have hacts : (openedSystem.run systemSample acceptedRun).client.acts
      = [.dialed 0, .queued 0 .reset] ++ .queued 1 (.submission "a")
        :: (openedSystem.run systemSample acceptedRun).client.acts.drop 3 := by decide +kernel
  obtain ⟨moment, slot, hslot, haccepted, hresets⟩ := resolved_accepted systemSample openedCalls 1
    .created openedSystem openedSystem_opened (by decide) acceptedRun (by decide +kernel) _ _ _ "a"
    hacts ⟨rfl, by decide +kernel⟩
  exact ⟨moment, slot, hslot, haccepted, hresets 0 (by decide) (by decide +kernel)⟩

end Qaraa.Remote
