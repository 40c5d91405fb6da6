import Qaraa.Server.SocketFeeds

/-!
The frames of a socket, in the runs of a server.

* `SameFrames`: what is done to a socket without sending an event.
* `Framed`: the order of its frames, and how it is closed.
* `StoredSince`: the record stored when a socket got its subscriber, and a revision stored then
  or later.
* `Framing`, `framing_run`: **every socket is in order in every run**.
* `disconnected_run`: nothing is sent on a socket after its `close` event.
* `stream_frames`: **a socket is sent the retained revisions after the one it negotiated, then each
  later one once, in order; then at most one error, and nothing more**.
-/

namespace Qaraa.SessionService

open Fallible Ordered KeyedQueue

variable {options : ServiceOptions}

/-! ### Frames -/

/-- Its subscriber and its events stay. -/
structure SameFrames (connection after : StreamConnection) : Prop where
  index : after.index = connection.index
  events : after.events = connection.events

lemma close_frames (connection : StreamConnection) (code : ℕ × QaraaErrorCode) :
    SameFrames connection (connection.close code) := by
  rw [StreamConnection.close]
  split <;> exact ⟨rfl, rfl⟩

lemma sendErrorAndClose_frames (connection : StreamConnection) (error : TrustedProtocolError)
    (code : ℕ) (fails : Bool) :
    SameFrames connection (connection.sendErrorAndClose error code fails) := by
  rw [StreamConnection.sendErrorAndClose]
  dsimp only
  split
  · obtain ⟨hindex, hevents⟩ := close_frames
      { connection with closing := some (code, error.code) } (code, error.code)
    exact ⟨hindex, hevents⟩
  · refine ⟨rfl, ?_⟩
    rw [StreamConnection.events, List.filterMap_append]
    exact List.append_nil _

lemma onRejected_frames (connection : StreamConnection) (error : ServiceError) (fails : Bool) :
    SameFrames connection (connection.onRejected error fails) := by
  rw [StreamConnection.onRejected.eq_def]
  dsimp only
  split
  · exact ⟨rfl, rfl⟩
  · have hsent : ∀ error code, SameFrames connection
        (StreamConnection.sendErrorAndClose { connection with handled := true } error code
          fails) := by
      intro error code
      obtain ⟨hindex, hevents⟩ :=
        sendErrorAndClose_frames { connection with handled := true } error code fails
      exact ⟨hindex, hevents⟩
    cases error <;> exact hsent _ _

lemma flushed_frames (connection : StreamConnection) :
    SameFrames connection connection.flushed := by
  rw [StreamConnection.flushed]
  split
  · exact close_frames _ _
  · exact ⟨rfl, rfl⟩

/-- The frames a socket is sent in a segment are events. -/
lemma follow_sent (connection : StreamConnection) (fails : ReadingSnapshot → Bool) (ticket : ℕ)
    (before after : SessionSlot) : (connection.follow fails ticket before after).sent
      = connection.sent ++ (if connection.disconnected then [] else
        (calledWith (connection.follow fails ticket before after).index before after).filter
          fun event => !fails event.snapshot).map .event := by
  rw [follow_index, StreamConnection.follow, foldl_listen]
  dsimp only
  split <;> rfl

/-- What is done to the socket itself leaves what it was sent of its subscriber. -/
lemma Served.same {since : StreamRequest → SessionRecord → ℕ → Prop} {s : Service}
    {connection after : StreamConnection} (h : Served since s connection)
    (hsame : SameSubscription connection after) (hframes : SameFrames connection after) :
    Served since s after :=
  h.congr hsame.wire hframes.index hframes.events fun hopen => hsame.disconnected ▸ hopen

/-! ### Order and closing -/

/-- The frames of a socket are events, then at most one error; it is closed at most once, with the
code of that error, and has no subscriber then. -/
structure Framed (s : Service) (connection : StreamConnection) : Prop where
  sent : ∃ errors : List QaraaErrorEnvelope,
    connection.sent = connection.events.map .event ++ errors.map .error ∧ errors.length ≤ 1 ∧
      ∀ envelope ∈ errors, ∃ (code : ℕ) (error : TrustedProtocolError),
        connection.closing = some (code, error.code) ∧
        envelope = error.toEnvelope connection.request.id
  closes : ∀ code ∈ connection.closes, connection.closing = some code
  once : connection.closes.length ≤ 1
  unclosed : connection.closed = false → connection.closes = []
  turned : connection.closing ≠ none → connection.ticket = none ∨
    connection.handled = true ∧ ∃ error, s.outcome connection.ticket = some (.error error)

namespace Framed

variable {s : Service} {connection : StreamConnection}

/-- The service goes on. -/
lemma step (h : Framed s connection) (action : ServiceAction) :
    Framed (s.step options action) connection :=
  ⟨h.sent, h.closes, h.once, h.unclosed, fun hclosing => (h.turned hclosing).imp_right
    fun ⟨hhandled, error, houtcome⟩ => ⟨hhandled, error, outcome_step houtcome options action⟩⟩

/-- An open socket has been sent no error. -/
lemma open_sent (h : Framed s connection) (hopen : connection.closing = none) :
    connection.sent = connection.events.map .event ∧ connection.closes = [] := by
  obtain ⟨⟨errors, hsent, -, hnamed⟩, hcloses, -⟩ := h
  have hnone : errors = [] := by
    refine List.eq_nil_iff_forall_not_mem.mpr fun envelope hmem => ?_
    obtain ⟨code, error, hclosing, -⟩ := hnamed envelope hmem
    rw [hopen] at hclosing
    cases hclosing
  refine ⟨?_, List.eq_nil_iff_forall_not_mem.mpr fun code hmem => ?_⟩
  · rw [hsent, hnone, List.map_nil, List.append_nil]
  · rw [hopen] at hcloses
    cases hcloses code hmem

/-- A socket of which nothing is known. -/
lemma fresh (hsent : connection.sent = []) (hcloses : connection.closes = [])
    (hclosing : connection.closing = none) : Framed s connection where
  sent := by
    refine ⟨[], ?_, Nat.zero_le _, fun _ hmem => by cases hmem⟩
    rw [StreamConnection.events, hsent]
    rfl
  closes := by
    rw [hcloses]
    intro _ hmem
    cases hmem
  once := by
    rw [hcloses]
    exact Nat.zero_le _
  unclosed := fun _ => hcloses
  turned := fun hne => absurd hclosing hne

/-- The socket is closed. -/
lemma close (h : Framed s connection) {code : ℕ × QaraaErrorCode}
    (hclosing : connection.closing = some code) : Framed s (connection.close code) := by
  rw [StreamConnection.close]
  split
  · exact h
  · rename_i hopen
    have hnone := h.unclosed (Bool.eq_false_iff.mpr hopen)
    refine ⟨h.sent, ?_, ?_, fun hfalse => (by cases hfalse), h.turned⟩
    · rw [hnone]
      intro found hmem
      rw [List.mem_singleton.mp hmem]
      exact hclosing
    · rw [hnone]
      exact le_rfl

lemma flushed (h : Framed s connection) : Framed s connection.flushed := by
  rw [StreamConnection.flushed]
  split
  · rename_i code hclosing
    exact h.close hclosing
  · exact h

/-- **A socket is turned away once.** -/
lemma sendErrorAndClose (h : Framed s connection) (hopen : connection.closing = none)
    (hover : connection.ticket = none ∨
      connection.handled = true ∧ ∃ error, s.outcome connection.ticket = some (.error error))
    (error : TrustedProtocolError) (code : ℕ) (fails : Bool) :
    Framed s (connection.sendErrorAndClose error code fails) := by
  obtain ⟨hsent, hcloses⟩ := h.open_sent hopen
  have hclosing : Framed s { connection with closing := some (code, error.code) } := by
    refine ⟨⟨[], ?_, Nat.zero_le _, fun _ hmem => by cases hmem⟩, ?_, h.once, h.unclosed,
      fun _ => hover⟩
    · exact hsent.trans (List.append_nil _).symm
    · intro found hmem
      change found ∈ connection.closes at hmem
      rw [hcloses] at hmem
      cases hmem
  rw [StreamConnection.sendErrorAndClose]
  dsimp only
  split
  · exact hclosing.close rfl
  · refine ⟨⟨[error.toEnvelope connection.request.id], ?_, le_rfl, fun envelope hmem => ?_⟩,
      hclosing.closes, hclosing.once, hclosing.unclosed, hclosing.turned⟩
    · have hevents : (connection.sent
          ++ [StreamMessage.error (error.toEnvelope connection.request.id)]).filterMap
            StreamMessage.event?
          = connection.events := by
        rw [List.filterMap_append]
        exact List.append_nil _
      rw [StreamConnection.events, hevents, ← hsent]
      rfl
    · exact ⟨code, error, rfl, List.mem_singleton.mp hmem⟩

/-- **Its session goes on**: nothing more is sent on a socket that was turned away. -/
lemma follow (h : Framed s connection) {fails : ReadingSnapshot → Bool} {ticket : ℕ}
    {before after : SessionSlot}
    (hquiet : connection.closing ≠ none → calledWith
      (connection.follow fails ticket before after).index before after = []) :
    Framed s (connection.follow fails ticket before after) := by
  have hevents := follow_events connection fails ticket before after
  have hsent := follow_sent connection fails ticket before after
  obtain ⟨index, new, heq⟩ := follow_eq connection fails ticket before after
  generalize connection.follow fails ticket before after = fed at hquiet hevents hsent heq ⊢
  subst heq
  refine ⟨?_, h.closes, h.once, h.unclosed, h.turned⟩
  by_cases hopen : connection.closing = none
  · refine ⟨[], ?_, Nat.zero_le _, fun _ hmem => by cases hmem⟩
    rw [hsent, hevents, (h.open_sent hopen).1, List.map_append, List.map_nil, List.append_nil]
  · obtain ⟨errors, hbefore, hfew, hnamed⟩ := h.sent
    rw [hquiet hopen, List.filter_nil, ite_self, List.append_nil] at hevents
    rw [hquiet hopen, List.filter_nil, ite_self, List.map_nil, List.append_nil] at hsent
    refine ⟨errors, ?_, hfew, hnamed⟩
    rw [hsent, hevents]
    exact hbefore

end Framed

/-- The listener of a socket that was turned away is not called. -/
lemma Framed.unheard {since : StreamRequest → SessionRecord → ℕ → Prop} {s : Service}
    {connection : StreamConnection} (h : Framed s connection)
    (hserved : Served since s connection) (hsound : Sound s) (hclosing : connection.closing ≠ none)
    {ticket : ℕ} {call frame : Frame} {previous : Option ℕ}
    (hentry : s.entries[ticket]?
      = some ⟨connection.request.sessionId, call, previous, .running frame⟩) (answer : Answer)
    (fails : ReadingSnapshot → Bool) {after : SessionSlot}
    (heq : after = (proceed options connection.request.sessionId frame answer
      (s.slot connection.request.sessionId)).1) :
    calledWith (connection.follow fails ticket (s.slot connection.request.sessionId) after).index
      (s.slot connection.request.sessionId) after = [] := by
  have hrejected : ∀ outcome, s.outcome connection.ticket = some outcome →
      ∃ error, outcome = .error error := by
    intro outcome houtcome
    rcases h.turned hclosing with hnone | ⟨-, error, herror⟩
    · rw [hnone] at houtcome
      cases houtcome
    · rw [herror] at houtcome
      exact ⟨error, (Option.some.inj houtcome).symm⟩
  have hother : connection.ticket ≠ some ticket := by
    intro hticket
    rcases h.turned hclosing with hnone | ⟨-, error, herror⟩
    · rw [hnone] at hticket
      cases hticket
    · rw [hticket] at herror
      obtain ⟨entry, hfound, hresult⟩ := outcome_entry.mp herror
      rw [hentry] at hfound
      cases hfound
      cases hresult
  rw [follow_index, if_neg fun hjoins => hother hjoins.1]
  cases hindex : connection.index with
  | none => exact calledWith_none _ _
  | some index =>
      obtain ⟨last, joined, -, hfed⟩ := hserved.fed index hindex
      obtain ⟨outcome, houtcome, hlive⟩ := hserved.ended index hindex
      obtain ⟨error, rfl⟩ := hrejected outcome houtcome
      have hmidway := (hsound connection.request.sessionId).2.busy (ticket, _)
        (State.mem_queue.mpr ⟨hentry, rfl⟩) frame rfl
      rw [heq]
      refine (segment_heard options hmidway answer hfed.given).2.resolve_right ?_
      rintro ⟨subscriber, hmem, _, _, hnumber, -⟩
      cases hlive subscriber hmem hnumber

/-- An operation of another session, or one that does not run, leaves the session alone. -/
lemma slot_idle (options : ServiceOptions) {s : Service} {sessionId : String} {ticket : ℕ}
    (h : ∀ call previous frame,
      s.entries[ticket]? ≠ some ⟨sessionId, call, previous, .running frame⟩) (answer : Answer) :
    SameStreams (s.slot sessionId) ((s.step options (.proceed ticket answer)).slot sessionId) := by
  have hslot := slot_step options s sessionId (.proceed ticket answer)
  split at hslot
  · rename_i frame given hevent
    obtain ⟨_, _, call, previous, haction, hentry⟩ := sessionEvent_segment hevent
    cases haction
    exact absurd hentry (h call previous frame)
  · rename_i index hevent
    rw [sessionEvent] at hevent
    split at hevent
    · split at hevent <;> cases hevent
    · cases hevent
  · exact hslot

/-! ### Steps -/

/-- Every socket has been sent what its subscriber received, in order; `since` says for each socket
which revisions were stored after its subscriber was registered. -/
def Framing (since : ℕ → StreamRequest → SessionRecord → ℕ → Prop) (service : Service)
    (connections : List StreamConnection) : Prop :=
  ∀ (number : ℕ) (connection : StreamConnection), connections[number]? = some connection →
    Served (since number) service connection ∧ Framed service connection

/-- What is known of the stored revisions takes in a step: a socket that gets its subscriber joins
at the stored record, and what is stored before the step was stored since an earlier joining. -/
structure Recorded (options : ServiceOptions) (s : QaraaServer) (action : ServerAction)
    (since : ℕ → StreamRequest → SessionRecord → ℕ → Prop) : Prop where
  joins : ∀ (number : ℕ) (connection after : StreamConnection),
    s.connections[number]? = some connection →
      (s.step options action).connections[number]? = some after →
        JoinsStored (since number) s.service connection after
  stored : ∀ (number : ℕ) (request : StreamRequest) (joined : SessionRecord) (published : ℕ)
    (record : SessionRecord), since number request joined published →
      (s.service.slot request.sessionId).record = some record →
        since number request joined record.snapshot.revision

namespace Framing

variable {since : ℕ → StreamRequest → SessionRecord → ℕ → Prop} {service : Service}
  {connections : List StreamConnection}

/-- More was stored meanwhile. -/
lemma mono (h : Framing since service connections)
    {later : ℕ → StreamRequest → SessionRecord → ℕ → Prop}
    (hlater : ∀ number request joined published, since number request joined published →
      later number request joined published) : Framing later service connections :=
  fun number connection hget => ⟨(h number connection hget).1.mono
    fun joined published => hlater number connection.request joined published,
    (h number connection hget).2⟩

/-- No operation goes on. -/
lemma served (h : Framing since service connections) {action : ServiceAction}
    (hquiet : ∀ ticket answer, action ≠ .proceed ticket answer) :
    Framing since (service.step options action) connections :=
  fun number connection hget => ⟨(h number connection hget).1.quiet hquiet,
    (h number connection hget).2.step action⟩

/-- One more socket. -/
lemma append (h : Framing since service connections) {connection : StreamConnection}
    (hserved : Served (since connections.length) service connection)
    (hframed : Framed service connection) :
    Framing since service (connections ++ [connection]) := by
  intro number found hget
  rcases getElem?_concat_cases hget with hold | ⟨rfl, heq⟩
  · exact h number found hold
  · cases heq
    exact ⟨hserved, hframed⟩

/-- One socket has changed. -/
lemma set (h : Framing since service connections) {number : ℕ} {connection : StreamConnection}
    (hserved : Served (since number) service connection) (hframed : Framed service connection) :
    Framing since service (connections.set number connection) := by
  intro found socket hget
  rw [List.getElem?_set] at hget
  split at hget
  · rename_i hnumber
    subst hnumber
    split at hget
    · cases hget
      exact ⟨hserved, hframed⟩
    · cases hget
  · exact h found socket hget

/-- An operation goes on. -/
lemma proceeded {s : QaraaServer} (h : Framing since s.service s.connections) (hwired : Wired s)
    (hsound : Sound s.service) (hpurposeful : ∀ sessionId, Purposeful s.service sessionId)
    (ticket : ℕ) (answer : ServerAnswer)
    (hrecorded : Recorded options s (.proceed ticket answer) since) :
    Framing since (s.proceed options ticket answer).service
      (s.proceed options ticket answer).connections := by
  obtain ⟨hjoins, hstored⟩ := hrecorded
  rw [QaraaServer.step] at hjoins
  rw [QaraaServer.proceed] at hjoins ⊢
  split at hjoins
  · exact h
  · rename_i entry hentry
    intro number connection hget
    dsimp only at hget ⊢
    rw [List.getElem?_mapIdx] at hget
    obtain ⟨old, hold, heq⟩ := Option.map_eq_some_iff.mp hget
    obtain ⟨hserved, hframed⟩ := h number old hold
    replace hjoins := hjoins number old connection
    dsimp only at hjoins
    rw [List.getElem?_mapIdx, hold, Option.map_some, heq] at hjoins
    subst heq
    split
    · rename_i hkey
      obtain ⟨key, call, previous, phase⟩ := entry
      dsimp only at hkey ⊢
      subst hkey
      -- the operation is of the session of this socket
      by_cases hruns : ∃ frame, phase = .running frame
      · obtain ⟨frame, rfl⟩ := hruns
        exact ⟨hserved.proceeded hwired hsound (hpurposeful _) hold hentry answer rfl
          (fun hnone hindex => hjoins rfl rfl hnone (by rw [if_pos rfl]; exact hindex))
          (hstored number old.request),
          (hframed.follow fun hclosing => hframed.unheard hserved hsound hclosing hentry _ _
            (Service.step_proceed options hentry _).1).step _⟩
      · have hidle : ∀ call previous frame, s.service.entries[ticket]?
            ≠ some ⟨old.request.sessionId, call, previous, .running frame⟩ := by
          intro _ _ frame hfound
          rw [hentry] at hfound
          exact hruns ⟨frame, congrArg Entry.phase (Option.some.inj hfound)⟩
        have hsame := slot_idle options hidle (s.given old.request.sessionId ticket answer)
        rw [QaraaServer.given] at hsame
        rw [follow_still _ _ _ hsame]
        refine ⟨hserved.still hsame.delivered hsame.subscriptions
          (fun _ hmem => hsame.subscribers ▸ hmem) (outcome_same ?_), hframed.step _⟩
        intro ticket' _ found frame _ haction hfound hrunning
        cases haction
        rw [hentry] at hfound
        cases hfound
        exact hruns ⟨frame, hrunning⟩
    · rename_i hkey
      -- the operation is of another session: nothing changes in this one
      have hidle : ∀ call previous frame, s.service.entries[ticket]?
          ≠ some ⟨old.request.sessionId, call, previous, .running frame⟩ := by
        intro _ _ frame hfound
        rw [hentry] at hfound
        exact hkey (congrArg Entry.key (Option.some.inj hfound)).symm
      have hsame := slot_idle options hidle (s.given entry.key ticket answer)
      refine ⟨hserved.still hsame.delivered hsame.subscriptions
        (fun _ hmem => hsame.subscribers ▸ hmem) (outcome_same ?_), hframed.step _⟩
      intro ticket' _ found frame hticket haction hfound _
      cases haction
      exact hkey (call_of_socket hwired hold hticket hentry).1.symm

/-- **Every step keeps the sockets in order.** -/
theorem step {s : QaraaServer} (h : Framing since s.service s.connections) (hwired : Wired s)
    (hsound : Sound s.service) (hpurposeful : ∀ sessionId, Purposeful s.service sessionId)
    (action : ServerAction) (hrecorded : Recorded options s action since) :
    Framing since (s.step options action).service (s.step options action).connections := by
  have hstep := step_serverStep options s action
  generalize s.step options action = after at hstep
  cases hstep with
  | idle _ => exact h
  | turnedAway request newId error away => exact h
  | called request newId route serviceAction routed calls admitted =>
      obtain ⟨key, frame, hcall, -⟩ := action_call calls admitted
      refine h.served fun ticket answer heq => ?_
      rw [heq] at hcall
      cases hcall
  | answered number => exact h
  | refused request fails invalid =>
      -- a socket with invalid parameters gets an error and no subscription
      have hserved : Served (since s.connections.length) s.service { request := request } :=
        .fresh rfl rfl rfl
      have hframed : Framed s.service { request := request } := .fresh rfl rfl rfl
      exact h.append
        (hserved.same (sendErrorAndClose_same _ _ _ _) (sendErrorAndClose_frames _ _ _ _))
        (hframed.sendErrorAndClose rfl (Or.inl rfl) _ _ _)
  | subscribed request fails lastSnapshotRevision valid =>
      -- the promise of a subscription just called is pending
      have hpending : (s.service.step options (.subscribe s.connections.length
          ⟨request.id, request.sessionId, lastSnapshotRevision⟩)).outcome
            (some s.service.entries.length) = none := by
        refine Option.eq_none_iff_forall_ne_some.mpr fun outcome hsome => ?_
        rcases outcome_back hsome with hold | ⟨_, _, _, _, _, haction, -⟩
        · obtain ⟨entry, hentry, -⟩ := outcome_entry.mp hold
          exact absurd (List.getElem?_eq_some_iff.mp hentry).1 (lt_irrefl _)
        · cases haction
      exact (h.served fun _ _ heq => by cases heq).append (.fresh rfl rfl hpending)
        (.fresh rfl rfl rfl)
  | fulfilled number fails connection index get pending outcome =>
      -- a socket that was closed meanwhile unsubscribes at once
      have hafter : Framing since (if connection.disconnected then
          s.service.step options (.unsubscribe connection.request.sessionId index)
        else s.service) s.connections := by
        split
        · exact h.served fun _ _ heq => by cases heq
        · exact h
      obtain ⟨hserved, hframed⟩ := hafter number connection get
      refine hafter.set (hserved.congr rfl rfl rfl id) ?_
      exact ⟨hframed.sent, hframed.closes, hframed.once, hframed.unclosed,
        fun hclosing => (hframed.turned hclosing).imp_right fun hboth => ⟨rfl, hboth.2⟩⟩
  | rejected number fails connection error get pending outcome =>
      obtain ⟨hserved, hframed⟩ := h number connection get
      -- it has not been closed yet: its promise was neither handled nor fulfilled
      have hopen : connection.closing = none := by
        by_contra hclosing
        rcases hframed.turned hclosing with hnone | ⟨hhandled, -⟩
        · rw [hnone] at outcome
          cases outcome
        · rw [pending] at hhandled
          cases hhandled
      refine h.set (hserved.congr (onRejected_same _ _ _).wire (onRejected_frames _ _ _).index
        (onRejected_frames _ _ _).events fun hstill => ?_) ?_
      · exact (onRejected_same connection error fails).disconnected.symm.trans hstill
      · have hhandled : Framed s.service { connection with handled := true } :=
          ⟨hframed.sent, hframed.closes, hframed.once, hframed.unclosed,
            fun hclosing => absurd hopen hclosing⟩
        rw [StreamConnection.onRejected.eq_def]
        dsimp only
        split
        · exact hhandled
        · cases error <;> exact hhandled.sendErrorAndClose hopen
            (Or.inr ⟨rfl, _, outcome⟩) _ _ _
  | flushed number =>
      intro found socket hget
      change (s.connections.modify number StreamConnection.flushed)[found]? = some socket at hget
      rw [List.getElem?_modify] at hget
      obtain ⟨old, hold, heq⟩ := Option.map_eq_some_iff.mp hget
      obtain ⟨hserved, hframed⟩ := h found old hold
      split at heq
      · rw [← heq]
        exact ⟨hserved.same (flushed_same old) (flushed_frames old), hframed.flushed⟩
      · rw [← heq]
        exact ⟨hserved, hframed⟩
  | closed number connection get =>
      have hclosed : ∀ service, Framing since service s.connections →
          Framing since service (s.connections.set number connection.onClose) := by
        intro service hafter
        obtain ⟨hserved, hframed⟩ := hafter number connection get
        refine hafter.set (hserved.congr rfl rfl rfl fun hopen => by cases hopen) ?_
        exact ⟨hframed.sent, hframed.closes, hframed.once, hframed.unclosed, hframed.turned⟩
      refine hclosed _ ?_
      cases connection.unsubscribe with
      | none => exact h
      | some index => exact h.served fun _ _ heq => by cases heq
  | queued _ serviceAction isQueued =>
      refine h.served fun ticket answer heq => ?_
      rcases isQueued with ⟨_, rfl⟩ | ⟨_, rfl⟩ | ⟨_, rfl⟩ <;> cases heq
  | proceeded ticket answer => exact h.proceeded hwired hsound hpurposeful ticket answer hrecorded

end Framing

/-- A store that commits or refuses what it is given keeps a service sound. -/
lemma sound_of_run (options : ServiceOptions) (actions : List ServerAction)
    (hclean : ∀ action ∈ actions, action.onStore [.committed, .refused] = true) :
    Sound (QaraaServer.run options {} actions).service ∧
      ∀ sessionId, Purposeful (QaraaServer.run options {} actions).service sessionId := by
  obtain ⟨serviceActions, hservice, hstore⟩ := run_service options actions hclean
  rw [hservice]
  exact ⟨run_sound options sound_empty (Along.of_forall options
    (fun action hmem s => cleanFailure_of_onStore (hstore action hmem) s) State.empty),
    fun sessionId => purposeful_run options serviceActions sessionId⟩

/-- The step `action` after `earlier` gives a socket its subscriber, which is the next one of its
session; `joined` is the record stored then. -/
structure SubscribesAt (options : ServiceOptions) (earlier : List ServerAction)
    (action : ServerAction) (number : ℕ) (request : StreamRequest) (joined : SessionRecord) :
    Prop where
  before : ∃ connection,
    (QaraaServer.run options {} earlier).connections[number]? = some connection ∧
      connection.request = request ∧ connection.index = none
  after : ∃ connection,
    (QaraaServer.run options {} (earlier ++ [action])).connections[number]? = some connection ∧
      connection.index
        = some ((QaraaServer.run options {} earlier).service.slot request.sessionId).subscriptions
  stored : ((QaraaServer.run options {} earlier).service.slot request.sessionId).record
    = some joined

/-- In the run of `actions` a socket got its subscriber when the store held `joined`, and then or
later it held a record of the revision `published`. -/
def StoredSince (options : ServiceOptions) (actions : List ServerAction) (number : ℕ)
    (request : StreamRequest) (joined : SessionRecord) (published : ℕ) : Prop :=
  ∃ earlier action middle record,
    earlier ++ [action] <+: actions ∧ SubscribesAt options earlier action number request joined ∧
    earlier <+: middle ∧ middle <+: actions ∧
    ((QaraaServer.run options {} middle).service.slot request.sessionId).record = some record ∧
    record.snapshot.revision = published

lemma StoredSince.mono {options : ServiceOptions} {actions later : List ServerAction}
    (hlater : actions <+: later) {number : ℕ} {request : StreamRequest} {joined : SessionRecord}
    {published : ℕ} (h : StoredSince options actions number request joined published) :
    StoredSince options later number request joined published := by
  obtain ⟨earlier, action, middle, record, hearlier, hsubscribes, hmiddle, hactions, hrecord⟩ := h
  exact ⟨earlier, action, middle, record, hearlier.trans hlater, hsubscribes, hmiddle,
    hactions.trans hlater, hrecord⟩

/-- What was stored in a run takes in its last step. -/
lemma recorded_run (options : ServiceOptions) (actions : List ServerAction)
    (action : ServerAction) :
    Recorded options (QaraaServer.run options {} actions) action
      (StoredSince options (actions ++ [action])) := by
  have hprefix : actions <+: actions ++ [action] := List.prefix_append _ _
  refine ⟨fun number connection after hget hafter hnone hindex record hrecord => ?_,
    fun number request joined published record hsince hrecord => ?_⟩
  · rw [← QaraaServer.run_concat] at hafter
    exact ⟨actions, action, actions, record, List.prefix_refl _,
      ⟨⟨connection, hget, rfl, hnone⟩, ⟨after, hafter, hindex⟩, hrecord⟩, List.prefix_refl _,
      hprefix, hrecord, rfl⟩
  · obtain ⟨earlier, joining, -, -, hearlier, hsubscribes, -⟩ := hsince
    have hsooner : earlier <+: actions := by
      refine List.prefix_of_prefix_length_le
        ((List.prefix_append _ _).trans hearlier) hprefix ?_
      have hle := hearlier.length_le
      rw [List.length_append, List.length_append] at hle
      exact Nat.le_of_add_le_add_right hle
    exact ⟨earlier, joining, actions, record, hearlier, hsubscribes, hsooner, hprefix, hrecord, rfl⟩

/-- **The sockets are in order in every run.** -/
lemma framing_run (options : ServiceOptions) (actions : List ServerAction)
    (hclean : ∀ action ∈ actions, action.onStore [.committed, .refused] = true) :
    Framing (StoredSince options actions) (QaraaServer.run options {} actions).service
      (QaraaServer.run options {} actions).connections := by
  induction actions using List.reverseRecOn with
  | nil =>
      intro number connection hget
      cases hget
  | append_singleton actions action ih =>
      have hearlier : ∀ a ∈ actions, a.onStore [.committed, .refused] = true :=
        fun a hmem => hclean a (List.mem_append_left _ hmem)
      obtain ⟨hsound, hpurposeful⟩ := sound_of_run options actions hearlier
      have hframing : Framing (StoredSince options (actions ++ [action])) _ _ :=
        (ih hearlier).mono fun _ _ _ _ => StoredSince.mono (List.prefix_append _ _)
      rw [QaraaServer.run_concat]
      exact hframing.step (wired_run options actions) hsound hpurposeful action
        (recorded_run options actions action)

/-! ### Disconnected sockets -/

/-- A step sends nothing on a socket whose `close` event was handled. -/
lemma disconnected_step (options : ServiceOptions) {s : QaraaServer} {number : ℕ}
    {connection : StreamConnection}
    (hget : s.connections[number]? = some connection) (hgone : connection.disconnected = true)
    (action : ServerAction) :
    ∃ after, (s.step options action).connections[number]? = some after ∧
      after.disconnected = true ∧ after.sent = connection.sent := by
  have hstep := step_serverStep options s action
  generalize s.step options action = next at hstep
  have happend : ∀ new, (s.connections ++ [new])[number]? = some connection := by
    intro new
    rw [List.getElem?_append_left (List.getElem?_eq_some_iff.mp hget).1, hget]
  have hset : ∀ (number' : ℕ) (old new : StreamConnection), s.connections[number']? = some old →
      (old.disconnected = true → new.disconnected = true ∧ new.sent = old.sent) →
      ∃ after, (s.connections.set number' new)[number]? = some after ∧
        after.disconnected = true ∧ after.sent = connection.sent := by
    intro number' old new hold hnew
    rw [List.getElem?_set]
    split
    · rename_i heq
      subst heq
      rw [hget] at hold
      cases hold
      rw [if_pos (List.getElem?_eq_some_iff.mp hget).1]
      exact ⟨new, rfl, hnew hgone⟩
    · exact ⟨connection, hget, hgone, rfl⟩
  cases hstep with
  | idle _ => exact ⟨connection, hget, hgone, rfl⟩
  | turnedAway request newId error away => exact ⟨connection, hget, hgone, rfl⟩
  | called request newId route serviceAction routed calls admitted =>
      exact ⟨connection, hget, hgone, rfl⟩
  | answered number' => exact ⟨connection, hget, hgone, rfl⟩
  | refused request fails invalid => exact ⟨connection, happend _, hgone, rfl⟩
  | subscribed request fails lastSnapshotRevision valid =>
      exact ⟨connection, happend _, hgone, rfl⟩
  | fulfilled number' fails old index get pending outcome =>
      exact hset number' old _ get fun hold => ⟨hold, rfl⟩
  | rejected number' fails old error get pending outcome =>
      refine hset number' old _ get fun hold => ?_
      rw [StreamConnection.onRejected.eq_def]
      dsimp only
      rw [if_pos hold]
      exact ⟨hold, rfl⟩
  | flushed number' =>
      rw [QaraaServer.flush]
      dsimp only
      rw [List.getElem?_modify, hget]
      refine ⟨_, rfl, ?_⟩
      dsimp only
      by_cases hnumber : number' = number
      · rw [if_pos hnumber]
        refine ⟨(flushed_same connection).disconnected.trans hgone, ?_⟩
        rw [StreamConnection.flushed.eq_def]
        split
        · rw [StreamConnection.close]
          split <;> rfl
        · rfl
      · rw [if_neg hnumber]
        exact ⟨hgone, rfl⟩
  | closed number' old get => exact hset number' old _ get fun _ => ⟨rfl, rfl⟩
  | queued _ serviceAction isQueued => exact ⟨connection, hget, hgone, rfl⟩
  | proceeded ticket answer =>
      rw [QaraaServer.proceed]
      split
      · exact ⟨connection, hget, hgone, rfl⟩
      · dsimp only
        rw [List.getElem?_mapIdx, hget, Option.map_some]
        refine ⟨_, rfl, ?_⟩
        split
        · refine ⟨(follow_same _ _ _ _ _).disconnected.trans hgone, ?_⟩
          rw [follow_sent, hgone, if_pos rfl, List.map_nil, List.append_nil]
        · exact ⟨hgone, rfl⟩

/-- **Nothing is sent on a socket after its `close` event.** -/
theorem disconnected_run (options : ServiceOptions) (s : QaraaServer) {number : ℕ}
    {connection : StreamConnection}
    (hget : s.connections[number]? = some connection) (hgone : connection.disconnected = true)
    (later : List ServerAction) :
    ∃ after, (s.run options later).connections[number]? = some after ∧
      after.disconnected = true ∧ after.sent = connection.sent := by
  induction later using List.reverseRecOn with
  | nil => exact ⟨connection, hget, hgone, rfl⟩
  | append_singleton later action ih =>
      obtain ⟨old, hold, hstill, hsent⟩ := ih
      obtain ⟨after, hafter, hgoneAfter, hsentAfter⟩ :=
        disconnected_step options hold hstill action
      rw [QaraaServer.run_concat]
      exact ⟨after, hafter, hgoneAfter, hsentAfter.trans hsent⟩

/-! ### The stream of a socket -/

/-- What a sound service has published: the stored revision, or the one before it while the
publication is due. -/
lemma Sound.published {s : Service} (h : Sound s) (sessionId : String) :
    ∃ published, Streams (s.slot sessionId) published ∧
      ∀ record, (s.slot sessionId).record = some record → record.snapshot.revision = published ∨
        record.snapshot.revision = published + 1 ∧ ∃ y ∈ s.queue sessionId, ∃ requestId,
          y.2.phase = .running (.publish requestId record.snapshot true) := by
  by_cases hidle : ∀ y ∈ s.queue sessionId, ∀ frame, y.2.phase ≠ .running frame
  · obtain ⟨published, hstreams, hrecord⟩ := (h.settled hidle).streams none
    refine ⟨published, hstreams, fun record hsome => Or.inl ?_⟩
    refine (hrecord record hsome).resolve_right ?_
    rintro ⟨-, requestId, hnone⟩
    cases hnone
  · simp only [not_forall, not_not] at hidle
    obtain ⟨y, hy, frame, hframe⟩ := hidle
    obtain ⟨published, hstreams, hrecord⟩ := ((h sessionId).2.busy y hy frame hframe).streams
    refine ⟨published, hstreams, fun record hsome => (hrecord record hsome).imp_right ?_⟩
    rintro ⟨hnext, requestId, heq⟩
    cases heq
    exact ⟨hnext, y, hy, requestId, hframe⟩

/-- The revisions a socket was sent. -/
def StreamConnection.revisions (connection : StreamConnection) : List ℕ :=
  connection.events.map fun event => event.snapshot.revision

/-- **The frames of a socket.** In every run of a server over a store that commits or refuses what
it is given, a socket is sent events that name its request and its session, then at most one error
that names its request; it is closed at most once; and after its `close` event nothing is sent. The
revisions of the events are the first ones of those retained, in the record stored when it got its
subscriber, after the one it negotiated, followed by each later revision up to one stored then or
later, once and in order. A socket with a subscriber has been sent no error
and was not closed; while it is open it has been sent all that was published, and the stored
revision is the last one published or is about to be published. -/
theorem stream_frames (options : ServiceOptions) (actions : List ServerAction)
    (hclean : ∀ action ∈ actions, action.onStore [.committed, .refused] = true) (number : ℕ)
    (connection : StreamConnection) :
    let s := QaraaServer.run options {} actions
    s.connections[number]? = some connection →
    (∃ errors : List QaraaErrorEnvelope,
      connection.sent = connection.events.map .event ++ errors.map .error ∧ errors.length ≤ 1 ∧
        ∀ envelope ∈ errors, envelope.requestId = connection.request.id) ∧
    (∀ event ∈ connection.events, event.requestId = connection.request.id ∧
      event.sessionId = connection.request.sessionId) ∧
    (connection.events ≠ [] → ∃ last joined published,
      negotiate connection.request = some last ∧
        StoredSince options actions number connection.request joined published ∧
        connection.revisions <+: streamed last joined.snapshot.revision published) ∧
    connection.closes.length ≤ 1 ∧
    (connection.disconnected = true → ∀ later, ∃ after,
      (s.run options later).connections[number]? = some after ∧ after.sent = connection.sent) ∧
    ∀ subscriber ∈ (s.service.slot connection.request.sessionId).subscribers,
      subscriber.listener = number →
        connection.sent = connection.events.map .event ∧ connection.closes = [] ∧
        (connection.disconnected = false → ∃ last published,
          negotiate connection.request = some last ∧
          connection.revisions = streamed last subscriber.joined.snapshot.revision published ∧
          ∀ record, (s.service.slot connection.request.sessionId).record = some record →
            record.snapshot.revision = published ∨ record.snapshot.revision = published + 1 ∧
              ∃ y ∈ s.service.queue connection.request.sessionId, ∃ requestId,
                y.2.phase = .running (.publish requestId record.snapshot true)) := by
  intro s hget
  have hwired : Wired s := wired_run options actions
  obtain ⟨hsound, -⟩ := sound_of_run options actions hclean
  obtain ⟨hserved, hframed⟩ := framing_run options actions hclean number connection hget
  refine ⟨?_, fun event hmem => ?_, fun hsome => ?_, hframed.once, fun hgone later => ?_,
    fun subscriber hmem hlistener => ?_⟩
  · obtain ⟨errors, hsent, hfew, hnamed⟩ := hframed.sent
    refine ⟨errors, hsent, hfew, fun envelope hmem => ?_⟩
    obtain ⟨code, error, -, rfl⟩ := hnamed envelope hmem
    rfl
  · cases hindex : connection.index with
    | none =>
        rw [hserved.unborn hindex] at hmem
        cases hmem
    | some index =>
        obtain ⟨last, joined, -, hfed⟩ := hserved.fed index hindex
        exact hfed.named event (hfed.sent.subset hmem)
  · cases hindex : connection.index with
    | none => exact absurd (hserved.unborn hindex) hsome
    | some index =>
        obtain ⟨last, joined, hnegotiate, hfed⟩ := hserved.fed index hindex
        obtain ⟨published, hsince, hstream⟩ := hfed.stream
        exact ⟨last, joined, published, hnegotiate, hsince, (hfed.sent.map _).trans hstream⟩
  · obtain ⟨after, hafter, -, hsent⟩ := disconnected_run options s hget hgone later
    exact ⟨after, hafter, hsent⟩
  -- the subscriber is that of a live socket, which is this one
  · obtain ⟨found, ticket, hfound, -, -, hticket, hresolves⟩ :=
      live_of_subscriber (attached_run options actions) hwired hmem
    rw [hlistener, hget] at hfound
    cases hfound
    have houtcome := outcome_eq_some.mpr ⟨_, _, hresolves⟩
    rw [← hticket] at houtcome
    have hindex := hserved.answered _ houtcome
    obtain ⟨last, joined, hnegotiate, hfed⟩ := hserved.fed _ hindex
    have hopen : connection.closing = none := by
      by_contra hclosing
      rcases hframed.turned hclosing with hnone | ⟨-, error, herror⟩
      · rw [hnone] at hticket
        cases hticket
      · rw [houtcome] at herror
        cases herror
    obtain ⟨hsent, hcloses⟩ := hframed.open_sent hopen
    refine ⟨hsent, hcloses, fun hstill => ?_⟩
    -- a subscriber has received all that was published, and an open socket was sent it
    obtain ⟨published, hstreams, hrecord⟩ := hsound.published connection.request.sessionId
    have hreceived := (hstreams.each subscriber hmem).received
    rw [received_eq, List.map_map, (hfed.command subscriber hmem rfl).2.1] at hreceived
    refine ⟨last, published, hnegotiate, ?_, hrecord⟩
    rw [StreamConnection.revisions, hfed.kept hstill subscriber hmem rfl]
    exact hreceived

lemma sampleUuid_notBlank : isBlank "u" = false := by decide

lemma sampleUuid_notBlank' : isBlank "v" = false := by decide

/-- A request with a body. -/
def sampleRequest (route : Route) (fields : List (String × JsValue)) : HttpRequest where
  intake := .routed route
  body := .object (("protocolVersion", natValue PROTOCOL_VERSION) :: fields)
  queryRequestId := none
  headerRequestId := none
  queryVersion := none
  headerVersion := none
  commandUuid := ⟨"u", sampleUuid_notBlank⟩
  errorUuid := ⟨"v", sampleUuid_notBlank'⟩

/-- Session `A` is created. -/
def sampleCreate : HttpRequest :=
  sampleRequest .create [("requestId", .string "c"), ("type", .string "session.create"),
    ("corpusId", .string "sample")]

/-- A submission to session `A`. -/
def sampleSubmit : HttpRequest :=
  let value := sampleObservation "a" 1 true ["p0"]
  sampleRequest (.observations "A") [("requestId", .string "o"),
    ("type", .string "observation.submit"), ("sessionId", .string "A"),
    ("observationId", value.field "observationId"),
    ("sourceRevision", value.field "sourceRevision"), ("isFinal", value.field "isFinal"),
    ("receivedAtMs", value.field "receivedAtMs"), ("tokens", value.field "tokens")]

/-- A socket for session `A`. -/
def sampleStream : StreamRequest :=
  ⟨"A", none, none, some "w", ⟨"u", sampleUuid_notBlank⟩⟩

/-- An operation that is served in `segments` segments. -/
def serveServer (ticket segments : ℕ) : List ServerAction :=
  .start ticket :: List.replicate segments (.proceed ticket {}) ++ [.drain ticket, .clean ticket]

/-- A session is created, a socket subscribes to it, and an observation is submitted. -/
def serverSample : List ServerAction :=
  [.receive sampleCreate "A"] ++ serveServer 0 3 ++ [.answer 0, .connect sampleStream false]
    ++ serveServer 1 2 ++ [.settle 0 false, .receive sampleSubmit ""] ++ serveServer 2 2
    ++ [.answer 1]

/-- The socket of the sample has received the first revision, and it is streamed from a record that
was stored. -/
theorem stream_frames_sample :
    ∃ connection,
      (QaraaServer.run singleOptions {} serverSample).connections[0]? = some connection ∧
      connection.revisions = [1] ∧
      ∃ last joined published, negotiate connection.request = some last ∧
        StoredSince singleOptions serverSample 0 connection.request joined published ∧
        connection.revisions <+: streamed last joined.snapshot.revision published := by
  have hsome : ((QaraaServer.run singleOptions {} serverSample).connections[0]?.map
      StreamConnection.revisions) = some [1] := by decide +kernel
  obtain ⟨connection, hget, hrevisions⟩ := Option.map_eq_some_iff.mp hsome
  refine ⟨connection, hget, hrevisions, ?_⟩
  have hframes := stream_frames singleOptions serverSample (by decide) 0 connection hget
  refine hframes.2.2.1 fun hnone => ?_
  rw [StreamConnection.revisions, hnone] at hrevisions
  cases hrevisions

end Qaraa.SessionService
