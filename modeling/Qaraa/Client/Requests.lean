import Qaraa.Client.MutationOrder

/-!
The requests of a remote session.

* `Mutation.awaited`: the command whose answer a mutation awaits.
* `Calm`: a change in which no mutation takes a turn.
* `Turned`, `resume_turned`: what a segment of a mutation does, by its frame and its answer.
* `Requested`: the requests are those of the log, and the one awaited is the last.
* `Sound.remembered`: a submission that resolves has succeeded itself, or another with its id
  has, after all resets called before it that succeed.
-/

namespace Qaraa.Client

open Ordered KeyedQueue Chronicle

/-- What a command asks for. -/
def RemoteCommand.kind : RemoteCommand → Option Kind
  | .submit command =>
      match command.observationId with
      | .string observationId => some (.submission observationId)
      | _ => none
  | .reset _ => some .reset

/-- The session a request names. -/
def RemoteCommand.sessionId : RemoteCommand → String
  | .submit command => command.sessionId
  | .reset command => command.sessionId

/-- The command whose answer a mutation awaits. -/
def Mutation.awaited (options : RemoteOptions) : Mutation → Option RemoteCommand
  | .submitting o requestId _ => some (.submit (o.command options requestId))
  | .resetting location requestId => some (.reset ⟨requestId, options.sessionId, location⟩)
  | _ => none

lemma Mutation.awaited_kind {options : RemoteOptions} {frame : Mutation} {command : RemoteCommand}
    (h : frame.awaited options = some command) : command.kind = some frame.kind := by
  cases frame with
  | submitting o requestId attempt =>
      cases h
      rfl
  | resetting location requestId =>
      cases h
      rfl
  | _ => cases h

lemma Mutation.awaited_session {options : RemoteOptions} {frame : Mutation}
    {command : RemoteCommand} (h : frame.awaited options = some command) :
    command.sessionId = options.sessionId := by
  cases frame with
  | submitting o requestId attempt =>
      cases h
      rfl
  | resetting location requestId =>
      cases h
      rfl
  | _ => cases h

/-- A request an act sends. -/
def Act.request : Act → Option (ℕ × Option Kind)
  | .fetched ticket kind => some (ticket, some kind)
  | _ => none

lemma Act.request_of_turn {act : Act} (h : act.turn = none) : act.request = none := by
  cases act with
  | fetched ticket kind => cases h
  | _ => rfl

namespace RemoteSession

variable {s s' s'' : RemoteSession} {options : RemoteOptions}

/-- No mutation takes a turn. -/
structure Calm (options : RemoteOptions) (s s' : RemoteSession) : Prop where
  requests : s'.requests = s.requests
  acts : ∃ new, s'.acts = s.acts ++ new ∧ ∀ act ∈ new, act.turn = none
  awaiting : ∀ ticket frame command, frame.awaited options = some command →
    (s'.Runs ticket frame ↔ s.Runs ticket frame)

namespace Calm

lemma same (hrequests : s'.requests = s.requests) (hacts : s'.acts = s.acts)
    (hmutations : s'.mutations = s.mutations) : Calm options s s' where
  requests := hrequests
  acts := ⟨[], by rw [hacts, List.append_nil], fun _ h => (by cases h)⟩
  awaiting := fun ticket frame command _ => by rw [Runs, Runs, hmutations]

lemma refl (s : RemoteSession) : Calm options s s := same rfl rfl rfl

lemma trans (h : Calm options s s') (h' : Calm options s' s'') : Calm options s s'' := by
  obtain ⟨new, hacts, hnew⟩ := h.acts
  obtain ⟨new', hacts', hnew'⟩ := h'.acts
  refine ⟨h'.requests.trans h.requests, ⟨new ++ new', ?_, fun act hact => ?_⟩,
    fun ticket frame command hawaited =>
      (h'.awaiting ticket frame command hawaited).trans (h.awaiting ticket frame command hawaited)⟩
  · rw [hacts', hacts, List.append_assoc]
  · rcases List.mem_append.mp hact with hact | hact
    · exact hnew act hact
    · exact hnew' act hact

lemma act (s : RemoteSession) {act : Act} (h : act.turn = none) : Calm options s (s.act act) where
  requests := rfl
  acts := ⟨[act], rfl, by simpa using h⟩
  awaiting := fun _ _ _ _ => Iff.rfl

/-- A mutation that has been called does not run yet. -/
lemma enqueueMutation (s : RemoteSession) (mutation : Mutation) :
    Calm options s (s.enqueueMutation mutation) where
  requests := rfl
  acts := ⟨[_], rfl, by simp [Act.turn]⟩
  awaiting := fun ticket frame command _ => by
    constructor
    · rintro ⟨key, call, previous, hentry⟩
      change (s.mutations.entries ++ [_])[ticket]? = _ at hentry
      rw [List.getElem?_append] at hentry
      split at hentry
      · exact ⟨key, call, previous, hentry⟩
      · rw [List.getElem?_singleton] at hentry
        split at hentry
        · cases hentry
        · cases hentry
    · rintro ⟨key, call, previous, hentry⟩
      exact ⟨key, call, previous, s.enqueueMutation_entries mutation hentry⟩

/-- Other parts of the session change as well. -/
lemma congr (h : Calm options s s') (hrequests : s''.requests = s'.requests)
    (hacts : s''.acts = s'.acts) (hmutations : s''.mutations = s'.mutations) :
    Calm options s s'' :=
  h.trans (same hrequests hacts hmutations)

end Calm

lemma disposeSocket_requests (s : RemoteSession) : s.disposeSocket.requests = s.requests := by
  rw [disposeSocket]
  split <;> rfl

lemma Exchange.calm (h : Exchange s s') : Calm options s s' := by
  cases h with
  | listeners listeners => exact .same rfl rfl rfl
  | heard listener _ => exact .act s rfl
  | refused _ => exact .act s rfl
  | held observationId _ _ _ => exact .act s rfl
  | shared observationId existing _ _ _ => exact .act s rfl
  | submitted o _ => exact (Calm.enqueueMutation s (.submit o)).congr rfl rfl rfl
  | reset location _ => exact (Calm.enqueueMutation s (.reset location)).congr rfl rfl rfl
  | adopted next _ _ => exact .same rfl rfl rfl
  | closed hopen =>
      have hclose : s.close = { s.disposeSocket with
          closed := true
          listeners := .empty
          acknowledged := .empty
          submissions := .empty
          queuedNotifications := []
          reconnectTask := false
          socketDisposer := none
          socket := none
          socketGeneration := s.socketGeneration + 1
          acts := s.acts ++ [.closed] } := by
        rw [close, if_neg (by simp [hopen])]
      have hwritten : Calm options s (s.act .closed) := .act s rfl
      rw [hclose]
      exact hwritten.congr s.disposeSocket_requests rfl s.disposeSocket_same.2

lemma Exchanges.calm (h : Exchanges s s') : Calm options s s' := by
  induction h with
  | refl => exact .refl s
  | tail _ hlast ih => exact ih.trans hlast.calm

lemma OnlyStream.calm (h : OnlyStream s s') : Calm options s s' := by
  obtain ⟨new, hacts, hnew⟩ := h.acts
  refine ⟨h.requests, ⟨new, hacts, fun act hact => ?_⟩, fun ticket frame command _ => by
    rw [Runs, Runs, h.mutations]⟩
  have hstream := hnew act hact
  cases act <;> first | rfl | exact hstream.elim

/-- A promise that moves on, from and to phases without an awaited request. -/
lemma Calm.put {ticket : ℕ} {entry : Entry Unit Mutation Outcome}
    {phase : Phase Mutation Outcome} (hentry : s.mutations.entries[ticket]? = some entry)
    (hentries : s'.mutations.entries = (s.mutations.put ticket phase).entries)
    (hrequests : s'.requests = s.requests) (hacts : s'.acts = s.acts)
    (hbefore : ∀ frame, entry.phase = .running frame → frame.awaited options = none)
    (hafter : ∀ frame, phase = .running frame → frame.awaited options = none) :
    Calm options s s' where
  requests := hrequests
  acts := ⟨[], by rw [hacts, List.append_nil], fun _ h => (by cases h)⟩
  awaiting := fun i frame command hawaited => by
    rw [Runs, Runs, hentries, entries_put]
    by_cases hi : ticket = i
    · subst hi
      rw [if_pos rfl, hentry]
      constructor
      · rintro ⟨key, call, previous, hrunning⟩
        cases hrunning
        rw [hafter frame rfl] at hawaited
        cases hawaited
      · rintro ⟨key, call, previous, hrunning⟩
        cases hrunning
        rw [hbefore frame rfl] at hawaited
        cases hawaited
    · rw [if_neg hi]

/-- A mutation that has been called awaits nothing yet. -/
lemma InOrder.call_awaited (h : s.InOrder) {ticket : ℕ} {entry : Entry Unit Mutation Outcome}
    (hentry : s.mutations.entries[ticket]? = some entry) :
    entry.call.awaited options = none := by
  have hcall := (h.calls ticket entry hentry).2
  cases hmutation : entry.call with
  | submit o => rfl
  | retrying o requestId attempt => rfl
  | reset location => rfl
  | submitting o requestId attempt => exact absurd (hmutation ▸ trivial) hcall
  | resetting location requestId => exact absurd (hmutation ▸ trivial) hcall

lemma start_calm (h : s.InOrder) (ticket : ℕ) : Calm options s (s.start ticket) := by
  rw [start, State.step]
  split
  · rename_i key call previous hentry
    split
    · refine Calm.put hentry rfl rfl rfl (fun frame hframe => by cases hframe)
        fun frame hframe => ?_
      cases hframe
      exact h.call_awaited hentry
    · exact .same rfl rfl rfl
  · exact .same rfl rfl rfl

lemma settle_calm (s : RemoteSession) (ticket : ℕ) : Calm options s (s.settle ticket) := by
  rw [settle]
  split
  · rename_i key call previous result hentry
    have hdrain : Calm options s (s.drain ticket) := by
      have hentries : (s.drain ticket).mutations.entries
          = (s.mutations.put ticket (.drained result)).entries := by
        rw [drain, State.step, hentry]
      exact Calm.put hentry hentries rfl rfl (fun frame hframe => by cases hframe)
        fun frame hframe => by cases hframe
    refine hdrain.congr ?_ ?_ ?_ <;>
    · rw [finish.eq_def]
      split
      · split <;> rfl
      · rfl
  · exact .refl s

/-! ### Segments -/

/-- No mutation awaits an answer. -/
def Idle (options : RemoteOptions) (s : RemoteSession) : Prop :=
  ∀ ticket frame, s.Runs ticket frame → frame.awaited options = none

/-- What a segment of a mutation does. -/
inductive Turned (options : RemoteOptions) (ticket : ℕ) (answer : Answer) (s : RemoteSession) :
    RemoteSession → Prop
  | calm {s' : RemoteSession} (calm : Calm options s s')
      (idle : ∀ frame, s.Runs ticket frame → frame.awaited options = none) :
      Turned options ticket answer s s'
  | sent {s' : RemoteSession} (frame next : Mutation) (command : RemoteCommand)
      (runs : s.Runs ticket frame) (idle : frame.awaited options = none)
      (goes : s'.Runs ticket next) (awaits : next.awaited options = some command)
      (same : next.kind = frame.kind) (requests : s'.requests = s.requests ++ [⟨ticket, command⟩])
      (acts : s'.acts = s.acts ++ [.fetched ticket frame.kind]) :
      Turned options ticket answer s s'
  /-- A submission whose id is remembered. -/
  | remembered {s' : RemoteSession} (o : Submission) (runs : s.Runs ticket (.submit o))
      (isOpen : s.closed = false) (known : s.acknowledged.has o.observationId = true)
      (requests : s'.requests = s.requests)
      (acts : s'.acts = s.acts ++ [.resolved ticket (.submission o.observationId)])
      (idle : s'.Idle options) : Turned options ticket answer s s'
  | rejected {s' : RemoteSession} (frame : Mutation) (error : SessionError)
      (runs : s.Runs ticket frame)
      (response : ∀ command, frame.awaited options = some command →
        ∀ next, answer.response ≠ .updated next)
      (requests : s'.requests = s.requests)
      (acts : s'.acts = s.acts ++ [.failed ticket frame.kind error])
      (idle : s'.Idle options) : Turned options ticket answer s s'
  /-- A submission is to be sent again. -/
  | waits {s' : RemoteSession} (frame : Mutation) (command : RemoteCommand)
      (runs : s.Runs ticket frame) (awaited : frame.awaited options = some command)
      (response : answer.response = .failed true) (requests : s'.requests = s.requests)
      (acts : s'.acts = s.acts) (idle : s'.Idle options) :
      Turned options ticket answer s s'
  | succeeded {s' : RemoteSession} (frame : Mutation) (command : RemoteCommand)
      (next : ReadingSnapshot) (mid : List Act) (runs : s.Runs ticket frame)
      (awaited : frame.awaited options = some command) (response : answer.response = .updated next)
      (calls : ∀ act ∈ mid, act.turn = none) (requests : s'.requests = s.requests)
      (acts : s'.acts
        = s.acts ++ .succeeded ticket frame.kind :: (mid ++ [.resolved ticket frame.kind]))
      (idle : s'.Idle options) : Turned options ticket answer s s'

/-- Requests and log only grow. -/
lemma Turned.grows {ticket : ℕ} {answer : Answer} (h : Turned options ticket answer s s') :
    s.requests <+: s'.requests ∧ s.acts <+: s'.acts := by
  cases h with
  | calm hcalm _ =>
      obtain ⟨new, hacts, -⟩ := hcalm.acts
      exact ⟨hcalm.requests ▸ List.prefix_refl _, hacts ▸ List.prefix_append _ _⟩
  | sent _ _ _ _ _ _ _ _ hrequests hacts =>
      exact ⟨hrequests ▸ List.prefix_append _ _, hacts ▸ List.prefix_append _ _⟩
  | remembered _ _ _ _ hrequests hacts _ =>
      exact ⟨hrequests ▸ List.prefix_refl _, hacts ▸ List.prefix_append _ _⟩
  | rejected _ _ _ _ hrequests hacts _ =>
      exact ⟨hrequests ▸ List.prefix_refl _, hacts ▸ List.prefix_append _ _⟩
  | waits _ _ _ _ _ hrequests hacts _ =>
      exact ⟨hrequests ▸ List.prefix_refl _, hacts ▸ List.prefix_refl _⟩
  | succeeded _ _ _ _ _ _ _ _ hrequests hacts _ =>
      exact ⟨hrequests ▸ List.prefix_refl _, hacts ▸ List.prefix_append _ _⟩

lemma Calm.idle_iff (h : Calm options s s') : s'.Idle options ↔ s.Idle options := by
  have hawaited : ∀ {frame : Mutation}, frame.awaited options ≠ none →
      ∃ command, frame.awaited options = some command := Option.ne_none_iff_exists'.mp
  constructor
  · intro hidle ticket frame hruns
    by_contra hsome
    obtain ⟨command, hcommand⟩ := hawaited hsome
    exact hsome (hidle ticket frame ((h.awaiting ticket frame command hcommand).mpr hruns))
  · intro hidle ticket frame hruns
    by_contra hsome
    obtain ⟨command, hcommand⟩ := hawaited hsome
    exact hsome (hidle ticket frame ((h.awaiting ticket frame command hcommand).mp hruns))

/-- The mutation under way settles, or waits without a request. -/
lemma goOn_idle (horder : s.InOrder) {mid : RemoteSession}
    (hsame : ∀ other frame' command, frame'.awaited options = some command →
      mid.Runs other frame' → s.Runs other frame')
    {ticket : ℕ} {frame : Mutation} (hruns : s.Runs ticket frame) (hmid : mid.Runs ticket frame)
    (kind : Kind) {next : Mutation ⊕ Outcome}
    (hnext : ∀ frame', next = .inl frame' → frame'.awaited options = none) :
    (mid.goOn ticket kind next).Idle options := by
  rintro other frame' ⟨key, call, previous, hentry⟩
  rw [InOrder.goOn_entries hmid, entries_put] at hentry
  split at hentry
  · obtain ⟨key', call', previous', hentry'⟩ := hmid
    rename_i heq
    rw [← heq, hentry'] at hentry
    cases next with
    | inl after =>
        cases hentry
        exact hnext _ rfl
    | inr outcome => cases hentry
  · rename_i hne
    by_contra hawaited
    obtain ⟨command, hcommand⟩ := Option.ne_none_iff_exists'.mp hawaited
    exact hne (horder.unique hruns
      (hsame other frame' command hcommand ⟨key, call, previous, hentry⟩))

lemma goOn_runs {ticket : ℕ} {frame next : Mutation} (hruns : s.Runs ticket frame) (kind : Kind) :
    (s.goOn ticket kind (.inl next)).Runs ticket next := by
  have hentries := InOrder.goOn_entries hruns kind (.inl next)
  obtain ⟨key, call, previous, hentry⟩ := hruns
  refine ⟨key, call, previous, ?_⟩
  rw [hentries, entries_put, if_pos rfl, hentry]
  rfl

/-- The answer to a request is taken: `taken` is the session with the act. -/
lemma succeeded_turned (horder : s.InOrder) {ticket : ℕ} {frame : Mutation}
    {command : RemoteCommand} (hruns : s.Runs ticket frame)
    (hawaited : frame.awaited options = some command) {answer : Answer} {next : ReadingSnapshot}
    (hresponse : answer.response = .updated next) {taken : RemoteSession}
    (hrequests : taken.requests = s.requests) (hmutations : taken.mutations = s.mutations)
    (hacts : taken.acts = s.acts ++ [.succeeded ticket frame.kind]) :
    Turned options ticket answer s
      ((taken.notify answer.behave next).goOn ticket frame.kind
        (.inr (.ok (taken.notify answer.behave next).snapshot))) := by
  have hnotify : Calm options taken (taken.notify answer.behave next) :=
    (notify_exchanges answer.behave next taken).calm
  obtain ⟨mid, hmid, hcalls⟩ := hnotify.acts
  have hsame : ∀ other frame', taken.Runs other frame' ↔ s.Runs other frame' := by
    intro other frame'
    rw [Runs, Runs, hmutations]
  have hmid' : (taken.notify answer.behave next).Runs ticket frame :=
    (hnotify.awaiting ticket frame command hawaited).mpr ((hsame ticket frame).mpr hruns)
  refine .succeeded frame command next mid hruns hawaited hresponse hcalls
    (hnotify.requests.trans hrequests) ?_ (goOn_idle horder (fun other frame' command' hcommand h =>
      (hsame other frame').mp ((hnotify.awaiting other frame' command' hcommand).mp h))
      hruns hmid' frame.kind fun _ heq => by cases heq)
  change (taken.notify answer.behave next).acts ++ [_] = _
  rw [hmid, hacts]
  simp

/-- **What a segment of a mutation does.** -/
theorem resume_turned (horder : s.InOrder) (ticket : ℕ) (answer : Answer) :
    Turned options ticket answer s (s.resume options ticket answer) := by
  rw [resume]
  split
  · rename_i key call previous frame hentry
    have hruns : s.Runs ticket frame := ⟨key, call, previous, hentry⟩
    -- a closed session, an error of the response or the last attempt: the mutation fails
    have hreject : ∀ error, (∀ command, frame.awaited options = some command →
        ∀ next, answer.response ≠ .updated next) →
        Turned options ticket answer s
          ((s.rejectWith error).1.goOn ticket frame.kind (s.rejectWith error).2) := by
      intro error hresponse
      exact .rejected frame error hruns hresponse rfl rfl
        (goOn_idle horder (fun _ _ _ _ h => h) hruns hruns frame.kind fun _ heq => by cases heq)
    have hidle : ∀ {frame : Mutation}, frame.awaited options = none → ∀ command,
        frame.awaited options = some command → ∀ next, answer.response ≠ .updated next := by
      intro frame hnone command hsome
      rw [hnone] at hsome
      cases hsome
    cases frame with
    | submit o =>
        rw [proceed]
        split
        · exact hreject _ (hidle rfl)
        · rename_i hopen
          split
          -- the observation was acknowledged meanwhile
          · rename_i hknown
            exact .remembered o hruns ((Bool.not_eq_true _).mp hopen) hknown rfl rfl
              (goOn_idle horder (fun _ _ _ _ h => h) hruns hruns _ fun _ heq => by cases heq)
          · refine .sent (.submit o) (.submitting o _ 1) _ hruns rfl ?_ rfl rfl rfl
              (List.append_nil _)
            exact goOn_runs (s := s.identify.send ticket (.submission o.observationId) _) hruns _
    | submitting o requestId attempt =>
        rw [proceed]
        split
        · rename_i next hresponse
          have hacts : (s.acknowledge ticket o.observationId).acts
              = s.acts ++ [.succeeded ticket (.submission o.observationId)] := rfl
          exact succeeded_turned horder hruns rfl hresponse rfl rfl hacts
        · rename_i hresponse
          split
          · exact hreject _ fun _ _ next heq => by
              rw [hresponse] at heq
              cases heq
          -- the fetch was rejected with an attempt left: the mutation waits to send it again
          · exact .waits (.submitting o requestId attempt) _ hruns rfl hresponse rfl
              (List.append_nil _)
              (goOn_idle horder (fun _ _ _ _ h => h) hruns hruns _ fun frame' hnext => by
                cases hnext
                rfl)
        · rename_i hupdated _
          exact hreject _ fun _ _ next heq => hupdated next heq
    | retrying o requestId attempt =>
        rw [proceed]
        split
        · exact hreject _ (hidle rfl)
        · split
          · exact hreject _ (hidle rfl)
          · refine .sent (.retrying o requestId attempt) (.submitting o requestId (attempt + 1)) _
              hruns rfl ?_ rfl rfl rfl (List.append_nil _)
            exact goOn_runs (s := s.send ticket (.submission o.observationId) _) hruns _
    | reset location =>
        rw [proceed]
        split
        · exact hreject _ (hidle rfl)
        · refine .sent (.reset location) (.resetting location _) _ hruns rfl ?_ rfl rfl rfl
            (List.append_nil _)
          exact goOn_runs (s := s.identify.send ticket .reset _) hruns _
    | resetting location requestId =>
        rw [proceed]
        split
        · rename_i next hresponse
          have hacts : (s.forget ticket).acts = s.acts ++ [.succeeded ticket .reset] := rfl
          exact succeeded_turned horder hruns rfl hresponse rfl rfl hacts
        · rename_i hupdated
          exact hreject _ fun _ _ next heq => hupdated next heq
  · rename_i hnone
    refine .calm (.refl s) ?_
    rintro frame ⟨key, call, previous, hentry⟩
    exact absurd hentry (hnone key call previous frame)

/-- A mutation that gets its answer sends nothing in the same segment. -/
lemma Turned.requests_of_awaited {ticket : ℕ} {answer : Answer}
    (h : Turned options ticket answer s s') {frame : Mutation} {command : RemoteCommand}
    (hruns : s.Runs ticket frame) (hawaited : frame.awaited options = some command) :
    s'.requests = s.requests := by
  have hframe : ∀ {frame'}, s.Runs ticket frame' → frame'.awaited options ≠ none := by
    rintro frame' ⟨key', call', previous', hentry'⟩
    obtain ⟨key, call, previous, hentry⟩ := hruns
    rw [hentry] at hentry'
    cases hentry'
    rw [hawaited]
    exact fun heq => by cases heq
  cases h with
  | calm _ hidle => exact absurd (hidle frame hruns) (hframe hruns)
  | sent frame' next command' hruns' hidle _ _ _ _ _ => exact absurd hidle (hframe hruns')
  | remembered o _ _ _ hrequests _ _ => exact hrequests
  | rejected frame' error _ _ hrequests _ _ => exact hrequests
  | waits frame' command' _ _ _ hrequests _ _ => exact hrequests
  | succeeded frame' command' next mid _ _ _ _ hrequests _ _ => exact hrequests

/-- A step that is no segment of a mutation takes no turn. -/
lemma step_calm (horder : s.InOrder) (action : RemoteAction)
    (hresume : ∀ ticket answer, action ≠ .resume ticket answer) :
    Calm options s (s.step options action) := by
  cases action with
  | call call => exact (perform_exchanges call s).calm
  | start ticket => exact start_calm horder ticket
  | resume ticket answer => exact absurd rfl (hresume ticket answer)
  | settle ticket => exact settle_calm s ticket
  | deliver behave =>
      rw [step, deliverNext]
      split
      · exact .refl s
      · rename_i next rest _
        have hrest : Calm options s { s with queuedNotifications := rest } := .same rfl rfl rfl
        exact hrest.trans (notify_exchanges behave next _).calm
  | delayed delay => exact (delayed_onlyStream options delay s).calm
  | reconnected => exact (reconnected_onlyStream options s).calm
  | socketEvent generation event =>
      cases event with
      | opened =>
          have hstep : StreamStep options s _ _ := .opened generation
          exact hstep.onlyStream.calm
      | closed code =>
          have hstep : StreamStep options s _ _ := .hungUp generation code
          exact hstep.onlyStream.calm
      | message snapshot =>
          have henqueue : ∀ next, Calm options s (s.enqueue next) := by
            intro next
            rw [enqueue]
            split
            · exact .refl s
            · exact .same rfl rfl rfl
          rw [step, socketEvent.eq_def]
          split
          · cases snapshot with
            | none => exact .refl s
            | some next =>
                dsimp only
                split
                · exact .refl s
                · exact henqueue next
          · exact .refl s

/-! ### The requests of a session -/

/-- The requests are those of the log, and the one awaited is the last. -/
structure Requested (options : RemoteOptions) (s : RemoteSession) : Prop where
  session : ∀ request ∈ s.requests, request.command.sessionId = options.sessionId
  log : s.requests.map (fun request => (request.ticket, request.command.kind))
    = s.acts.filterMap Act.request
  awaiting : ∀ ticket frame command, s.Runs ticket frame → frame.awaited options = some command →
    s.requests.getLast? = some ⟨ticket, command⟩

namespace Requested

lemma fresh (snapshot : ReadingSnapshot) : (loaded snapshot).Requested options where
  session := fun request hrequest => (by cases hrequest)
  log := rfl
  awaiting := fun ticket frame command hruns _ => by
    obtain ⟨key, call, previous, hentry⟩ := hruns
    simp [loaded, State.empty] at hentry

/-- Acts without a request are written, and no mutation awaits another request. -/
lemma congr (h : s.Requested options) (hrequests : s'.requests = s.requests) {new : List Act}
    (hacts : s'.acts = s.acts ++ new) (hnew : ∀ act ∈ new, act.request = none)
    (hawaiting : ∀ ticket frame command, s'.Runs ticket frame →
      frame.awaited options = some command → s.Runs ticket frame) : s'.Requested options where
  session := hrequests ▸ h.session
  log := by
    have hnone : new.filterMap Act.request = [] := List.filterMap_eq_nil_iff.mpr hnew
    rw [hrequests, hacts, List.filterMap_append, hnone, List.append_nil]
    exact h.log
  awaiting := fun ticket frame command hruns hawaited => by
    rw [hrequests]
    exact h.awaiting ticket frame command (hawaiting ticket frame command hruns hawaited) hawaited

lemma calm (h : s.Requested options) (hcalm : Calm options s s') : s'.Requested options := by
  obtain ⟨new, hacts, hnew⟩ := hcalm.acts
  exact h.congr hcalm.requests hacts (fun act hact => Act.request_of_turn (hnew act hact))
    fun ticket frame command hruns hawaited =>
      (hcalm.awaiting ticket frame command hawaited).mp hruns

/-- No mutation awaits an answer any more. -/
lemma idle (h : s.Requested options) (hrequests : s'.requests = s.requests) {new : List Act}
    (hacts : s'.acts = s.acts ++ new) (hnew : ∀ act ∈ new, act.request = none)
    (hidle : s'.Idle options) : s'.Requested options := by
  refine h.congr hrequests hacts hnew fun ticket frame command hruns hawaited => ?_
  rw [hidle ticket frame hruns] at hawaited
  cases hawaited

lemma turned (h : s.Requested options) (horder' : s'.InOrder) {ticket : ℕ} {answer : Answer}
    (hturned : Turned options ticket answer s s') : s'.Requested options := by
  cases hturned with
  | calm hcalm _ => exact h.calm hcalm
  | sent frame next command hruns _ hgoes hawaits hsame hrequests hacts =>
      refine ⟨fun request hrequest => ?_, ?_, fun other frame' command' hruns' hawaited => ?_⟩
      · rw [hrequests] at hrequest
        rcases List.mem_append.mp hrequest with hrequest | hrequest
        · exact h.session request hrequest
        · rw [List.mem_singleton.mp hrequest]
          exact Mutation.awaited_session hawaits
      · rw [hrequests, hacts, List.map_append, List.filterMap_append, h.log]
        simp [Act.request, Mutation.awaited_kind hawaits, hsame]
      · obtain rfl := horder'.unique hgoes hruns'
        obtain ⟨key, call, previous, hentry⟩ := hgoes
        obtain ⟨key', call', previous', hentry'⟩ := hruns'
        rw [hentry] at hentry'
        cases hentry'
        rw [hawaits] at hawaited
        cases hawaited
        rw [hrequests, List.getLast?_concat]
  | remembered o _ _ _ hrequests hacts hidle =>
      exact h.idle hrequests hacts (by simp [Act.request]) hidle
  | rejected frame error _ _ hrequests hacts hidle =>
      exact h.idle hrequests hacts (by simp [Act.request]) hidle
  | waits frame command _ _ _ hrequests hacts hidle =>
      exact h.idle hrequests (hacts.trans (List.append_nil _).symm) (by simp) hidle
  | succeeded frame command next mid _ _ _ hcalls hrequests hacts hidle =>
      refine h.idle hrequests hacts (fun act hact => ?_) hidle
      simp only [List.mem_cons, List.mem_append, List.not_mem_nil, or_false] at hact
      rcases hact with rfl | hact | rfl
      · rfl
      · exact Act.request_of_turn (hcalls act hact)
      · rfl

end Requested

/-! ### Submissions that resolve -/

/-- A submission resolves when it has succeeded, or when its id is remembered. -/
def Confirmed (log : List Act) : Act → Prop
  | .resolved ticket (.submission observationId) =>
      .succeeded ticket (.submission observationId) ∈ log ∨ Acked log observationId
  | _ => True

lemma confirmed_of_turn {log : List Act} {act : Act} (h : act.turn = none) : Confirmed log act := by
  cases act with
  | resolved ticket kind => cases h
  | _ => trivial

lemma Calm.confirmed (h : Calm options s s') (hlog : Obeys Confirmed s.acts) :
    Obeys Confirmed s'.acts := by
  obtain ⟨new, hacts, hnew⟩ := h.acts
  rw [hacts]
  refine hlog.append fun before act after hsplit => confirmed_of_turn (hnew act ?_)
  rw [hsplit]
  simp

lemma Turned.confirmed (h : s.Sound) {ticket : ℕ} {answer : Answer}
    (hturned : Turned options ticket answer s s') (hlog : Obeys Confirmed s.acts) :
    Obeys Confirmed s'.acts := by
  cases hturned with
  | calm hcalm _ => exact hcalm.confirmed hlog
  | sent frame next command _ _ _ _ _ _ hacts => exact hacts ▸ hlog.concat trivial
  | remembered o _ hopen hknown _ hacts _ =>
      exact hacts ▸ hlog.concat (Or.inr ((h.remembers.acked hopen _).mp hknown))
  | rejected frame error _ _ _ hacts _ => exact hacts ▸ hlog.concat trivial
  | waits frame command _ _ _ _ hacts _ => exact hacts ▸ hlog
  | succeeded frame command next mid _ _ _ hcalls _ hacts _ =>
      have htaken : Obeys Confirmed (s.acts ++ [.succeeded ticket frame.kind]) :=
        hlog.concat trivial
      have hcalled : Obeys Confirmed (s.acts ++ [.succeeded ticket frame.kind] ++ mid) :=
        htaken.append fun before act after hsplit =>
          confirmed_of_turn (hcalls act (by simp [hsplit]))
      have hresolved : Confirmed (s.acts ++ [.succeeded ticket frame.kind] ++ mid)
          (.resolved ticket frame.kind) := by
        cases hkind : frame.kind with
        | submission observationId => exact Or.inl (by simp)
        | reset => trivial
      have hall := hcalled.concat hresolved
      rw [hacts]
      simpa using hall

/-- The submission that has confirmed one that resolves: it was called after the resets that
were called before and that succeed. -/
lemma Sound.remembered (h : s.Sound) (hlog : Obeys Confirmed s.acts) {ticket : ℕ}
    {observationId : String} (hresolved : .resolved ticket (.submission observationId) ∈ s.acts) :
    ∃ other, .succeeded other (.submission observationId) ∈ s.acts ∧
      ∀ reset < ticket, .succeeded reset .reset ∈ s.acts → reset < other := by
  obtain ⟨before, after, hacts⟩ := List.append_of_mem hresolved
  rcases hlog before _ after hacts with hdone | hacked
  · refine ⟨ticket, ?_, fun reset hlt _ => hlt⟩
    rw [hacts]
    exact List.mem_append_left _ hdone
  · obtain ⟨other, hresets, hdone, -⟩ := h.acked_after hacts hacked
    refine ⟨other, hacts ▸ List.mem_append_left _ hdone, fun reset hlt hsucceeded => ?_⟩
    refine hresets reset ?_
    rw [hacts] at hsucceeded
    refine (List.mem_append.mp hsucceeded).resolve_right fun hlater => ?_
    rcases List.mem_cons.mp hlater with hcontra | hlater
    · cases hcontra
    · obtain ⟨mid, rest, rfl⟩ := List.append_of_mem hlater
      rcases h.inOrder.turns.between hacts rfl rfl with ⟨-, hcontra⟩ | ⟨hgt, -⟩
      · cases hcontra
      · exact absurd (hlt.trans hgt) (lt_irrefl _)

/-- A submission answered with the snapshot held is confirmed by one called after the resets
called before that succeed. -/
lemma Sound.held_remembered (h : s.Sound) {before after : List Act} {observationId : String}
    (hacts : s.acts = before ++ .held observationId :: after) :
    ∃ other, .succeeded other (.submission observationId) ∈ s.acts ∧
      ∀ reset, .queued reset .reset ∈ before → .succeeded reset .reset ∈ s.acts →
        reset < other := by
  obtain ⟨-, hacked, hsettled⟩ := h.log _ _ _ hacts
  obtain ⟨other, hresets, hdone, -⟩ := h.acked_after hacts hacked
  exact ⟨other, hacts ▸ List.mem_append_left _ hdone, fun reset hqueued hsucceeded =>
    hresets reset (h.succeeded_before hacts (hsettled reset hqueued) hsucceeded)⟩

/-! ### Runs -/

/-- All that holds of a session and its requests. -/
structure Tracked (options : RemoteOptions) (s : RemoteSession) : Prop where
  sound : s.Sound
  requested : s.Requested options
  confirmed : Obeys Confirmed s.acts

lemma createRemoteSession_tracked {first : Except SessionError ReadingSnapshot} {dial : Dial}
    (h : createRemoteSession options first dial = .ok s) : s.Tracked options := by
  obtain ⟨snapshot, -, hstream⟩ := createRemoteSession_onlyStream h
  have hcalm : Calm options (loaded snapshot) s := hstream.calm
  exact ⟨createRemoteSession_sound h, (Requested.fresh snapshot).calm hcalm, hcalm.confirmed .nil⟩

namespace Tracked

lemma sound_step (h : s.Tracked options) (action : RemoteAction) : (s.step options action).Sound :=
  run_sound options h.sound [action]

lemma step (h : s.Tracked options) (action : RemoteAction) :
    (s.step options action).Tracked options := by
  have hsound := h.sound_step action
  by_cases hresume : ∃ ticket answer, action = .resume ticket answer
  · obtain ⟨ticket, answer, rfl⟩ := hresume
    have hturned : Turned options ticket answer s (s.step options (.resume ticket answer)) :=
      resume_turned h.sound.inOrder ticket answer
    exact ⟨hsound, h.requested.turned hsound.inOrder hturned, hturned.confirmed h.sound h.confirmed⟩
  · have hcalm : Calm options s (s.step options action) :=
      step_calm h.sound.inOrder action fun ticket answer heq => hresume ⟨ticket, answer, heq⟩
    exact ⟨hsound, h.requested.calm hcalm, hcalm.confirmed h.confirmed⟩

/-- Requests are sent in the order of the calls. -/
lemma inTurn (h : s.Tracked options) {i j : ℕ} {x y : Request} (hx : s.requests[i]? = some x)
    (hy : s.requests[j]? = some y) (hij : i < j) : x.ticket ≤ y.ticket := by
  have hturns : (s.acts.filterMap Act.turn).Pairwise fun x y => x.1 ≤ y.1 := by
    refine List.IsChain.pairwise (h.sound.inOrder.turns.imp fun x y hfollows => ?_)
    rw [Turn.Follows] at hfollows
    split at hfollows
    · exact hfollows.le
    · exact hfollows.ge
  have hrequests : (s.acts.filterMap Act.request).Pairwise fun x y => x.1 ≤ y.1 := by
    refine List.pairwise_filterMap.mpr ((List.pairwise_filterMap.mp hturns).imp ?_)
    intro a b hle u hu v hv
    cases a with
    | fetched ticket kind =>
        cases b with
        | fetched ticket' kind' =>
            cases hu
            cases hv
            exact hle _ rfl _ rfl
        | _ => cases hv
    | _ => cases hu
  rw [← h.requested.log] at hrequests
  obtain ⟨hi, rfl⟩ := List.getElem?_eq_some_iff.mp hx
  obtain ⟨hj, rfl⟩ := List.getElem?_eq_some_iff.mp hy
  exact List.pairwise_iff_getElem.mp (List.pairwise_map.mp hrequests) i j hi hj hij

end Tracked

end RemoteSession

end Qaraa.Client
