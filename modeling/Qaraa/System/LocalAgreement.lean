import Qaraa.Client.LocalSession
import Qaraa.Server.StoreFailures

/-!
A local session and a session of the server, side by side.

* `Service.serve`: a call of the service, carried through before the next one.
* `SessionCommand`: the submissions and resets both take.
* `SideBySide`: both sessions have the same tracker, and the record agrees with it.
* `SideBySide.reset`, `SideBySide.submit`: one command on both sides.
* `local_agrees`: **after every sequence of commands both hold the same snapshot, and
  answer alike but for stale submissions**.
-/

namespace Qaraa.SessionService

open Fallible Ordered KeyedQueue Client

/-! ### One call after the other -/

/-- A call of the service over the default store, carried through before the next one. -/
def Service.serve (options : ServiceOptions) (resolved : ResolverAnswer) (s : Service)
    (action : ServiceAction) : Service :=
  s.run options ([action, .start s.entries.length]
    ++ List.replicate 3 (.proceed s.entries.length { corpus := resolved })
    ++ [.drain s.entries.length, .clean s.entries.length])

/-- What the promise of the last call on a session was settled with. -/
def Service.reply (s : Service) (sessionId : String) : Option Outcome :=
  (s.queue sessionId).getLast?.bind fun y => y.2.phase.result

/-- The session is orderly and all its promises have settled. -/
structure AtRest (s : Service) (sessionId : String) : Prop where
  orderly : Orderly (s.at sessionId)
  drained : ∀ y ∈ (s.at sessionId).queue, y.Drained

/-- An answer of the default store. -/
structure Answer.Default (resolved : ResolverAnswer) (answer : Answer) : Prop where
  store : answer.store = .committed
  corpus : answer.corpus = resolved

/-- A call that is queued at rest is performed. -/
lemma serve_performed (options : ServiceOptions) (resolved : ResolverAnswer) {s s' : Service}
    {sessionId : String} {action : ServiceAction} {frame : Frame}
    (hlength : s'.entries.length = s.entries.length)
    (haction : s.step options action = State.step (program options) s' (.call sessionId frame))
    (hrest : AtRest s' sessionId) :
    ∃ first second third : Answer, first.Default resolved ∧ second.Default resolved ∧
      third.Default resolved ∧ ∀ slot result,
      (program options).perform sessionId (s'.slot sessionId)
        ⟨frame, [.inl first, .inl second, .inl third]⟩ = (slot, .settled result) →
      AtRest (s.serve options resolved action) sessionId ∧
      (s.serve options resolved action).slot sessionId = slot ∧
      (s.serve options resolved action).reply sessionId = some result := by
  let answer : Answer := { corpus := resolved }
  let called : Service := State.step (program options) s' (.call sessionId frame)
  let started : Service := State.step (program options) called (.start s.entries.length)
  let first := Service.answering options started answer
  let once : Service := State.step (program options) started (.resume s.entries.length first)
  let second := Service.answering options once answer
  let twice : Service := State.step (program options) once (.resume s.entries.length second)
  let third := Service.answering options twice answer
  have hserve : s.serve options resolved action = State.serve (program options) s' sessionId
      ⟨frame, [.inl first, .inl second, .inl third]⟩ := by
    rw [Service.serve, State.serve, Service.run, hlength]
    show List.foldl (Service.step options) (s.step options action) _ = _
    rw [haction]
    rfl
  refine ⟨first, second, third, ⟨rfl, rfl⟩, ⟨rfl, rfl⟩, ⟨rfl, rfl⟩, fun slot result hperform => ?_⟩
  obtain ⟨e, -, hphase, hqueue, hslot⟩ := serve_at (program options) hrest.orderly
    hrest.drained ⟨frame, [.inl first, .inl second, .inl third]⟩
  rw [hperform] at hphase hslot
  refine ⟨⟨?_, ?_⟩, ?_, ?_⟩
  · rw [hserve]
    exact run_orderly (program options) hrest.orderly _
  · rw [hserve, hqueue]
    intro y hy
    rcases List.mem_append.mp hy with hy | hy
    · exact hrest.drained y hy
    · rw [List.mem_singleton.mp hy]
      exact ⟨result, hphase⟩
  · rw [hserve]
    exact hslot
  · rw [hserve, Service.reply]
    rw [show State.queue (State.serve (program options) s' sessionId
      ⟨frame, [.inl first, .inl second, .inl third]⟩) sessionId = _ from hqueue,
      List.getLast?_concat, Option.bind_some, hphase]
    rfl

/-- An operation that settles at once. -/
lemma perform_settled {options : ServiceOptions} {sessionId : String} {slot after : SessionSlot}
    {frame : Frame} {first second third : Answer} {outcome : Outcome}
    (h : proceed options sessionId frame first slot = (after, .inr outcome)) :
    (program options).perform sessionId slot ⟨frame, [.inl first, .inl second, .inl third]⟩
      = (after, .settled outcome) := by
  show ((program options).advance sessionId ((program options).advance sessionId
    ((proceed options sessionId frame first slot).1,
      .after (proceed options sessionId frame first slot).2) (.inl second)) (.inl third)) = _
  rw [h]
  rfl

/-- An operation whose store update has committed. -/
lemma perform_published {options : ServiceOptions} {sessionId : String} {slot after : SessionSlot}
    {frame : Frame} {first second third : Answer} {requestId : String}
    {snapshot : ReadingSnapshot} {changed : Bool}
    (h : proceed options sessionId frame first slot
      = (after, .inl (.publish requestId snapshot changed))) :
    (program options).perform sessionId slot ⟨frame, [.inl first, .inl second, .inl third]⟩
      = (if changed then after.publish second sessionId snapshot else after,
        .settled (.ok (.updated (SessionSlot.event sessionId requestId snapshot)))) := by
  show ((program options).advance sessionId ((program options).advance sessionId
    ((proceed options sessionId frame first slot).1,
      .after (proceed options sessionId frame first slot).2) (.inl second)) (.inl third)) = _
  rw [h]
  rfl

/-! ### Side by side -/

/-- Both sessions have the same tracker, and the record agrees with it. -/
structure SideBySide (config : TrackerConfig) (s : Service) (sessionId : String)
    (session : LocalSession) (record : SessionRecord) : Prop where
  rest : AtRest s sessionId
  tracks : session.Tracks
  origin : ∃ i, symbolIndexAt config.corpus config.defaultInitialLocation = .ok i
  runtime : (s.slot sessionId).runtime = some ⟨session.tracker, config⟩
  stored : (s.slot sessionId).record = some record
  agrees : Agrees ⟨session.tracker, config⟩ record (s.slot sessionId).applied

namespace SideBySide

variable {config : TrackerConfig} {s : Service} {sessionId : String} {session : LocalSession}
  {record : SessionRecord}

/-- Both hold the same snapshot. -/
lemma snapshot (h : SideBySide config s sessionId session record) :
    record.snapshot = session.snapshot := by
  rw [h.tracks.snapshot]
  exact h.agrees.snapshot

/-- A change of both trackers. -/
lemma moved (h : SideBySide config s sessionId session record) {s' : Service}
    {session' : LocalSession} {after : SessionSlot} {next : SessionRecord} {change : Applied}
    (hmoved : Moved (s.slot sessionId) record after next ⟨session'.tracker, config⟩ change)
    (hrest : AtRest s' sessionId) (htracks : session'.Tracks) {answer : Answer}
    (hslot : s'.slot sessionId
      = ({ after with record := some next } : SessionSlot).publish answer sessionId next.snapshot) :
    SideBySide config s' sessionId session' next := by
  obtain ⟨stay, registered, count, hpublish⟩ := publish_eq answer sessionId next.snapshot
    { after with record := some next }
  have hresult := hmoved.result
  refine ⟨hrest, htracks, h.origin, ?_, ?_, ?_⟩
  · rw [hslot, hpublish, hresult]
  · rw [hslot, hpublish]
  · rw [hslot, hpublish, hresult]
    exact hmoved.agrees

/-- A call that leaves the session as it is. -/
lemma unchanged (h : SideBySide config s sessionId session record) {s' : Service}
    (hrest : AtRest s' sessionId) (hslot : s'.slot sessionId = s.slot sessionId) :
    SideBySide config s' sessionId session record := by
  refine ⟨hrest, h.tracks, h.origin, ?_, ?_, ?_⟩
  · rw [hslot]
    exact h.runtime
  · rw [hslot]
    exact h.stored
  · rw [hslot]
    exact h.agrees

/-- The runtime of the server's session. -/
abbrev tracked (config : TrackerConfig) (session : LocalSession) : SessionRuntime :=
  ⟨session.tracker, config⟩

/-- A location of the corpus has a position. -/
lemma exists_position (h : SideBySide config s sessionId session record)
    {location : Option QuranLocation}
    (hlocation : ∀ place ∈ location, hasLocation config.corpus place = true) :
    ∃ i, symbolIndexAt config.corpus (location.getD config.defaultInitialLocation) = .ok i := by
  cases location with
  | none => exact h.origin
  | some place =>
      obtain ⟨symbol, hsymbol, heq⟩ := List.any_eq_true.mp (hlocation place rfl)
      obtain ⟨i, hi⟩ := List.mem_iff_getElem?.mp hsymbol
      refine ⟨i, h.agrees.valid.symbolIndexAt_eq_ok_iff.mpr (locationAt_eq_ok_iff.mpr ?_)⟩
      exact ⟨symbol, hi, eq_of_beq heq⟩

/-- A store update that moves both trackers. -/
lemma accepted (h : SideBySide config s sessionId session record) (options : ServiceOptions)
    (resolved : ResolverAnswer) (react : Reactions) {action : ServiceAction}
    {frame : Frame} {requestId : String} {command : TrackerCommand} {after : SessionSlot}
    {next : SessionRecord} {state : TrackerState} {change : Applied}
    (haction : s.step options action = State.step (program options) s (.call sessionId frame))
    (hproceed : ∀ answer : Answer, answer.store = .committed →
      proceed options sessionId frame answer (s.slot sessionId)
        = ({ after with record := some next }, .inl (.publish requestId next.snapshot true)))
    (hmoved : Moved (s.slot sessionId) record after next
      ((tracked config session).step command) change)
    (hcommand : applyCommand config session.tracker.state command = .ok (next.snapshot, state))
    (hstate : state.snapshot = next.snapshot) :
    SideBySide config (s.serve options resolved action) sessionId
        (session.command react config command).1 next ∧
      (s.serve options resolved action).reply sessionId
        = some (.ok (.updated (SessionSlot.event sessionId requestId next.snapshot))) ∧
      (session.command react config command).2 = .ok next.snapshot := by
  obtain ⟨first, second, third, hfirst, -, -, hserved⟩ :=
    serve_performed options resolved rfl haction h.rest
  obtain ⟨hrest, hslot, hreply⟩ :=
    hserved _ _ (perform_published (hproceed first hfirst.store))
  have hnewer : session.tracker.state.snapshot.revision < state.snapshot.revision := by
    have hrevision := hmoved.revision
    rw [h.snapshot, h.tracks.snapshot] at hrevision
    rw [hstate]
    omega
  rw [← hstate] at hcommand
  obtain ⟨htracks, htracker, hanswer⟩ := h.tracks.accepted react hcommand hnewer
  have hsame : Moved (s.slot sessionId) record after next
      ⟨(session.command react config command).1.tracker, config⟩ change := by
    rw [htracker]
    exact hmoved
  exact ⟨h.moved hsame hrest htracks hslot, hreply, hstate ▸ hanswer⟩

/-- A reset on both sides. -/
lemma reset (h : SideBySide config s sessionId session record) (options : ServiceOptions)
    (resolved : ResolverAnswer) (react : Reactions) (caller : ℕ)
    {command : SessionResetCommand} (hsession : command.sessionId = sessionId)
    (hlocation : ∀ place ∈ command.location, hasLocation config.corpus place = true) :
    ∃ next, SideBySide config (s.serve options resolved (.reset caller command)) sessionId
        (session.reset react config command.location).1 next ∧
      (s.serve options resolved (.reset caller command)).reply sessionId
        = some (.ok (.updated (SessionSlot.event sessionId command.requestId next.snapshot))) ∧
      (session.reset react config command.location).2 = .ok next.snapshot := by
  subst hsession
  obtain ⟨i, hi⟩ := h.exists_position hlocation
  obtain ⟨result, hreset⟩ :
      ∃ result, Qaraa.reset config session.tracker.state command.location = .ok result := by
    rw [Qaraa.reset]
    simp only [hi]
    exact ⟨_, rfl⟩
  obtain ⟨after, next, heq, hmoved, hfirst, hsecond⟩ :=
    resetRecord_ok h.agrees caller command hreset
  have hbad : ¬∃ location ∈ command.location, hasLocation config.corpus location = false := by
    rintro ⟨place, hmem, hnot⟩
    rw [hlocation place hmem] at hnot
    cases hnot
  have hcommand : applyCommand config session.tracker.state (.reset command.location)
      = .ok (next.snapshot, result.2) := by
    rw [applyCommand, hreset, ← hfirst]
  refine ⟨next, h.accepted options resolved react rfl (fun answer hcommitted => ?_) hmoved hcommand
    hsecond⟩
  rw [proceed, h.runtime]
  dsimp only
  rw [if_neg hbad, update, h.stored, hcommitted]
  dsimp only
  rw [heq]
  rfl

/-- A submission on both sides: alike, unless the record finds it out of date. -/
lemma submit (h : SideBySide config s sessionId session record) (options : ServiceOptions)
    (resolved : ResolverAnswer) (react : Reactions) (caller : ℕ)
    {command : ObservationSubmitCommand} (hsession : command.sessionId = sessionId)
    {o : CheckedObservation} (haccepts : admitObservation command = .ok o) :
    ∃ next, SideBySide config (s.serve options resolved (.submit caller command)) sessionId
        (session.submit react config o.value).1 next ∧
      (session.submit react config o.value).2 = .ok next.snapshot ∧
      if o.observation.observationId ∉ record.observationIds ∧
          (o.observation.sourceRevision : ℤ) < record.latestSourceRevision then
        next = record ∧ (s.serve options resolved (.submit caller command)).reply sessionId
          = some (.error (staleRevision record.latestSourceRevision o.observation.sourceRevision))
      else
        (s.serve options resolved (.submit caller command)).reply sessionId
          = some (.ok (.updated
            (SessionSlot.event sessionId command.requestId next.snapshot))) := by
  subst hsession
  have haction : s.step options (.submit caller command) = State.step (program options) s
      (.call command.sessionId (.submit caller command.requestId o)) := by
    rw [Service.step, Service.queueActions, Service.refusal, haccepts]
    rfl
  -- the record admits an observation just when it is no duplicate for the tracker
  by_cases hfresh : record.Admits o.observation
  · obtain ⟨after, next, state, heq, hmoved, hsubmit, hstate, -⟩ :=
      submitRecord_fresh h.agrees h.runtime caller command.sessionId o hfresh
    have hcommand : applyCommand config session.tracker.state (.submit o.value) = _ := hsubmit
    have hproceed : ∀ answer : Answer, answer.store = .committed →
        proceed options command.sessionId (.submit caller command.requestId o) answer
            (s.slot command.sessionId)
          = ({ after with record := some next },
            .inl (.publish command.requestId next.snapshot true)) := by
      intro answer hcommitted
      rw [proceed, update, h.stored, hcommitted]
      dsimp only
      rw [heq]
      rfl
    obtain ⟨hnext, hreply, hlocal⟩ :=
      h.accepted options resolved react haction hproceed hmoved hcommand hstate
    refine ⟨next, hnext, hlocal, ?_⟩
    rw [if_neg fun hstale => absurd hfresh.2 (not_le.mpr hstale.2)]
    exact hreply
  · have hdup : Duplicate session.tracker.state o.observation := by
      refine (h.agrees.duplicate_iff o.observation).mpr ?_
      by_contra hnone
      rw [not_or, not_lt] at hnone
      exact hfresh hnone
    have hsame : Qaraa.submit config session.tracker.state o.value
        = .ok (session.tracker.state.snapshot, session.tracker.state) :=
      submit_duplicate o.checked hdup
    have hstep : session.tracker.step config (.submit o.value) = session.tracker := by
      rw [Traced.step]
      simp only [stepTracker, applyCommand, hsame, History.record, o.checked, if_true]
    -- the local session answers a duplicate with what it holds
    have hlocal : session.submit react config o.value = (session, .ok session.snapshot) :=
      h.tracks.unchanged react hsame hstep
    obtain ⟨first, second, third, hfirst, -, -, hserved⟩ :=
      serve_performed options resolved rfl haction h.rest
    rw [hlocal]
    refine ⟨record, ?_⟩
    -- the service does so for a known id only, and refuses an old source revision
    by_cases hknown : o.observation.observationId ∈ record.observationIds
    · have hproceed : proceed options command.sessionId (.submit caller command.requestId o) first
          (s.slot command.sessionId) = (s.slot command.sessionId,
            .inl (.publish command.requestId record.snapshot false)) := by
        rw [proceed, update, h.stored, hfirst.store]
        dsimp only
        rw [submitRecord, if_pos hknown]
        dsimp only
        rw [← h.stored]
        rfl
      obtain ⟨hrest, hslot, hreply⟩ := hserved _ _ (perform_published hproceed)
      refine ⟨h.unchanged hrest hslot, congrArg Except.ok h.snapshot.symm, ?_⟩
      rw [if_neg fun hstale => hstale.1 hknown]
      exact hreply
    · have hold : (o.observation.sourceRevision : ℤ) < record.latestSourceRevision :=
        not_le.mp fun hle => hfresh ⟨hknown, hle⟩
      have hproceed : proceed options command.sessionId (.submit caller command.requestId o) first
          (s.slot command.sessionId) = (s.slot command.sessionId, .inr (.error
            (staleRevision record.latestSourceRevision o.observation.sourceRevision))) := by
        rw [proceed, update, h.stored, hfirst.store]
        dsimp only
        rw [submitRecord, if_neg hknown, if_pos hold]
        rfl
      obtain ⟨hrest, hslot, hreply⟩ := hserved _ _ (perform_settled hproceed)
      refine ⟨h.unchanged hrest hslot, congrArg Except.ok h.snapshot.symm, ?_⟩
      rw [if_pos ⟨hknown, hold⟩]
      exact ⟨rfl, hreply⟩

end SideBySide

/-! ### Creation -/

variable {options : ServiceOptions} {resolved : ResolverAnswer} {corpusId : String}
  {corpus : JsValue} {initialLocation : Option QuranLocation} {findingMode : Option String}
  {config : TrackerConfig}
  {session : LocalSession}

/-- The service creates the tracker of the local session. -/
lemma createRuntime_eq
    (hcorpus : corpusFor options.fixedCorpus (if options.hasResolver then some resolved else none)
      corpusId = .ok corpus)
    (hlocal : createLocalSession ⟨corpus, initialLocation, findingMode⟩ = .ok (config, session))
    (requestId : String) :
    createRuntime options ⟨requestId, corpusId, initialLocation, findingMode⟩ resolved
      = .ok ⟨session.tracker, config⟩ := by
  rw [createLocalSession, bind_eq_ok] at hlocal
  obtain ⟨index, hindex, hlocal⟩ := hlocal
  rw [bind_eq_ok] at hlocal
  obtain ⟨created, hcreated, hlocal⟩ := hlocal
  cases pure_eq_ok.mp hlocal
  have hknown : ¬∃ location ∈ initialLocation, hasLocation index location = false := by
    rintro ⟨location, rfl, hnot⟩
    obtain ⟨-, hconfig, -, -, i, hi, -⟩ := createReadingTracker_ok hcreated
    have hdefault : created.1.defaultInitialLocation = location := by
      obtain ⟨first, hfirst⟩ : ∃ first, index.symbols.head? = some first := by
        cases hhead : index.symbols.head? with
        | none =>
            rw [createReadingTracker, hhead] at hcreated
            cases hcreated
        | some first => exact ⟨first, rfl⟩
      rw [createReadingTracker, hfirst] at hcreated
      simp only [bind_eq_ok, pure_eq_ok] at hcreated
      obtain ⟨mode, -, position, -, heq⟩ := hcreated
      rw [← heq]
      rfl
    rw [hconfig, hdefault] at hi
    obtain ⟨symbol, hsymbol, heq⟩ := locationAt_eq_ok_iff.mp (locationAt_of_symbolIndexAt hi)
    refine absurd (List.any_eq_true.mpr ⟨symbol, List.mem_of_getElem? hsymbol, ?_⟩)
      (by rw [hasLocation] at hnot; rw [hnot]; decide)
    simpa using heq
  rw [createRuntime, indexedCorpusFor, hcorpus, ok_bind]
  dsimp only
  rw [hindex]
  show (failIf _ _ >>= fun _ => _) = _
  rw [failIf, if_neg hknown, ok_bind, hcreated]
  rfl

/-- Creating a session next to a local one. -/
lemma sideBySide_created (hcapacity : 1 ≤ options.maxSessions)
    (hcorpus : corpusFor options.fixedCorpus (if options.hasResolver then some resolved else none)
      corpusId = .ok corpus)
    (hlocal : createLocalSession ⟨corpus, initialLocation, findingMode⟩ = .ok (config, session))
    (sessionId requestId : String) :
    ∃ record, SideBySide config (Service.serve options resolved State.empty
      (.create sessionId ⟨requestId, corpusId, initialLocation, findingMode⟩)) sessionId session
        record := by
  set command : SessionCreateCommand := ⟨requestId, corpusId, initialLocation, findingMode⟩
  have hruntime := createRuntime_eq hcorpus hlocal requestId
  obtain ⟨tracker, -, -, -, rfl, htracker, htracks⟩ :=
    LocalSession.createLocalSession_ok hlocal
  let reserved : Service :=
    State.step (program options) State.empty (.touch sessionId .reserve)
  have hlength : reserved.entries.length = (State.empty : Service).entries.length := rfl
  have haction : Service.step options State.empty (.create sessionId command)
      = State.step (program options) reserved (.call sessionId (.create command)) := by
    have hopen : ¬((options.maxSessions : ℤ)
        ≤ Service.sessionCount State.empty + Service.reservedSessions State.empty) := by
      show ¬((options.maxSessions : ℤ) ≤ 0)
      omega
    rw [Service.step, Service.queueActions, Service.refusal, if_neg hopen]
    rfl
  have hrest : AtRest reserved sessionId :=
    ⟨run_orderly (program options) (Orderly.empty _) [.touch sessionId .reserve],
      fun y hy => by cases hy⟩
  have hslot : reserved.slot sessionId
      = { (default : SessionSlot) with reservedSessions := 1 } := by
    show ((OrderedMap.set _ _ _).get sessionId).getD default = _
    rw [OrderedMap.get_set_self]
    rfl
  obtain ⟨first, second, third, hfirst, hsecond, hthird, hserved⟩ :=
    serve_performed options resolved hlength haction hrest
  -- the three segments of a creation
  have hperform : (program options).perform sessionId (reserved.slot sessionId)
      ⟨.create command, [.inl first, .inl second, .inl third]⟩
        = ({ (default : SessionSlot) with
            record := some (SessionRuntime.firstRecord ⟨session.tracker, tracker.config⟩ sessionId
              corpusId)
            runtime := some ⟨session.tracker, tracker.config⟩ },
          .settled (.ok (.created
            ⟨requestId, sessionId, session.tracker.state.snapshot⟩))) := by
    have hone : proceed options sessionId (.create command) first (reserved.slot sessionId)
        = (reserved.slot sessionId,
          .inl (.createStore command ⟨session.tracker, tracker.config⟩)) := by
      rw [proceed, hfirst.corpus, hruntime]
    show ((program options).advance sessionId ((program options).advance sessionId
      ((proceed options sessionId (.create command) first (reserved.slot sessionId)).1,
        .after (proceed options sessionId (.create command) first (reserved.slot sessionId)).2)
          (.inl second)) (.inl third)) = _
    rw [hone, hslot]
    show (program options).advance sessionId
      ((proceed options sessionId (.createStore command _) second _).1,
        .after (proceed options sessionId (.createStore command _) second _).2) (.inl third) = _
    rw [proceed, hsecond.store]
    rfl
  obtain ⟨hrest', hslot', -⟩ := hserved _ _ hperform
  have hfresh : SessionRuntime.Fresh ⟨session.tracker, tracker.config⟩ :=
    createRuntime_fresh hruntime
  obtain ⟨-, -, -, -, i, hi, -⟩ := createReadingTracker_ok tracker.creation
  refine ⟨SessionRuntime.firstRecord ⟨session.tracker, tracker.config⟩ sessionId corpusId,
    hrest', htracks, ⟨i, hi⟩, ?_, ?_, ?_⟩
  · rw [hslot']
  · rw [hslot']
  · rw [hslot']
    exact hfresh.agrees sessionId corpusId

/-! ### Whole runs -/

/-- A command a caller can give to either session. -/
inductive SessionCommand where
  | submit (command : ObservationSubmitCommand)
  | reset (command : SessionResetCommand)

namespace SessionCommand

/-- The command passes `assertValidCommand` and resets to a location of the corpus. -/
def Valid (config : TrackerConfig) (sessionId : String) : SessionCommand → Prop
  | .submit command =>
      command.sessionId = sessionId ∧ assertValidCommand command.toJson = .ok ()
  | .reset command =>
      command.sessionId = sessionId ∧ assertValidCommand command.toJson = .ok () ∧
        ∀ location ∈ command.location, hasLocation config.corpus location = true

/-- The command as a call of the service. -/
def action : SessionCommand → ServiceAction
  | .submit command => .submit 0 command
  | .reset command => .reset 0 command

/-- The command at a local session. -/
def apply (react : Reactions) (config : TrackerConfig)
    (session : LocalSession) : SessionCommand → LocalSession × Except SessionError ReadingSnapshot
  | .submit command => session.submit react config command.observation
  | .reset command => session.reset react config command.location

/-- The request a command names. -/
def requestId : SessionCommand → String
  | .submit command => command.requestId
  | .reset command => command.requestId

/-- A submission of an id the record does not hold, below its latest revision. -/
def Stale (record : SessionRecord) : SessionCommand → RecitationObservation → Prop
  | .submit command, observation => validateObservation command.observation = .ok observation ∧
      observation.observationId ∉ record.observationIds ∧
        (observation.sourceRevision : ℤ) < record.latestSourceRevision
  | .reset _, _ => False

end SessionCommand

/-- One command on both sides: the same answer, unless the submission is stale. -/
lemma SideBySide.step {s : Service} {sessionId : String} {record : SessionRecord}
    (h : SideBySide config s sessionId session record) (options : ServiceOptions)
    (resolved : ResolverAnswer) (react : Reactions) (command : SessionCommand)
    (hvalid : command.Valid config sessionId) :
    ∃ next, SideBySide config (s.serve options resolved command.action) sessionId
        (command.apply react config session).1 next ∧
      (command.apply react config session).2 = .ok next.snapshot ∧
      ((∃ observation, command.Stale record observation ∧ next = record ∧
        (s.serve options resolved command.action).reply sessionId = some (.error
          (staleRevision record.latestSourceRevision observation.sourceRevision))) ∨
      (∀ observation, ¬command.Stale record observation) ∧
        (s.serve options resolved command.action).reply sessionId = some (.ok (.updated
          (SessionSlot.event sessionId command.requestId next.snapshot)))) := by
  cases command with
  | reset command =>
      obtain ⟨hsession, -, hlocation⟩ := hvalid
      obtain ⟨next, hnext, hreply, hlocal⟩ :=
        h.reset options resolved react 0 hsession hlocation
      exact ⟨next, hnext, hlocal, Or.inr ⟨fun _ hstale => hstale, hreply⟩⟩
  | submit command =>
      obtain ⟨hsession, hcommand⟩ := hvalid
      obtain ⟨o, haccepts, hvalue⟩ := admitObservation_ok hcommand
      obtain ⟨next, hnext, hlocal, hreply⟩ := h.submit options resolved react 0 hsession haccepts
      have hchecked : validateObservation command.observation = .ok o.observation := by
        rw [← hvalue]
        exact o.checked
      rw [hvalue] at hnext hlocal
      refine ⟨next, hnext, hlocal, ?_⟩
      split at hreply
      · rename_i hstale
        exact Or.inl ⟨o.observation, ⟨hchecked, hstale⟩, hreply⟩
      · rename_i hcurrent
        refine Or.inr ⟨fun observation hstale => hcurrent ?_, hreply⟩
        obtain ⟨hchecked', hstale⟩ := hstale
        rw [hchecked] at hchecked'
        cases hchecked'
        exact hstale

/-- **Local and server sessions agree.** Created for the same corpus, location and finding
mode and given the same valid commands, both hold the same snapshot after every command;
the ids and the latest revision of the record are those of the tracker; and the next
command is answered with the same snapshot by both, but that the service rejects a stale
submission while the local session returns its snapshot unchanged. -/
theorem local_agrees (options : ServiceOptions) (resolved : ResolverAnswer)
    (hcapacity : 1 ≤ options.maxSessions)
    (hcorpus : corpusFor options.fixedCorpus (if options.hasResolver then some resolved else none)
      corpusId = .ok corpus)
    (hlocal : createLocalSession ⟨corpus, initialLocation, findingMode⟩ = .ok (config, session))
    (react : Reactions) (sessionId requestId : String)
    (commands : List SessionCommand)
    (hvalid : ∀ command ∈ commands, command.Valid config sessionId) :
    let s := commands.foldl (fun s command => Service.serve options resolved s command.action)
      (Service.serve options resolved State.empty
        (.create sessionId ⟨requestId, corpusId, initialLocation, findingMode⟩))
    let here := commands.foldl (fun here command =>
      (SessionCommand.apply react config here command).1) session
    ∃ runtime record, (s.slot sessionId).runtime = some runtime ∧
      (s.slot sessionId).record = some record ∧
      record.snapshot = here.snapshot ∧ runtime.tracker.state.snapshot = here.snapshot ∧
      record.observationIds = runtime.tracker.state.observationIdOrder ∧
      record.latestSourceRevision = runtime.tracker.state.latestSourceRevision ∧
      ∀ command, command.Valid config sessionId →
        let reply := (Service.serve options resolved s command.action).reply sessionId
        let answered := SessionCommand.apply react config here command
        (∃ observation, command.Stale record observation ∧
          reply = some (.error
            (staleRevision record.latestSourceRevision observation.sourceRevision)) ∧
          answered.2 = .ok here.snapshot ∧ answered.1.snapshot = here.snapshot) ∨
        (∀ observation, ¬command.Stale record observation) ∧
          ∃ snapshot, reply = some (.ok (.updated
            (SessionSlot.event sessionId command.requestId snapshot))) ∧
          answered.2 = .ok snapshot := by
  -- by induction on the commands the two stay side by side
  have hrun : ∀ (commands : List SessionCommand) (s : Service) (here : LocalSession)
      (record : SessionRecord), (∀ command ∈ commands, command.Valid config sessionId) →
      SideBySide config s sessionId here record → ∃ next, SideBySide config
        (commands.foldl (fun s command => Service.serve options resolved s command.action) s)
        sessionId (commands.foldl (fun here command =>
          (SessionCommand.apply react config here command).1) here) next := by
    intro commands
    induction commands with
    | nil => exact fun s here record _ h => ⟨record, h⟩
    | cons command commands ih =>
        intro s here record hvalid h
        obtain ⟨next, hnext, -, -⟩ :=
          h.step options resolved react command (hvalid command (by simp))
        exact ih _ _ next (fun c hc => hvalid c (by simp [hc])) hnext
  obtain ⟨first, hcreated⟩ := sideBySide_created hcapacity hcorpus hlocal sessionId requestId
  obtain ⟨record, h⟩ := hrun commands _ _ first hvalid hcreated
  intro s here
  refine ⟨_, record, h.runtime, h.stored, h.snapshot, h.tracks.snapshot.symm, h.agrees.ids,
    h.agrees.latest, fun command hcommand => ?_⟩
  obtain ⟨next, hnext, hanswer, hreply⟩ := h.step options resolved react command hcommand
  rcases hreply with ⟨observation, hstale, rfl, hreply⟩ | ⟨hcurrent, hreply⟩
  · have hsame : next.snapshot = here.snapshot := h.snapshot
    exact Or.inl ⟨observation, hstale, hreply, hsame ▸ hanswer, hnext.snapshot.symm.trans hsame⟩
  · exact Or.inr ⟨hcurrent, next.snapshot, hreply, hanswer⟩

lemma sampleLocal_created :
    (createLocalSession ⟨sampleCorpus 5, none, none⟩).toOption.isSome = true := by
  decide +kernel

/-- A local session of five symbols. -/
def sampleLocal : TrackerConfig × LocalSession := Fallible.result _ sampleLocal_created

/-- The fixed corpus is found as it is. -/
lemma corpusFor_fixed {fixed corpus : JsValue} {corpusId : String}
    (h : corpusFor (some fixed) none corpusId = .ok corpus) : corpus = fixed := by
  unfold corpusFor at h
  cases hfixed : (some fixed).filter
      fun corpus => (corpus.field "corpusId").text? == some corpusId with
  | none =>
      simp only [hfixed] at h
      cases h
  | some found =>
      have hsame : found = fixed := by
        rw [Option.filter_some] at hfixed
        split at hfixed
        · exact (Option.some.inj hfixed).symm
        · cases hfixed
      simp only [hfixed, ok_bind, bind_eq_ok, pure_eq_ok] at h
      obtain ⟨-, -, -, -, -, -, rfl⟩ := h
      exact hsame

lemma sampleCorpus_found :
    (corpusFor (some (sampleCorpus 5)) none "sample").toOption.isSome = true := by
  decide +kernel

lemma sampleCommand_valid :
    (assertValidCommand (sampleCommand "a" 1 ["p0"]).toJson).toOption.isSome = true := by
  decide +kernel

/-- After one submission on both sides. -/
theorem local_agrees_submission :
    ∃ record, ((Service.serve singleOptions .rejected
        (Service.serve singleOptions .rejected State.empty
          (.create "A" ⟨"r", "sample", none, none⟩))
        (.submit 0 (sampleCommand "a" 1 ["p0"]))).slot "A").record = some record ∧
      record.snapshot = (sampleLocal.2.submit (fun _ _ => {}) sampleLocal.1
        (sampleCommand "a" 1 ["p0"]).observation).1.snapshot := by
  have hfound := Fallible.eq_ok_result sampleCorpus_found
  rw [corpusFor_fixed hfound] at hfound
  have hvalid : ∀ command ∈ [SessionCommand.submit (sampleCommand "a" 1 ["p0"])],
      command.Valid sampleLocal.1 "A" := by
    intro command hcommand
    rw [List.mem_singleton.mp hcommand]
    exact ⟨rfl, Fallible.eq_ok_result sampleCommand_valid⟩
  obtain ⟨-, record, -, hrecord, hsnapshot, -⟩ := local_agrees singleOptions
    .rejected (by decide) hfound (Fallible.eq_ok_result sampleLocal_created) (fun _ _ => {}) "A" "r"
    [.submit (sampleCommand "a" 1 ["p0"])] hvalid
  exact ⟨record, hrecord, hsnapshot⟩

end Qaraa.SessionService
