import Qaraa.Server.ChangeLog
import Qaraa.Server.Http
import Qaraa.Server.SessionCapacity

/-!
Domain failures of a session service are never internal errors.

* `createRuntime_refuses`: what a session cannot be created on is an invalid corpus.
* `Frame.Stage`, `Frame.Expected`: what a creation and a submission come through and what
  they may be answered with; `proceed_expected`: a segment keeps to it.
* `createdKeys`: no two creations share a session id, so the store never holds a record of
  the session a creation is about to store.
* `domain_failures_known`: **the run**.
-/

namespace Qaraa.SessionService

open Fallible Ordered KeyedQueue

/-! ### Creation -/

/-- What a resolver that returns a value answers: no corpus for `null` and what counts as
false like it. -/
def resolverAnswer : JsValue → ResolverAnswer
  | .undefined | .null | .bool false | .number .nan | .string "" => .resolved none
  | .number (.finite q) => .resolved (if q = 0 then none else some (.number (.finite q)))
  | corpus => .resolved (some corpus)

lemma resolverAnswer_resolves (value : JsValue) : resolverAnswer value ≠ .rejected := by
  rw [resolverAnswer.eq_def]
  split <;> rintro ⟨⟩

lemma assertValidCorpus_refuses (corpus : JsValue) :
    FailsIn (RefusedWith [.invalidCorpus]) ((assertValidCorpus corpus).mapError .protocol) := by
  rw [assertValidCorpus]
  split
  · exact .error ⟨_, rfl, by simp [invalidCorpus]⟩
  · split
    · exact .error ⟨_, rfl, by simp [invalidCorpus]⟩
    · exact .ok _

/-- The corpus of an id is there, or it is refused as invalid. -/
lemma corpusFor_refuses (fixedCorpus : Option JsValue) {resolver : Option ResolverAnswer}
    (hresolves : resolver ≠ some .rejected) (corpusId : String) :
    FailsIn (RefusedWith [.invalidCorpus]) (corpusFor fixedCorpus resolver corpusId) := by
  have hchecks : ∀ corpus : JsValue, FailsIn (RefusedWith [.invalidCorpus]) (do
      (assertValidCorpus corpus).mapError .protocol
      let checked ← assertDomainCorpus corpus
      failIf (checked.corpusId ≠ corpusId)
        (corpusError "Resolved corpus identifier does not match the request" corpusId)
      return corpus) := by
    intro corpus
    refine (assertValidCorpus_refuses corpus).bind fun _ hmapped => ?_
    have hvalid : assertValidCorpus corpus = .ok () := by
      cases h : assertValidCorpus corpus with
      | ok _ => rfl
      | error e =>
          rw [h] at hmapped
          cases hmapped
    refine FailsIn.bind (fun error herror => ?_) fun checked _ => ?_
    · exact ⟨_, assertDomainCorpus_refuses hvalid error herror, by simp [invalidCorpus]⟩
    · exact (FailsIn.failIf fun _ => ⟨_, rfl, by simp⟩).bind fun _ _ => .pure _
  rw [corpusFor.eq_def]
  dsimp only
  split
  · rename_i corpus _
    exact hchecks corpus
  · exact .error ⟨_, rfl, by simp⟩
  · exact absurd rfl hresolves
  · rename_i corpus _
    cases corpus with
    | none => exact .error ⟨_, rfl, by simp⟩
    | some corpus => exact hchecks corpus

/-- A corpus that is found has symbols and passes the validation. -/
lemma corpusFor_ok {fixedCorpus : Option JsValue} {resolver : Option ResolverAnswer}
    {corpusId : String} {corpus : JsValue}
    (h : corpusFor fixedCorpus resolver corpusId = .ok corpus) :
    ∃ checked, validateCorpus corpus = .ok checked ∧ checked.symbols ≠ [] := by
  have hchecks : ∀ found : JsValue, (do
      (assertValidCorpus found).mapError .protocol
      let checked ← assertDomainCorpus found
      failIf (checked.corpusId ≠ corpusId)
        (corpusError "Resolved corpus identifier does not match the request" corpusId)
      return found) = Except.ok (ε := ServiceError) corpus →
      ∃ checked, validateCorpus corpus = .ok checked ∧ checked.symbols ≠ [] := by
    intro found hfound
    simp only [bind_eq_ok, failIf_eq_ok, pure_eq_ok, exists_const] at hfound
    obtain ⟨-, -, checked, hdomain, -, rfl⟩ := hfound
    rw [assertDomainCorpus] at hdomain
    split at hdomain
    · cases hdomain
    · rename_i hvalid
      split at hdomain
      · cases hdomain
      · rename_i hsome
        cases hdomain
        exact ⟨_, hvalid, fun hnil => hsome (by rw [hnil]; rfl)⟩
  rw [corpusFor.eq_def] at h
  dsimp only at h
  split at h
  · exact hchecks _ h
  · cases h
  · cases h
  · rename_i found _
    cases found with
    | none => cases h
    | some found => exact hchecks found h

/-- A location of a corpus is found in it. -/
lemma symbolIndexAt_of_hasLocation {corpus : IndexedCorpus} {location : QuranLocation}
    (h : hasLocation corpus location = true) : ∃ i, symbolIndexAt corpus location = .ok i := by
  rw [hasLocation, List.any_eq_true] at h
  rw [symbolIndexAt, if_pos (List.findIdx_lt_length.mpr h)]
  exact ⟨_, rfl⟩

/-- A tracker is made of a corpus with symbols, a location of it and a known finding mode. -/
lemma createReadingTracker_total {corpus : IndexedCorpus} (hsymbols : corpus.symbols ≠ [])
    {initialLocation : Option QuranLocation}
    (hlocation : ∀ location ∈ initialLocation, hasLocation corpus location = true)
    {findingMode : Option String}
    (hmode : findingMode ∈ [none, some "off", some "substitutions"]) :
    ∃ created, createReadingTracker ⟨corpus, initialLocation, findingMode⟩ = .ok created := by
  obtain ⟨first, rest, hfirst⟩ := List.exists_cons_of_ne_nil hsymbols
  have hdefault : hasLocation corpus (initialLocation.getD first.location) = true := by
    cases initialLocation with
    | none => simp [hasLocation, hfirst]
    | some location => exact hlocation location rfl
  obtain ⟨i, hi⟩ := symbolIndexAt_of_hasLocation hdefault
  obtain ⟨mode, hmode⟩ : ∃ mode, parseFindingMode findingMode = .ok mode := by
    simp only [List.mem_cons, List.not_mem_nil, or_false] at hmode
    rcases hmode with rfl | rfl | rfl <;> exact ⟨_, rfl⟩
  rw [createReadingTracker, hfirst]
  simp only [List.head?_cons, hmode, hi, ok_bind]
  exact ⟨_, rfl⟩

/-- **What a session cannot be created on is an invalid corpus.** -/
theorem createRuntime_refuses (options : ServiceOptions) {command : SessionCreateCommand}
    (hmode : command.findingMode ∈ [none, some "off", some "substitutions"])
    {answer : ResolverAnswer} (hresolves : answer ≠ .rejected) :
    FailsIn (RefusedWith [.invalidCorpus]) (createRuntime options command answer) := by
  have hresolver : (if options.hasResolver = true then some answer else none)
      ≠ some ResolverAnswer.rejected := by
    split
    · exact fun h => hresolves (Option.some.inj h)
    · rintro ⟨⟩
  rw [createRuntime]
  refine FailsIn.bind ?_ fun index hindex => ?_
  · refine (corpusFor_refuses _ hresolver _).bind fun corpus hcorpus => ?_
    obtain ⟨checked, hchecked, -⟩ := corpusFor_ok hcorpus
    rw [indexCorpus, hchecked]
    exact .ok _
  refine (FailsIn.failIf fun _ => ⟨_, rfl, by simp [invalidCorpus]⟩).bind fun _ hlocation => ?_
  rw [failIf_eq_ok] at hlocation
  rw [indexedCorpusFor, bind_eq_ok] at hindex
  obtain ⟨corpus, hcorpus, hindex⟩ := hindex
  obtain ⟨checked, hchecked, hsymbols⟩ := corpusFor_ok hcorpus
  rw [indexCorpus, hchecked] at hindex
  cases hindex
  have hlocations : ∀ location ∈ command.initialLocation,
      hasLocation (buildIndex checked) location = true := by
    intro location hmem
    by_contra hnot
    exact hlocation ⟨location, hmem, eq_false_of_ne_true hnot⟩
  obtain ⟨created, hcreated⟩ := createReadingTracker_total
    (show (buildIndex checked).symbols ≠ [] from hsymbols) hlocations hmode
  rw [hcreated]
  exact .ok _

/-! ### What an operation is answered with -/

/-- A creation that has passed `assertCommand`. -/
def IsAcceptedCreation (command : SessionCreateCommand) : Prop :=
  ∃ value, assertCommand value "session.create" = .ok () ∧ command = readCreate value

/-- The frames a creation and a submission come through. -/
def Frame.Stage : Frame → Frame → Prop
  | .create command, frame =>
      frame = .create command ∨ (∃ runtime, frame = .createStore command runtime) ∨
        ∃ runtime, frame = .createDone command runtime
  | .submit caller requestId o, frame =>
      frame = .submit caller requestId o ∨
        ∃ snapshot changed, frame = .publish requestId snapshot changed
  | call, frame => call.creates = frame.creates

/-- What a creation and a submission may be answered with. -/
def Frame.Expected : Frame → Outcome → Prop
  | .create command, outcome => IsAcceptedCreation command →
      (∃ event, outcome = .ok (.created event)) ∨
        ∃ error, outcome = .error error ∧ RefusedWith [.invalidCorpus] error
  | .submit _ _ _, outcome =>
      (∃ event, outcome = .ok (.updated event)) ∨
        ∃ error, outcome = .error error ∧ RefusedWith [.sessionNotFound, .staleRevision] error
  | _, _ => True

lemma Frame.Stage.refl (frame : Frame) : frame.Stage frame := by
  cases frame <;> simp [Frame.Stage]

variable {sessionId : String} {slot : SessionSlot}

/-- The last id is always remembered. -/
lemma mem_rtake_last (ids : List String) (id : String) :
    id ∈ (ids ++ [id]).rtake OBSERVATION_ID_LIMIT := by
  have hle : (ids ++ [id]).length - OBSERVATION_ID_LIMIT ≤ ids.length := by
    rw [List.length_append, List.length_singleton, OBSERVATION_ID_LIMIT]
    omega
  rw [List.rtake, List.drop_append_of_le_length hle]
  simp

/-- What an update of the default store makes of a submission: it is refused, or its
observation is one of those the record remembers. -/
theorem submit_applied (sessionId : String) (h : Settled slot) (caller : ℕ) (requestId : String)
    (o : CheckedObservation) {x : SessionSlot × (Frame ⊕ Outcome)}
    (hx : x = settleUpdate requestId
      (update .committed sessionId (submitRecord caller sessionId o slot) slot)) :
    (∃ error, x.2 = .inr (.error error) ∧
        RefusedWith [.sessionNotFound, .staleRevision] error) ∨
      ∃ record changed, x.2 = .inl (.publish requestId record.snapshot changed) ∧
        x.1.record = some record ∧ o.observation.observationId ∈ record.observationIds := by
  subst hx
  cases hrecord : slot.record with
  | none =>
      rw [update, hrecord]
      exact Or.inl ⟨_, rfl, _, rfl, by simp⟩
  | some record =>
      obtain ⟨runtime, hruntime, hagrees, -⟩ := h.live hrecord
      by_cases hmem : o.observation.observationId ∈ record.observationIds
      · rw [update, hrecord]
        dsimp only
        rw [submitRecord, if_pos hmem]
        exact Or.inr ⟨record, false, rfl, rfl, hmem⟩
      by_cases hstale : (o.observation.sourceRevision : ℤ) < record.latestSourceRevision
      · rw [update, hrecord]
        dsimp only
        rw [submitRecord, if_neg hmem, if_pos hstale]
        exact Or.inl ⟨_, rfl, _, rfl, by simp⟩
      · obtain ⟨after, next, state, heq, hmoved, -⟩ := submitRecord_fresh hagrees hruntime caller
          sessionId o ⟨hmem, not_lt.mp hstale⟩
        rw [update, hrecord]
        dsimp only
        rw [heq]
        refine Or.inr ⟨next, true, rfl, rfl, ?_⟩
        rw [hmoved.agrees.ids_eq, acceptedSince_accepted]
        exact mem_rtake_last _ _

/-- An operation of another kind goes on as one. -/
lemma creates_next (options : ServiceOptions) {frame next : Frame} {answer : Answer}
    (hnext : (proceed options sessionId frame answer slot).2 = .inl next) :
    next.creates = frame.creates := by
  have hfollows := proceed_next options hnext
  cases hfollows with
  | publishes frame change hmakes requestId snapshot changed =>
      cases frame with
      | reset caller command => rfl
      | submit caller requestId o => rfl
      | _ => exact hmakes.elim
  | _ => rfl

/-- **A segment over the default store keeps to what is expected.** -/
theorem proceed_expected (options : ServiceOptions) {call frame : Frame} {answer : Answer}
    (hstage : call.Stage frame) (hmidway : Midway sessionId frame slot)
    (hstore : answer.store = .committed) (hresolves : answer.corpus ≠ .rejected)
    (hfresh : ∀ command runtime, frame = .createStore command runtime → slot.record = none) :
    (∀ next, (proceed options sessionId frame answer slot).2 = .inl next → call.Stage next) ∧
      ∀ outcome, (proceed options sessionId frame answer slot).2 = .inr outcome →
        call.Expected outcome := by
  cases call with
  | create command =>
      rcases hstage with rfl | ⟨runtime, rfl⟩ | ⟨runtime, rfl⟩
      · rw [proceed]
        split
        · rename_i error herror
          refine ⟨fun next hnext => (by cases hnext), fun outcome houtcome haccepted => ?_⟩
          cases houtcome
          obtain ⟨value, hvalue, rfl⟩ := haccepted
          obtain ⟨fields, hbody⟩ := assertCommand_ok hvalue
          exact Or.inr ⟨error, rfl, createRuntime_refuses options (findingMode_known hbody)
            hresolves error herror⟩
        · refine ⟨fun next hnext => ?_, fun outcome houtcome => by cases houtcome⟩
          cases hnext
          exact Or.inr (Or.inl ⟨_, rfl⟩)
      · rw [proceed, hstore]
        simp only [hfresh command runtime rfl]
        refine ⟨fun next hnext => ?_, fun outcome houtcome => by cases houtcome⟩
        cases hnext
        exact Or.inr (Or.inr ⟨runtime, rfl⟩)
      · refine ⟨fun next hnext => (by cases hnext), fun outcome houtcome _ => ?_⟩
        cases houtcome
        exact Or.inl ⟨_, rfl⟩
  | submit caller requestId o =>
      rcases hstage with rfl | ⟨snapshot, changed, rfl⟩
      · rcases submit_applied sessionId hmidway caller requestId o rfl
          with ⟨error, herror, hrefused⟩ | ⟨record, changed, hpublish, -⟩
        · refine ⟨fun next hnext => ?_, fun outcome houtcome => ?_⟩
          · rw [proceed, hstore, herror] at hnext
            cases hnext
          · rw [proceed, hstore, herror] at houtcome
            cases houtcome
            exact Or.inr ⟨error, rfl, hrefused⟩
        · refine ⟨fun next hnext => ?_, fun outcome houtcome => ?_⟩
          · rw [proceed, hstore, hpublish] at hnext
            cases hnext
            exact Or.inr ⟨_, _, rfl⟩
          · rw [proceed, hstore, hpublish] at houtcome
            cases houtcome
      · refine ⟨fun next hnext => (by cases hnext), fun outcome houtcome => ?_⟩
        cases houtcome
        exact Or.inl ⟨_, rfl⟩
  | _ =>
      refine ⟨fun next hnext => ?_, fun _ _ => trivial⟩
      exact hstage.trans (creates_next options hnext).symm

/-! ### Records come from creations -/

lemma Frame.Stage.creates {call frame : Frame} (h : call.Stage frame) :
    call.creates = frame.creates := by
  cases call with
  | create command => rcases h with rfl | ⟨runtime, rfl⟩ | ⟨runtime, rfl⟩ <;> rfl
  | submit caller requestId o => rcases h with rfl | ⟨snapshot, changed, rfl⟩ <;> rfl
  | _ => exact h

/-- The creation is past the store. -/
def HasStored (y : Operation) : Prop :=
  (∃ command runtime, y.2.phase = .running (.createDone command runtime)) ∨
    ∃ outcome, y.2.phase.result = some outcome

/-- The record of a session comes from a creation of it. -/
def StoredBy (x : Local String SessionSlot Frame Outcome) : Prop :=
  x.slot.record.isSome = true → ∃ y ∈ x.queue, y.2.call.creates = true ∧ HasStored y

/-- No two creations share the session. -/
def SingleCreation (x : Local String SessionSlot Frame Outcome) : Prop :=
  ∀ y ∈ x.queue, ∀ z ∈ x.queue, y.2.call.creates = true → z.2.call.creates = true → y = z

variable {x x' : Local String SessionSlot Frame Outcome}

/-- A creation that is about to store finds no record. -/
lemma record_none (hstored : StoredBy x) (hsingle : SingleCreation x) {y : Operation}
    (hy : y ∈ x.queue) (hcreates : y.2.call.creates = true) {command : SessionCreateCommand}
    {runtime : SessionRuntime} (hphase : y.2.phase = .running (.createStore command runtime)) :
    x.slot.record = none := by
  by_contra hrecord
  obtain ⟨z, hz, hzcreates, hzstored⟩ := hstored (Option.isSome_iff_ne_none.mpr hrecord)
  obtain rfl := hsingle z hz y hy hzcreates hcreates
  rcases hzstored with ⟨command', runtime', hz⟩ | ⟨outcome, hz⟩
  · rw [hphase] at hz
    cases hz
  · rw [hphase] at hz
    cases hz

/-- The creation of a record stays past the store when an operation moves on. -/
lemma StoredBy.put (h : StoredBy x) (horderly : Orderly x) {y : Operation} (hy : y ∈ x.queue)
    {phase : Phase Frame Outcome} {slot : SessionSlot}
    (hrecord : slot.record.isSome = true → x.slot.record.isSome = true)
    (hself : HasStored y → HasStored (y.1, { y.2 with phase := phase })) (tail : Option ℕ) :
    StoredBy ⟨x.queue.map (Ticketed.put y.1 phase), tail, slot⟩ := by
  intro hsome
  obtain ⟨z, hz, hcreates, hstored⟩ := h (hrecord hsome)
  refine ⟨_, List.mem_map_of_mem hz, by rw [Ticketed.put_call]; exact hcreates, ?_⟩
  by_cases heq : z.1 = y.1
  · obtain rfl := horderly.eq_of_fst hz hy heq
    rw [Ticketed.put, if_pos rfl]
    exact hself hstored
  · rw [Ticketed.put_of_ne phase heq]
    exact hstored

/-- **A record comes from a creation, whatever happens.** -/
theorem moved_stored (options : ServiceOptions) {event : Option (Event Frame Answer Change)}
    (hmove : Move (program options) sessionId x event x') (horderly : Orderly x)
    (hanswers : Answers Frame.Stage Frame.Expected x) (h : StoredBy x) : StoredBy x' := by
  cases hmove with
  | called ticket frame hfresh =>
      intro hsome
      obtain ⟨y, hy, hcreates, hstored⟩ := h hsome
      exact ⟨y, List.mem_append_left _ hy, hcreates, hstored⟩
  | started y hy hphase hready =>
      refine h.put horderly hy id (fun hstored => ?_) _
      rcases hstored with ⟨_, _, hrunning⟩ | ⟨_, hresult⟩
      · rw [hphase] at hrunning
        cases hrunning
      · rw [hphase] at hresult
        cases hresult
  | resumed y hy frame hphase answer =>
      have hself : HasStored y → HasStored (y.1, { y.2 with
          phase := .after (proceed options sessionId frame answer x.slot).2 }) := by
        rintro (⟨command, runtime, hrunning⟩ | ⟨outcome, hresult⟩)
        · rw [hphase] at hrunning
          cases hrunning
          exact Or.inr ⟨_, rfl⟩
        · rw [hphase] at hresult
          cases hresult
      have hstep := proceed_capacity options sessionId frame answer x.slot
      change StoredBy ⟨x.queue.map (Ticketed.put y.1
        (.after (proceed options sessionId frame answer x.slot).2)), x.tail,
        (proceed options sessionId frame answer x.slot).1⟩
      generalize proceed options sessionId frame answer x.slot = result at hstep hself
      obtain ⟨after, outcome⟩ := result
      dsimp only at hstep hself ⊢
      cases hstep with
      | kept _ _ hsame _ =>
          exact h.put horderly hy (fun hsome => by rw [← hsame.record]; exact hsome) hself x.tail
      | released _ _ => exact h.put horderly hy id hself x.tail
      | stored command runtime record hcreates =>
          intro _
          refine ⟨_, List.mem_map_of_mem hy, ?_, ?_⟩
          · rw [Ticketed.put_call, (hanswers.frames y hy frame hphase).creates]
            exact hcreates
          · exact Or.inl ⟨command, runtime, Ticketed.put_self _ y⟩
      | created _ _ _ _ _ => exact h.put horderly hy id hself x.tail
      | unstored _ _ => exact h.put horderly hy (fun hsome => by cases hsome) hself x.tail
      | deleted _ _ _ _ _ hrecord _ =>
          exact h.put horderly hy (fun hsome => by rw [← hrecord]; exact hsome) hself x.tail
  | drained y hy outcome hphase => exact h.put horderly hy id (fun _ => Or.inr ⟨outcome, rfl⟩) _
  | cleaned y hy hdrained htail => exact h
  | touched change =>
      intro hsome
      have hsame : SameSession x.slot ((program options).touch sessionId change x.slot) :=
        touch_same options change x.slot
      exact h (hsame.record ▸ hsome)

/-! ### Runs -/

/-- The session ids of the creations made. -/
def createdKeys (s : Service) : List String :=
  (s.calls.filter fun call => call.2.creates).map Prod.fst

/-- What holds of every session between the steps of a run. -/
structure Known (s : Service) : Prop where
  sound : Sound s
  answers : ∀ sessionId, Answers Frame.Stage Frame.Expected (s.at sessionId)
  stored : ∀ sessionId, StoredBy (s.at sessionId)

variable {s : Service}

/-- Where no id is used twice, no two creations share a session. -/
lemma singleCreation (h : (createdKeys s).Nodup) (sessionId : String) :
    SingleCreation (s.at sessionId) := by
  have hpairs : s.entries.Pairwise fun e e' =>
      e.call.creates = true → e'.call.creates = true → e.key ≠ e'.key := by
    have hcalls := List.pairwise_filter.mp (List.pairwise_map.mp h)
    rw [State.calls, List.pairwise_map] at hcalls
    exact hcalls
  intro y hy z hz hycreates hzcreates
  obtain ⟨hyentry, hykey⟩ := State.mem_queue.mp hy
  obtain ⟨hzentry, hzkey⟩ := State.mem_queue.mp hz
  have hsame : y.1 = z.1 := by
    obtain ⟨hylt, hyget⟩ := List.getElem?_eq_some_iff.mp hyentry
    obtain ⟨hzlt, hzget⟩ := List.getElem?_eq_some_iff.mp hzentry
    have hindex := List.pairwise_iff_getElem.mp hpairs
    rcases Nat.lt_trichotomy y.1 z.1 with hlt | heq | hlt
    · have hne := hindex y.1 z.1 hylt hzlt hlt
      rw [hyget, hzget] at hne
      exact absurd (hykey.trans hzkey.symm) (hne hycreates hzcreates)
    · exact heq
    · have hne := hindex z.1 y.1 hzlt hylt hlt
      rw [hyget, hzget] at hne
      exact absurd (hzkey.trans hykey.symm) (hne hzcreates hycreates)
  refine Prod.ext hsame ?_
  rw [hsame, hzentry] at hyentry
  exact (Option.some.inj hyentry).symm

/-- The answers of a default store and of a resolver that returns. -/
def Answer.OfDefaults (answer : Answer) : Prop :=
  answer.store = .committed ∧ ∃ value, answer.corpus = resolverAnswer value

/-- One queue action whose answer, if there is one, is a default one. -/
lemma Known.queueStep (h : Known s) (hkeys : (createdKeys s).Nodup) (options : ServiceOptions)
    {action : Action String Frame Answer Change}
    (hsound : Sound (State.step (program options) s action))
    (hanswer : ∀ ticket answer, action = .resume ticket answer → answer.OfDefaults) :
    Known (State.step (program options) s action) := by
  refine ⟨hsound, fun sessionId => ?_, fun sessionId => ?_⟩
  · rcases step_move (program options) s action sessionId with ⟨heq, -⟩ | hmove
    · rw [heq]
      exact h.answers sessionId
    · refine hmove.answers (h.sound sessionId).1 Frame.Stage.refl ?_ (h.answers sessionId)
      intro y hy frame answer hevent hphase hstage
      have hdefault : answer.OfDefaults := by
        cases action with
        | resume ticket answer' =>
            rw [State.eventAt, State.event] at hevent
            split at hevent
            · rw [Option.bind_some] at hevent
              split at hevent
              · cases hevent
                exact hanswer _ _ rfl
              · cases hevent
            · cases hevent
        | call key call =>
            rw [State.eventAt, State.event, Option.bind_some] at hevent
            split at hevent <;> cases hevent
        | touch key change =>
            rw [State.eventAt, State.event, Option.bind_some] at hevent
            split at hevent <;> cases hevent
        | start ticket => cases hevent
        | drain ticket => cases hevent
        | clean ticket => cases hevent
      obtain ⟨hstore, value, hcorpus⟩ := hdefault
      refine proceed_expected options hstage ((h.sound sessionId).2.busy y hy frame hphase) hstore
        (by rw [hcorpus]; exact resolverAnswer_resolves value) ?_
      rintro command runtime rfl
      exact record_none (h.stored sessionId) (singleCreation hkeys sessionId) hy hstage.creates
        hphase
  · rcases step_move (program options) s action sessionId with ⟨heq, -⟩ | hmove
    · rw [heq]
      exact h.stored sessionId
    · exact moved_stored options hmove (h.sound sessionId).1 (h.answers sessionId)
        (h.stored sessionId)

/-- The session id `#createSessionId` makes for a call. -/
def ServiceAction.createdId : ServiceAction → Option String
  | .create sessionId _ => some sessionId
  | _ => none

/-- The operations of an action that goes on are given the answers of a default store and of
a resolver that returns. -/
def ServiceAction.OfDefaults : ServiceAction → Prop
  | .proceed _ answer => answer.OfDefaults
  | _ => True

lemma createdKeys_call (options : ServiceOptions) (s : Service) (sessionId : String)
    (frame : Frame) : createdKeys (State.step (program options) s (.call sessionId frame))
      = createdKeys s ++ if frame.creates then [sessionId] else [] := by
  rw [createdKeys, State.calls_step, List.filter_append, List.map_append]
  cases hcreates : frame.creates <;> simp [createdKeys, hcreates]

lemma createdKeys_other (options : ServiceOptions) (s : Service)
    {action : Action String Frame Answer Change} (h : ∀ key frame, action ≠ .call key frame) :
    createdKeys (State.step (program options) s action) = createdKeys s := by
  rw [createdKeys, State.calls_step]
  cases action with
  | call key frame => exact absurd rfl (h key frame)
  | _ => rw [List.append_nil, createdKeys]

/-- One step of the service. -/
lemma Known.step (h : Known s) (options : ServiceOptions) {action : ServiceAction}
    (hdefault : action.OfDefaults) {ids : List String} (hids : (createdKeys s).Sublist ids)
    (hnodup : (ids ++ action.createdId.toList).Nodup) :
    Known (s.step options action) ∧
      (createdKeys (s.step options action)).Sublist (ids ++ action.createdId.toList) := by
  have hkeys : (createdKeys s).Nodup := (List.Nodup.of_append_left hnodup).sublist hids
  have hlonger : (createdKeys s).Sublist (ids ++ action.createdId.toList) :=
    hids.trans (List.sublist_append_left _ _)
  have hclean : CleanFailure s action := by
    cases action with
    | proceed ticket answer =>
        intro hfailed
        rw [hdefault.1] at hfailed
        cases hfailed
    | _ => trivial
  have hsound := h.sound.step options action hclean
  have hstep := step_cases options s action
  generalize Service.step options s action = after at hstep hsound
  cases hstep with
  | refused => exact ⟨h, hlonger⟩
  | created sessionId command hcreate _ =>
      have htouched : Known (State.step (program options) s (.touch sessionId .reserve)) :=
        h.queueStep hkeys options (h.sound.touch options sessionId .reserve) nofun
      have hsame : createdKeys (State.step (program options) s (.touch sessionId .reserve))
          = createdKeys s := createdKeys_other options s (by rintro _ _ ⟨⟩)
      refine ⟨htouched.queueStep (by rw [hsame]; exact hkeys) options hsound nofun, ?_⟩
      rw [createdKeys_call, hsame, hcreate]
      exact hids.append (List.Sublist.refl _)
  | called sessionId frame hcall hother =>
      refine ⟨h.queueStep hkeys options hsound nofun, ?_⟩
      rw [createdKeys_call, creates_of_isCall hcall hother]
      simpa using hlonger
  | quiet queueAction hsilent hmoves =>
      refine ⟨h.queueStep hkeys options hsound fun ticket answer heq =>
        absurd heq (hmoves ticket answer), ?_⟩
      rw [createdKeys_other options s fun key frame heq => by rw [heq] at hsilent; cases hsilent]
      exact hlonger
  | proceeded ticket answer hproceed =>
      subst hproceed
      refine ⟨h.queueStep hkeys options hsound fun _ _ heq => by cases heq; exact hdefault, ?_⟩
      rw [createdKeys_other options s (by rintro _ _ ⟨⟩)]
      exact hlonger
  | left sessionId index =>
      refine ⟨h.queueStep hkeys options hsound nofun, ?_⟩
      rw [createdKeys_other options s (by rintro _ _ ⟨⟩)]
      exact hlonger

/-- **Every run over a default store.** -/
theorem run_known (options : ServiceOptions) (actions : List ServiceAction)
    (hdefault : ∀ action ∈ actions, action.OfDefaults)
    (hids : (actions.filterMap ServiceAction.createdId).Nodup) :
    Known (Service.run options State.empty actions) := by
  have hconcat : ∀ (pre : List ServiceAction) (action : ServiceAction),
      (pre ++ [action]).filterMap ServiceAction.createdId
        = pre.filterMap ServiceAction.createdId ++ action.createdId.toList := by
    intro pre action
    rw [List.filterMap_append]
    cases h : action.createdId <;> simp [h]
  have hinit : Known State.empty := by
    refine ⟨sound_empty, fun sessionId => ⟨fun y hy => ?_, fun y hy => ?_⟩,
      fun sessionId hsome => ?_⟩
    · cases hy
    · cases hy
    · cases hsome
  refine (Loop.foldl_induction_split (P := fun pre (s : Service) =>
    Known s ∧ (createdKeys s).Sublist (pre.filterMap ServiceAction.createdId))
    ⟨hinit, List.Sublist.refl _⟩ ?_).1
  rintro pre action rest s rfl ⟨hknown, hkeys⟩
  rw [hconcat]
  refine hknown.step options (hdefault action (by simp)) hkeys ?_
  rw [← hconcat]
  refine hids.sublist (List.Sublist.filterMap _ ?_)
  simp

/-! ### The service and its bodies -/

/-- The promise of a creation resolves, or rejects with `INVALID_CORPUS`. -/
def CreatesOrRefuses (outcome : Outcome) : Prop :=
  (∃ event, outcome = .ok (.created event)) ∨
    ∃ error, outcome = .error error ∧ RefusedWith [.invalidCorpus] error

/-- A submission over a default store: its promise rejects with a protocol error that is not
internal, or its update leaves a record that remembers the observation and the promise
resolves. -/
structure AppliesOrRefuses (options : ServiceOptions) (s : Service) (ticket : ℕ)
    (sessionId : String) (o : CheckedObservation) : Prop where
  updates : ∀ call previous caller requestId answer,
    s.entries[ticket]? = some ⟨sessionId, call, previous, .running (.submit caller requestId o)⟩ →
    Answer.OfDefaults answer →
    let after := Service.step options s (.proceed ticket answer)
    (∃ error, after.entries[ticket]?
        = some ⟨sessionId, call, previous, .settled (.error error)⟩ ∧
      RefusedWith [.sessionNotFound, .staleRevision] error) ∨
    ∃ record changed, after.entries[ticket]?
        = some ⟨sessionId, call, previous, .running (.publish requestId record.snapshot changed)⟩ ∧
      (after.slot sessionId).record = some record ∧
      o.observation.observationId ∈ record.observationIds
  settles : ∀ e outcome, s.entries[ticket]? = some e → e.key = sessionId →
    (∃ caller requestId, e.call = .submit caller requestId o) → e.phase.result = some outcome →
    (∃ event, outcome = .ok (.updated event)) ∨
      ∃ error, outcome = .error error ∧ RefusedWith [.sessionNotFound, .staleRevision] error

/-- **Domain failures are never internal errors.** In every run of a service over a default
store, whatever the corpus resolver returns, in which the session ids made are distinct: a
creation that has passed `assertCommand` is refused at the call for lack of capacity only, and
its promise resolves or rejects with `INVALID_CORPUS`; a submission is refused by
`assertCommand` with a protocol error that is not internal, or it is admitted and then applied
or refused with such an error. -/
theorem domain_failures_known (options : ServiceOptions) (actions : List ServiceAction)
    (hdefault : ∀ action ∈ actions, action.OfDefaults)
    (hids : (actions.filterMap ServiceAction.createdId).Nodup) :
    let s := Service.run options State.empty actions
    (∀ value, assertCommand value "session.create" = .ok () →
      (∀ sessionId error, s.refusal options (.create sessionId (readCreate value)) = some error →
        error = capacityExhausted "sessions" options.maxSessions) ∧
      ∀ e ∈ s.entries, e.call = .create (readCreate value) →
        ∀ outcome, e.phase.result = some outcome → CreatesOrRefuses outcome) ∧
    ∀ value,
      (∀ error, assertCommand value "observation.submit" = .error error →
        RefusedWith [.unsupportedProtocol, .invalidObservation, .invalidCorpus] error) ∧
      (assertCommand value "observation.submit" = .ok () →
        ∃ o, admitObservation (readSubmit value) = .ok o ∧
          (∀ caller, s.refusal options (.submit caller (readSubmit value)) = none) ∧
          ∀ ticket sessionId, AppliesOrRefuses options s ticket sessionId o) := by
  intro s
  have hknown := run_known options actions hdefault hids
  refine ⟨fun value hvalue => ⟨fun sessionId error hrefused => ?_,
      fun e he hcall outcome hresult => ?_⟩, fun value =>
    ⟨assertCommand_refuses value "observation.submit", fun hvalue => ?_⟩⟩
  · rw [Service.refusal] at hrefused
    split at hrefused
    · exact (Option.some.inj hrefused).symm
    · cases hrefused
  · obtain ⟨ticket, hentry⟩ := List.getElem?_of_mem he
    have hexpected := (hknown.answers e.key).results (ticket, e)
      (State.mem_queue.mpr ⟨hentry, rfl⟩) outcome hresult
    rw [hcall] at hexpected
    exact hexpected ⟨value, hvalue, rfl⟩
  · obtain ⟨o, hadmitted, -⟩ := observation_of_body hvalue
    refine ⟨o, hadmitted, fun caller => ?_, fun ticket sessionId => ⟨?_, ?_⟩⟩
    · rw [Service.refusal, hadmitted]
    · intro call previous caller requestId answer hentry hanswer after
      have hmidway : Settled (s.slot sessionId) :=
        (hknown.sound sessionId).2.busy (ticket, _) (State.mem_queue.mpr ⟨hentry, rfl⟩) _ rfl
      obtain ⟨hslot, hnow⟩ := Service.step_proceed options hentry answer
      have hproceed : proceed options sessionId (.submit caller requestId o)
          (s.answering options answer) (s.slot sessionId) = settleUpdate requestId
            (update .committed sessionId (submitRecord caller sessionId o (s.slot sessionId))
              (s.slot sessionId)) := by
        rw [proceed, show (s.answering options answer).store = .committed from hanswer.1]
      rcases submit_applied sessionId hmidway caller requestId o hproceed
        with ⟨error, herror, hrefused⟩ | ⟨record, changed, hpublish, hrecord, hmem⟩
      · rw [herror] at hnow
        exact Or.inl ⟨error, hnow, hrefused⟩
      · rw [hpublish] at hnow
        exact Or.inr ⟨record, changed, hnow, hslot ▸ hrecord, hmem⟩
    · intro e outcome hentry hkey hcall hresult
      obtain ⟨caller, requestId, hcall⟩ := hcall
      have hexpected := (hknown.answers sessionId).results (ticket, e)
        (State.mem_queue.mpr ⟨hentry, hkey⟩) outcome hresult
      rw [hcall] at hexpected
      exact hexpected

/-- The body of a creation on the corpus `sample`. -/
def creationBody : JsValue :=
  .object [("protocolVersion", natValue PROTOCOL_VERSION), ("requestId", .string "r"),
    ("type", .string "session.create"), ("corpusId", .string "sample")]

/-- A corpus of two symbols in the wrong order. -/
def disorderedCorpus : JsValue :=
  .object [("corpusId", .string "sample"), ("revision", .string "1"),
    ("symbols", .array [sampleSymbol 1, sampleSymbol 0]),
    ("words", .array [sampleWord 1, sampleWord 0])]

/-- A creation whose corpus the resolver returns. -/
def resolvedCreation (sessionId : String) (ticket : ℕ) (corpus : JsValue) : List ServiceAction :=
  [.create sessionId (readCreate creationBody), .start ticket]
    ++ List.replicate 3 (.proceed ticket { corpus := resolverAnswer corpus })

lemma resolvedCreation_default (sessionId : String) (ticket : ℕ) (corpus : JsValue) :
    ∀ action ∈ resolvedCreation sessionId ticket corpus, action.OfDefaults := by
  intro action haction
  simp only [resolvedCreation, List.mem_append, List.mem_cons, List.not_mem_nil, or_false,
    List.mem_replicate] at haction
  rcases haction with (rfl | rfl) | ⟨-, rfl⟩
  · trivial
  · trivial
  · exact ⟨rfl, corpus, rfl⟩

/-- A creation on a corpus that breaks a rule of the core, and one on a good corpus. -/
theorem domain_failures_known_sample :
    let s := Service.run ⟨none, true, 2, 1⟩ State.empty
      (resolvedCreation "A" 0 disorderedCorpus ++ resolvedCreation "B" 1 (sampleCorpus 2))
    (s.entries.map fun e => e.phase.result.map Except.isOk) = [some false, some true] ∧
    ∀ e ∈ s.entries, e.call = .create (readCreate creationBody) →
      ∀ outcome, e.phase.result = some outcome → CreatesOrRefuses outcome := by
  intro s
  have hbody : assertCommand creationBody "session.create" = .ok () := by decide +kernel
  have hrun := domain_failures_known ⟨none, true, 2, 1⟩
    (resolvedCreation "A" 0 disorderedCorpus ++ resolvedCreation "B" 1 (sampleCorpus 2))
    (fun action haction => (List.mem_append.mp haction).elim
      (resolvedCreation_default "A" 0 disorderedCorpus action)
      (resolvedCreation_default "B" 1 (sampleCorpus 2) action)) (by decide +kernel)
  exact ⟨by decide +kernel, (hrun.1 creationBody hbody).2⟩

end Qaraa.SessionService
