import Qaraa.Server.StreamFrames

/-!
Where the snapshots of a server come from.

* `OfTracker`: a snapshot of the run of a tracker; the schema of the protocol accepts it.
* `SessionSlot.Tracked`, `Frame.Tracked`, `Reply.Tracked`: all a session stores, holds at an await,
  sends and answers with.
* `proceed_tracked`: **every segment leaves snapshots of trackers only**, whatever the store does.
* `tracked_run`: so does every run.
-/

namespace Qaraa.SessionService

open Fallible Ordered KeyedQueue

variable {options : ServiceOptions} {sessionId : String} {slot : SessionSlot}

/-! ### Snapshots of trackers -/

/-- A snapshot a tracker of a corpus has had. -/
def OfTracker (snapshot : ReadingSnapshot) : Prop :=
  ∃ (tracker : CreatedTracker) (commands : List TrackerCommand),
    snapshot = tracker.snapshotAfter commands

/-- The schema of the protocol accepts the snapshots of trackers. -/
lemma OfTracker.accepted {snapshot : ReadingSnapshot} (h : OfTracker snapshot) :
    snapshotSchema.accepts snapshot.toJson = true := by
  obtain ⟨tracker, commands, rfl⟩ := h
  exact (shapedSnapshot_of_run tracker commands).accepted

/-- The tracker of a session is one of a corpus after some commands. -/
def SessionRuntime.Tracked (runtime : SessionRuntime) : Prop :=
  ∃ (tracker : CreatedTracker) (commands : List TrackerCommand),
    runtime = ⟨tracker.run commands, tracker.config⟩

namespace SessionRuntime.Tracked

variable {runtime : SessionRuntime}

lemma snapshot (h : runtime.Tracked) : OfTracker runtime.tracker.state.snapshot := by
  obtain ⟨tracker, commands, rfl⟩ := h
  exact ⟨tracker, commands, rfl⟩

/-- A command later it still is. -/
lemma step (h : runtime.Tracked) (command : TrackerCommand) : (runtime.step command).Tracked := by
  obtain ⟨tracker, commands, rfl⟩ := h
  refine ⟨tracker, commands ++ [command], ?_⟩
  rw [tracker.run_concat]
  rfl

/-- What a reset returns is what the tracker has then. -/
lemma reset_snapshot {location : Option QuranLocation} {result : ReadingSnapshot × TrackerState}
    (hreset : reset runtime.config runtime.tracker.state location = .ok result) :
    result.1 = (runtime.step (.reset location)).tracker.state.snapshot := by
  have hstate : (runtime.step (.reset location)).tracker.state = result.2 := by
    rw [SessionRuntime.step, Traced.step, stepTracker, applyCommand, hreset]
  obtain ⟨i, -, hresult⟩ := bind_eq_ok.mp hreset
  rw [hstate, ← pure_eq_ok.mp hresult]

/-- What a submission returns is what the tracker has then. -/
lemma submit_snapshot (h : runtime.Tracked) (o : CheckedObservation)
    {result : ReadingSnapshot × TrackerState}
    (hsubmit : submit runtime.config runtime.tracker.state o.value = .ok result) :
    result.1 = (runtime.step (.submit o.value)).tracker.state.snapshot := by
  have hstate : (runtime.step (.submit o.value)).tracker.state = result.2 := by
    rw [SessionRuntime.step, Traced.step, stepTracker, applyCommand, hsubmit]
  obtain ⟨tracker, commands, rfl⟩ := h
  rw [hstate]
  rcases (tracker.invariant commands).submit_cases tracker.valid o.checked with
    ⟨-, hsame⟩ | ⟨-, after, hafter, -⟩
  · rw [hsubmit] at hsame
    rw [Except.ok.inj hsame]
  · rw [hsubmit] at hafter
    rw [Except.ok.inj hafter]

end SessionRuntime.Tracked

/-! ### What a session has -/

/-- The snapshots of a record are those of trackers. -/
structure SessionRecord.Tracked (record : SessionRecord) : Prop where
  snapshot : OfTracker record.snapshot
  snapshots : ∀ snapshot ∈ record.snapshots, OfTracker snapshot

/-- All snapshots of a session are those of trackers. -/
structure SessionSlot.Tracked (slot : SessionSlot) : Prop where
  record : ∀ record, slot.record = some record → record.Tracked
  runtime : ∀ runtime, slot.runtime = some runtime → runtime.Tracked
  delivered : ∀ d ∈ slot.delivered, OfTracker d.2.snapshot

/-- What an operation holds at an await. -/
def Frame.Tracked : Frame → Prop
  | .createStore _ runtime => runtime.Tracked
  | .createDone _ runtime => runtime.Tracked
  | .getRead _ record => ∀ found, record = some found → found.Tracked
  | .resumeRead _ record => ∀ found, record = some found → found.Tracked
  | .subscribeRead _ _ record => ∀ found, record = some found → found.Tracked
  | .publish _ snapshot _ => OfTracker snapshot
  | _ => True

/-- The snapshots of a reply are those of trackers. -/
def Reply.Tracked : Reply → Prop
  | .created event => OfTracker event.snapshot
  | .updated event => OfTracker event.snapshot
  | .resumed events => ∀ event ∈ events, OfTracker event.snapshot
  | _ => True

/-- What a segment leaves and what it ends with. -/
structure SegmentTracked (x : SessionSlot × (Frame ⊕ Outcome)) : Prop where
  slot : x.1.Tracked
  next : ∀ frame, x.2 = .inl frame → frame.Tracked
  reply : ∀ reply, x.2 = .inr (.ok reply) → reply.Tracked

namespace SessionSlot.Tracked

/-- Nothing new is stored or sent. -/
lemma congr (h : slot.Tracked) {after : SessionSlot}
    (hrecord : ∀ record, after.record = some record → slot.record = some record)
    (hruntime : ∀ runtime, after.runtime = some runtime → slot.runtime = some runtime)
    (hdelivered : after.delivered = slot.delivered) : after.Tracked where
  record := fun record hsome => h.record record (hrecord record hsome)
  runtime := fun runtime hsome => h.runtime runtime (hruntime runtime hsome)
  delivered := by
    rw [hdelivered]
    exact h.delivered

lemma empty : (default : SessionSlot).Tracked :=
  ⟨fun _ hsome => (by cases hsome), fun _ hsome => (by cases hsome), fun _ hmem => (by cases hmem)⟩

/-- A segment that is rejected. -/
lemma rejected (h : slot.Tracked) (error : ServiceError) :
    SegmentTracked (rejectWith slot error) :=
  ⟨h, fun _ heq => (by cases heq), fun _ heq => (by cases heq)⟩

lemma read (h : slot.Tracked) (answer : Answer) {next : Option SessionRecord → Frame}
    (hnext : (next slot.record).Tracked) : SegmentTracked (read answer slot next) := by
  rw [SessionService.read]
  split
  · exact ⟨h, fun _ heq => (by cases heq; exact hnext), fun _ heq => (by cases heq)⟩
  · exact h.rejected _

/-- The mutations of a tracked session: the record to store is tracked. -/
lemma update (h : slot.Tracked) {mutate : SessionRecord → Mutation}
    (hmutate : ∀ record, slot.record = some record → (mutate record).1.Tracked ∧
      ∀ next, (mutate record).2 = .ok next → next.1.Tracked)
    (verdict : StoreVerdict) (sessionId requestId : String) :
    SegmentTracked (settleUpdate requestId (update verdict sessionId mutate slot)) := by
  rw [SessionService.update]
  split
  · exact h.rejected _
  · rename_i record hrecord
    obtain ⟨hafter, hnext⟩ := hmutate record hrecord
    cases verdict with
    | refused => exact h.rejected _
    | failed => exact hafter.rejected _
    | committed =>
        dsimp only
        cases hresult : mutate record with
        | mk after outcome =>
            rw [hresult] at hafter hnext
            cases outcome with
            | error error => exact hafter.rejected error
            | ok next =>
                obtain ⟨stored, changed⟩ := next
                have hstored := hnext _ rfl
                refine ⟨⟨?_, hafter.runtime, hafter.delivered⟩, ?_, ?_⟩
                · rintro _ ⟨⟩
                  exact hstored
                · rintro _ ⟨⟩
                  exact hstored.snapshot
                · rintro _ ⟨⟩

end SessionSlot.Tracked

/-- A record with one more snapshot. -/
lemma SessionRecord.Tracked.extend {record : SessionRecord} (h : record.Tracked)
    {snapshot : ReadingSnapshot} (hsnapshot : OfTracker snapshot) (ids : List String) (latest : ℤ) :
    (record.extend snapshot ids latest).Tracked := by
  refine ⟨hsnapshot, fun found hmem => ?_⟩
  rw [SessionRecord.extend] at hmem
  dsimp only at hmem
  rw [sliceLast] at hmem
  rcases List.mem_append.mp (List.mem_of_mem_drop hmem) with hold | hnew
  · exact h.snapshots found hold
  · rw [List.mem_singleton.mp hnew]
    exact hsnapshot

/-- A reset leaves a tracked session. -/
lemma resetRecord_tracked (h : slot.Tracked) {runtime : SessionRuntime}
    (hruntime : slot.runtime = some runtime) (caller : ℕ) (command : SessionResetCommand)
    {record : SessionRecord} (hrecord : slot.record = some record) :
    (resetRecord caller command runtime slot record).1.Tracked ∧
      ∀ next, (resetRecord caller command runtime slot record).2 = .ok next → next.1.Tracked := by
  have hstep := (h.runtime runtime hruntime).step (.reset command.location)
  rw [resetRecord]
  cases hreset : reset runtime.config runtime.tracker.state command.location with
  | error error => exact ⟨h, fun _ heq => by cases heq⟩
  | ok result =>
      refine ⟨⟨h.record, ?_, h.delivered⟩, ?_⟩
      · rintro _ ⟨⟩
        exact hstep
      · rintro _ ⟨⟩
        refine (h.record record hrecord).extend ?_ _ _
        rw [SessionRuntime.Tracked.reset_snapshot hreset]
        exact hstep.snapshot

/-- A submission leaves a tracked session. -/
lemma submitRecord_tracked (h : slot.Tracked) (caller : ℕ) (sessionId : String)
    (o : CheckedObservation) {record : SessionRecord} (hrecord : slot.record = some record) :
    (submitRecord caller sessionId o slot record).1.Tracked ∧
      ∀ next, (submitRecord caller sessionId o slot record).2 = .ok next → next.1.Tracked := by
  have hold : ∀ next : SessionRecord × Bool,
      (Except.ok (record, false) : Except ServiceError _) = .ok next → next.1.Tracked := by
    rintro _ ⟨⟩
    exact h.record record hrecord
  rw [submitRecord]
  split
  · exact ⟨h, hold⟩
  · split
    · exact ⟨h, fun _ heq => by cases heq⟩
    · split
      · exact ⟨h, fun _ heq => by cases heq⟩
      · rename_i runtime hruntime
        have htracked := h.runtime runtime hruntime
        have hstep := htracked.step (.submit o.value)
        cases hsubmit : submit runtime.config runtime.tracker.state o.value with
        | error error => exact ⟨h, fun _ heq => by cases heq⟩
        | ok result =>
            have hresult := htracked.submit_snapshot o hsubmit
            obtain ⟨snapshot, state⟩ := result
            dsimp only at hresult ⊢
            split
            · refine ⟨⟨h.record, ?_, h.delivered⟩, hold⟩
              rintro _ ⟨⟩
              exact hstep
            · refine ⟨⟨h.record, ?_, h.delivered⟩, ?_⟩
              · rintro _ ⟨⟩
                exact hstep
              · rintro _ ⟨⟩
                refine (h.record record hrecord).extend ?_ _ _
                rw [hresult]
                exact hstep.snapshot

/-- **Every segment leaves snapshots of trackers only.** -/
theorem proceed_tracked (options : ServiceOptions) {frame : Frame} (answer : Answer)
    (h : slot.Tracked) (hframe : frame.Tracked) :
    SegmentTracked (proceed options sessionId frame answer slot) := by
  cases frame with
  | create command =>
      rw [proceed]
      split
      · have hreleased : slot.releaseReservation.Tracked :=
          h.congr (fun _ heq => heq) (fun _ heq => heq) rfl
        exact hreleased.rejected _
      · rename_i runtime hruntime
        -- the first snapshot of a new tracker is that of the empty run
        obtain ⟨tracker, -, -, rfl⟩ := createRuntime_ok hruntime
        refine ⟨h, ?_, ?_⟩
        · rintro _ ⟨⟩
          exact ⟨tracker, [], rfl⟩
        · rintro _ ⟨⟩
  | createStore command runtime =>
      have hreleased : slot.releaseReservation.Tracked :=
        h.congr (fun _ heq => heq) (fun _ heq => heq) rfl
      rw [proceed]
      split
      · split
        · exact hreleased.rejected _
        · refine ⟨⟨?_, h.runtime, h.delivered⟩, ?_, ?_⟩
          · rintro _ ⟨⟩
            refine ⟨hframe.snapshot, fun snapshot hmem => ?_⟩
            rw [List.mem_singleton.mp hmem]
            exact hframe.snapshot
          · rintro _ ⟨⟩
            exact hframe
          · rintro _ ⟨⟩
      · exact hreleased.rejected _
  | createDone command runtime =>
      refine ⟨⟨h.record, ?_, h.delivered⟩, ?_, ?_⟩
      · rintro _ ⟨⟩
        exact hframe
      · rintro _ ⟨⟩
      · rintro _ ⟨⟩
        exact hframe.snapshot
  | get command => exact h.read answer h.record
  | getRead command record =>
      cases record with
      | none => exact h.rejected _
      | some record =>
          refine ⟨h, ?_, ?_⟩
          · rintro _ ⟨⟩
          · rintro _ ⟨⟩
            exact (hframe record rfl).snapshot
  | reset caller command =>
      rw [proceed]
      split
      · exact h.rejected _
      · rename_i runtime hruntime
        split
        · exact h.rejected _
        · exact h.update (fun record hrecord =>
            resetRecord_tracked h hruntime caller command hrecord) _ _ _
  | submit caller requestId o =>
      exact h.update (fun record hrecord =>
        submitRecord_tracked h caller sessionId o hrecord) _ _ _
  | publish requestId snapshot changed =>
      refine ⟨?_, ?_, ?_⟩
      · cases changed with
        | false => exact h
        | true =>
            -- only the snapshot that is published is delivered
            obtain ⟨stay, registered, count, heq⟩ := publish_eq answer sessionId snapshot slot
            change (slot.publish answer sessionId snapshot).Tracked
            rw [heq]
            refine ⟨h.record, h.runtime, fun d hd => ?_⟩
            rcases List.mem_append.mp hd with hold | hnew
            · exact h.delivered d hold
            · obtain ⟨subscriber, -, rfl⟩ := List.mem_map.mp hnew
              exact hframe
      · rintro _ ⟨⟩
      · rintro _ ⟨⟩
        exact hframe
  | resume command => exact h.read answer h.record
  | resumeRead command record =>
      cases record with
      | none => exact h.rejected _
      | some record =>
          refine ⟨h, ?_, ?_⟩
          · rintro _ ⟨⟩
          · rintro _ ⟨⟩ event hevent
            obtain ⟨snapshot, hmem, rfl⟩ := List.mem_map.mp hevent
            exact (hframe record rfl).snapshots snapshot (List.mem_of_mem_filter hmem)
  | subscribe listener command => exact h.read answer h.record
  | subscribeRead listener command record =>
      cases record with
      | none => exact h.rejected _
      | some record =>
          rw [proceed]
          split
          · exact h.rejected _
          -- what is replayed is retained in the record that was read
          · obtain ⟨after, outcome, heq, hrecord, hruntime, -, -, -, sent, stay, hdelivered, hpre,
              hcases⟩ := addSubscriber_cases answer sessionId listener command record slot
            rw [heq]
            refine ⟨⟨hrecord ▸ h.record, hruntime ▸ h.runtime, fun d hd => ?_⟩, ?_, ?_⟩
            · rw [hdelivered] at hd
              rcases List.mem_append.mp hd with hold | hnew
              · exact h.delivered d hold
              · obtain ⟨event, hevent, rfl⟩ := List.mem_map.mp hnew
                obtain ⟨snapshot, hmem, rfl⟩ := List.mem_map.mp hevent
                exact (hframe record rfl).snapshots snapshot
                  (List.mem_of_mem_filter (hpre.subset hmem))
            · rintro _ ⟨⟩
            · rintro reply heq
              cases heq
              rcases hcases with ⟨-, houtcome, -⟩ | ⟨-, houtcome⟩
              · cases houtcome
                trivial
              · cases houtcome
  | delete command =>
      rw [proceed]
      split
      · refine ⟨⟨fun _ hsome => (by cases hsome), h.runtime, h.delivered⟩, ?_, ?_⟩
        · rintro _ ⟨⟩
          trivial
        · rintro _ ⟨⟩
      · exact h.rejected _
  | deleteDone command deleted =>
      cases deleted with
      | false => exact h.rejected _
      | true =>
          refine ⟨⟨h.record, fun _ hsome => (by cases hsome), h.delivered⟩, ?_, ?_⟩
          · rintro _ ⟨⟩
          · rintro _ ⟨⟩
            trivial

/-! ### Runs -/

/-- A change from outside stores and sends nothing. -/
lemma SessionSlot.Tracked.touch (h : slot.Tracked) (options : ServiceOptions) (sessionId : String)
    (change : Change) : ((program options).touch sessionId change slot).Tracked := by
  cases change with
  | reserve => exact h.congr (fun _ heq => heq) (fun _ heq => heq) rfl
  | unsubscribe index =>
      show (slot.releaseSubscriber index).Tracked
      rw [releaseSubscriber_eq]
      exact h.congr (fun _ heq => heq) (fun _ heq => heq) rfl

/-- The rule of the snapshots. -/
lemma trackedRule (options : ServiceOptions) (sessionId : String) :
    Rule (program options) sessionId Called Frame.IsCall SessionSlot.Tracked
      (fun frame slot => frame.Tracked ∧ slot.Tracked)
      (fun outcome _ => ∀ reply, outcome = .ok reply → reply.Tracked) where
  call := fun _ _ _ h => h
  start := fun frame slot hcall h => by
    refine ⟨?_, h⟩
    cases frame <;> trivial
  next := fun _ _ answer _ next _ hframe hnext => by
    have hsegment := @proceed_tracked sessionId _ options _ answer hframe.2 hframe.1
    exact ⟨hsegment.next next hnext, hsegment.slot⟩
  done := fun _ _ answer _ outcome _ hframe hdone => by
    have hsegment := @proceed_tracked sessionId _ options _ answer hframe.2 hframe.1
    exact ⟨hsegment.slot, fun reply heq => hsegment.reply reply (heq ▸ hdone)⟩
  kept := fun _ _ _ _ _ _ _ hkept => hkept
  touch := fun change _ _ h => h.touch options sessionId change
  touchRunning := fun _ change _ _ hframe => ⟨hframe.1, hframe.2.touch options sessionId change⟩
  touchKept := fun _ _ _ _ hkept => hkept

/-- **All a service sends and answers with are snapshots of trackers.** -/
theorem tracked_run (options : ServiceOptions) (actions : List ServiceAction) :
    (∀ sessionId, ∀ d ∈ ((Service.run options State.empty actions).slot sessionId).delivered,
      OfTracker d.2.snapshot) ∧
    ∀ (ticket : ℕ) (reply : Reply),
      (Service.run options State.empty actions).outcome (some ticket) = some (.ok reply) →
        reply.Tracked := by
  have hrule := fun sessionId =>
    (run_rule (trackedRule options sessionId) SessionSlot.Tracked.empty actions).2
  refine ⟨fun sessionId d hd => ?_, fun ticket reply hreply => ?_⟩
  · have hslot : ((Service.run options State.empty actions).slot sessionId).Tracked := by
      by_cases hidle : ∀ y ∈ (Service.run options State.empty actions).queue sessionId,
          ∀ frame, y.2.phase ≠ .running frame
      · exact (hrule sessionId).idle hidle
      · simp only [not_forall, not_not] at hidle
        obtain ⟨y, hy, frame, hframe⟩ := hidle
        exact ((hrule sessionId).busy y hy frame hframe).2
    exact hslot.delivered d hd
  · obtain ⟨entry, hentry, hresult⟩ := outcome_entry.mp hreply
    exact (hrule entry.key).results (ticket, entry) (State.mem_queue.mpr ⟨hentry, rfl⟩) _ hresult
      reply rfl

end Qaraa.SessionService
