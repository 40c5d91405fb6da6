import Qaraa.Server.StoreFailures

/-!
A session that is never deleted.

* `SessionSlot.Past`: the stored snapshot or an older one.
* `Segment`: what a segment of an operation makes of the past: it stays, and what is sent or
  answered belongs to it.
* `Written`: what an update writes into the log of changes.
* `keptRule`: the invariant rule of a session whose record is never removed.
-/

namespace Qaraa.SessionService

open Fallible Ordered KeyedQueue

/-- The stored snapshot or one the session has left behind. -/
def SessionSlot.Past (slot : SessionSlot) (snapshot : ReadingSnapshot) : Prop :=
  ∃ record, slot.record = some record ∧
    (snapshot = record.snapshot ∨ snapshot.revision < record.snapshot.revision)

/-- What a segment makes of the past. -/
structure Segment (slot after : SessionSlot) (outcome : Frame ⊕ Outcome) : Prop where
  past : ∀ snapshot, slot.Past snapshot → after.Past snapshot
  subscriptions : slot.subscriptions ≤ after.subscriptions
  delivered : ∃ new, after.delivered = slot.delivered ++ new ∧ ∀ d ∈ new, after.Past d.2.snapshot
  reply : ∀ event, outcome = .inr (.ok (.updated event)) → after.Past event.snapshot

variable {slot after : SessionSlot} {sessionId : String} {record : SessionRecord}

lemma SessionSlot.Past.revision_le {snapshot : ReadingSnapshot} (h : slot.Past snapshot)
    (hrecord : slot.record = some record) : snapshot.revision ≤ record.snapshot.revision := by
  obtain ⟨record', hrecord', hpast⟩ := h
  rw [hrecord] at hrecord'
  cases hrecord'
  rcases hpast with rfl | hlt
  · exact le_rfl
  · exact hlt.le

/-- The past of a session whose record stays or moves on. -/
lemma SessionSlot.Past.mono {snapshot : ReadingSnapshot} (h : slot.Past snapshot)
    (hrecord : slot.record = some record) {next : SessionRecord}
    (hnext : after.record = some next)
    (hlater : next = record ∨ record.snapshot.revision < next.snapshot.revision) :
    after.Past snapshot := by
  rcases hlater with rfl | hlt
  · obtain ⟨record', hrecord', hpast⟩ := h
    rw [hrecord] at hrecord'
    cases hrecord'
    exact ⟨next, hnext, hpast⟩
  · exact ⟨next, hnext, Or.inr (lt_of_le_of_lt (h.revision_le hrecord) hlt)⟩

lemma SessionSlot.Past.congr {snapshot : ReadingSnapshot} (h : slot.Past snapshot)
    (hrecord : after.record = slot.record) : after.Past snapshot := by
  obtain ⟨record, hsome, hpast⟩ := h
  exact ⟨record, hrecord.trans hsome, hpast⟩

/-- A segment that leaves the record and sends nothing. -/
lemma Segment.quiet {outcome : Frame ⊕ Outcome} (hrecord : after.record = slot.record)
    (hdelivered : after.delivered = slot.delivered)
    (hsubscriptions : after.subscriptions = slot.subscriptions)
    (hreply : ∀ event, outcome = .inr (.ok (.updated event)) → slot.Past event.snapshot) :
    Segment slot after outcome where
  past := fun _ h => h.congr hrecord
  subscriptions := hsubscriptions.ge
  delivered := ⟨[], hdelivered.trans (List.append_nil _).symm, by simp⟩
  reply := fun event h => (hreply event h).congr hrecord

lemma Segment.rejected (hrecord : after.record = slot.record)
    (hdelivered : after.delivered = slot.delivered)
    (hsubscriptions : after.subscriptions = slot.subscriptions) (error : ServiceError) :
    Segment slot (rejectWith after error).1 (rejectWith after error).2 :=
  .quiet hrecord hdelivered hsubscriptions fun _ h => (by cases h)

lemma Segment.goesOn (hrecord : after.record = slot.record)
    (hdelivered : after.delivered = slot.delivered)
    (hsubscriptions : after.subscriptions = slot.subscriptions) (frame : Frame) :
    Segment slot after (.inl frame) :=
  .quiet hrecord hdelivered hsubscriptions fun _ h => (by cases h)

/-! ### Updates -/

/-- What an update writes into the log. -/
def Frame.Makes : Frame → Applied → Prop
  | .reset caller _, change => change = .reset caller
  | .submit caller _ o, change => change = .accepted caller o.observation.observationId
  | _, _ => False

/-- The log after an update: as it was when the update fails or finds the observation
accepted, else with one more change. -/
inductive Written (frame : Frame) (slot after : SessionSlot) : Frame ⊕ Outcome → Prop where
  | failed (error : ServiceError) (same : after.applied = slot.applied) :
      Written frame slot after (.inr (.error error))
  | known (caller : ℕ) (requestId : String) (o : CheckedObservation) (snapshot : ReadingSnapshot)
      (isSubmit : frame = .submit caller requestId o) (same : after.applied = slot.applied)
      (accepted : o.observation.observationId ∈ acceptedSince slot.applied) :
      Written frame slot after (.inl (.publish requestId snapshot false))
  | changed (requestId : String) (snapshot : ReadingSnapshot) (change : Applied)
      (makes : frame.Makes change) (applied : after.applied = slot.applied ++ [change]) :
      Written frame slot after (.inl (.publish requestId snapshot true))

/-- An update that has moved the tracker. -/
lemma Written.of_moved {frame : Frame} {next : SessionRecord} {runtime : SessionRuntime}
    {change : Applied} (hmoved : Moved slot record after next runtime change)
    (hmakes : frame.Makes change) (requestId : String) :
    Written frame slot { after with record := some next }
      (.inl (.publish requestId next.snapshot true)) := by
  refine .changed requestId next.snapshot change hmakes ?_
  show after.applied = _
  rw [hmoved.result]

lemma reset_written (h : Settled slot) {runtime : SessionRuntime}
    (hruntime : slot.runtime = some runtime) (caller : ℕ) (command : SessionResetCommand)
    (answer : Answer) (hclean : answer.store ≠ .failed) :
    Written (.reset caller command) slot
      (settleUpdate command.requestId
        (update answer.store sessionId (resetRecord caller command runtime slot) slot)).1
      (settleUpdate command.requestId
        (update answer.store sessionId (resetRecord caller command runtime slot) slot)).2 := by
  rw [update]
  cases hrecord : slot.record with
  | none => exact .failed _ rfl
  | some record =>
      obtain ⟨runtime', hruntime', hagrees, -⟩ := h.live hrecord
      obtain rfl : runtime' = runtime := Option.some.inj (hruntime'.symm.trans hruntime)
      cases hverdict : answer.store with
      | refused => exact .failed _ rfl
      | failed => exact absurd hverdict hclean
      | committed =>
          cases hreset : reset runtime'.config runtime'.tracker.state command.location with
          | error error =>
              dsimp only
              rw [resetRecord, hreset]
              exact .failed _ rfl
          | ok result =>
              obtain ⟨after, next, heq, hmoved, -, -⟩ :=
                resetRecord_ok hagrees caller command hreset
              dsimp only
              rw [heq]
              exact .of_moved hmoved (show (Frame.reset caller command).Makes _ from rfl) _

lemma submit_written (h : Settled slot) (caller : ℕ) (requestId : String) (o : CheckedObservation)
    (answer : Answer)
    (hclean : answer.store = .failed → ¬(Frame.submit caller requestId o).Moves slot) :
    Written (.submit caller requestId o) slot
      (settleUpdate requestId
        (update answer.store sessionId (submitRecord caller sessionId o slot) slot)).1
      (settleUpdate requestId
        (update answer.store sessionId (submitRecord caller sessionId o slot) slot)).2 := by
  rw [update]
  cases hrecord : slot.record with
  | none => exact .failed _ rfl
  | some record =>
      obtain ⟨runtime, hruntime, hagrees, -⟩ := h.live hrecord
      cases hverdict : answer.store with
      | refused => exact .failed _ rfl
      | failed =>
          dsimp only
          rw [submitRecord_of_not_admits fun hadmits => hclean hverdict ⟨record, hrecord, hadmits⟩]
          exact .failed _ rfl
      | committed =>
          dsimp only
          by_cases hfresh : record.Admits o.observation
          · obtain ⟨after, next, -, heq, hmoved, -⟩ :=
              submitRecord_fresh hagrees hruntime caller sessionId o hfresh
            rw [heq]
            exact .of_moved hmoved (show (Frame.submit caller requestId o).Makes _ from rfl) _
          · by_cases hknown : o.observation.observationId ∈ record.observationIds
            · rw [submitRecord, if_pos hknown]
              refine .known caller requestId o _ rfl rfl ?_
              rw [hagrees.ids_eq] at hknown
              exact List.mem_of_mem_drop hknown
            · have hold : (o.observation.sourceRevision : ℤ) < record.latestSourceRevision :=
                not_le.mp fun hle => hfresh ⟨hknown, hle⟩
              rw [submitRecord, if_neg hknown, if_pos hold]
              exact .failed _ rfl

/-! ### Segments -/

/-- `reset` and `submit` up to the publication. -/
lemma settleUpdate_segment (hrecord : slot.record = some record)
    (requestId : String) {mutation : Mutation} (hstep : UpdateStep slot record mutation) :
    Segment slot (settleUpdate requestId mutation).1 (settleUpdate requestId mutation).2 := by
  cases hstep with
  | rejected error => exact .rejected rfl rfl rfl error
  | same => exact .goesOn rfl rfl rfl _
  | moved after next runtime change hmoved =>
      refine ⟨fun snapshot hpast => ?_, ?_, ⟨[], ?_, by simp⟩, fun _ h => (by cases h)⟩
      · refine @SessionSlot.Past.mono _ _ _ _ hpast hrecord next rfl (Or.inr ?_)
        rw [hmoved.revision]
        exact Nat.lt_succ_self _
      · show slot.subscriptions ≤ after.subscriptions
        rw [hmoved.result]
      · show after.delivered = _
        rw [hmoved.result, List.append_nil]

/-- An update whose session is not there fails. -/
lemma update_none (hrecord : slot.record = none) (verdict : StoreVerdict) (requestId : String)
    (mutate : SessionRecord → Mutation) :
    Segment slot (settleUpdate requestId (update verdict sessionId mutate slot)).1
      (settleUpdate requestId (update verdict sessionId mutate slot)).2 := by
  rw [update, hrecord]
  exact .rejected rfl rfl rfl _

lemma reset_segment (h : Settled slot) {runtime : SessionRuntime}
    (hruntime : slot.runtime = some runtime) (caller : ℕ) (command : SessionResetCommand)
    (answer : Answer) (hclean : answer.store ≠ .failed) :
    Segment slot
      (settleUpdate command.requestId
        (update answer.store sessionId (resetRecord caller command runtime slot) slot)).1
      (settleUpdate command.requestId
        (update answer.store sessionId (resetRecord caller command runtime slot) slot)).2 := by
  cases hrecord : slot.record with
  | none => exact update_none hrecord _ _ _
  | some record =>
      obtain ⟨runtime', hruntime', hagrees, -⟩ := h.live hrecord
      obtain rfl : runtime' = runtime := Option.some.inj (hruntime'.symm.trans hruntime)
      exact settleUpdate_segment hrecord _ (update_step hrecord
        (resetRecord_step hagrees caller command) fun hfailed => absurd hfailed hclean)

lemma submit_segment (h : Settled slot) (caller : ℕ) (requestId : String) (o : CheckedObservation)
    (answer : Answer)
    (hclean : answer.store = .failed → ¬(Frame.submit caller requestId o).Moves slot) :
    Segment slot
      (settleUpdate requestId
        (update answer.store sessionId (submitRecord caller sessionId o slot) slot)).1
      (settleUpdate requestId
        (update answer.store sessionId (submitRecord caller sessionId o slot) slot)).2 := by
  cases hrecord : slot.record with
  | none => exact update_none hrecord _ _ _
  | some record =>
      obtain ⟨runtime, hruntime, hagrees, -⟩ := h.live hrecord
      refine settleUpdate_segment hrecord _ (update_step hrecord
        (submitRecord_step hagrees hruntime caller sessionId o) fun hfailed => ?_)
      exact submitRecord_of_not_admits fun hadmits => hclean hfailed ⟨record, hrecord, hadmits⟩

/-- A read of the store. -/
lemma read_segment (answer : Answer) (slot : SessionSlot) (next : Option SessionRecord → Frame) :
    Segment slot (read answer slot next).1 (read answer slot next).2 := by
  rw [read]
  split
  · exact .goesOn rfl rfl rfl _
  · exact .rejected rfl rfl rfl _

/-- The operations that remove a record. -/
def Frame.Deletes : Frame → Prop
  | .delete _ | .deleteDone _ _ => True
  | _ => False

/-- **A segment that removes no record keeps the past, and all it sends or answers belongs to
it.** -/
theorem proceed_segment (options : ServiceOptions) {frame : Frame} {answer : Answer}
    (hclean : answer.store = .failed → ¬frame.Moves slot) (h : Midway sessionId frame slot)
    (hkeeps : ¬frame.Deletes) :
    Segment slot (proceed options sessionId frame answer slot).1
      (proceed options sessionId frame answer slot).2 := by
  cases frame with
  | create command =>
      rw [proceed]
      split
      · exact @Segment.rejected slot slot.releaseReservation rfl rfl rfl _
      · exact .goesOn rfl rfl rfl _
  | createStore command runtime =>
      rw [proceed]
      split
      · split
        · exact @Segment.rejected slot slot.releaseReservation rfl rfl rfl _
        · rename_i hnone
          rw [Option.not_isSome_iff_eq_none] at hnone
          -- there was no record, so there is no past to keep
          refine ⟨fun snapshot hpast => ?_, le_rfl, ⟨[], (List.append_nil _).symm, by simp⟩,
            fun _ h => (by cases h)⟩
          obtain ⟨record, hrecord, -⟩ := hpast
          rw [hnone] at hrecord
          cases hrecord
      · exact @Segment.rejected slot slot.releaseReservation rfl rfl rfl _
  | createDone command runtime => exact .quiet rfl rfl rfl fun _ h => (by cases h)
  | get command => exact read_segment answer slot _
  | getRead command record =>
      cases record with
      | none => exact .rejected rfl rfl rfl _
      | some record =>
          refine .quiet rfl rfl rfl fun event hevent => ?_
          cases hevent
          exact ⟨record, h.2.symm, Or.inl rfl⟩
  | reset caller command =>
      rw [proceed]
      split
      · exact .rejected rfl rfl rfl _
      · rename_i runtime hruntime
        split
        · exact .rejected rfl rfl rfl _
        · rename_i hlocation
          refine reset_segment h hruntime caller command answer fun hfailed => ?_
          refine hclean hfailed ⟨runtime, hruntime, fun location hmem => ?_⟩
          by_contra hhas
          exact hlocation ⟨location, hmem, by simpa using hhas⟩
  | submit caller requestId o => exact submit_segment h caller requestId o answer hclean
  | publish requestId snapshot changed =>
      obtain ⟨runtime, record, published, -, hrecord, -, -, rfl, -⟩ := h
      -- the snapshot that is published is the stored one
      have hnow : slot.Past record.snapshot := ⟨record, hrecord, Or.inl rfl⟩
      cases changed with
      | false =>
          refine .quiet rfl rfl rfl fun event hevent => ?_
          cases hevent
          exact hnow
      | true =>
          obtain ⟨stay, registered, count, heq⟩ := publish_eq answer sessionId record.snapshot slot
          simp only [proceed, if_true]
          rw [heq]
          refine ⟨fun snapshot hpast => hpast.congr rfl, le_rfl, ⟨_, rfl, fun d hd => ?_⟩,
            fun event hevent => ?_⟩
          · obtain ⟨subscriber, -, rfl⟩ := List.mem_map.mp hd
            exact hnow.congr rfl
          · cases hevent
            exact hnow.congr rfl
  | resume command => exact read_segment answer slot _
  | resumeRead command record =>
      cases record with
      | none => exact .rejected rfl rfl rfl _
      | some record => exact .quiet rfl rfl rfl fun _ h => (by cases h)
  | subscribe listener command => exact read_segment answer slot _
  | subscribeRead listener command record =>
      obtain ⟨hsettled, hrecord⟩ := h
      cases record with
      | none => exact .rejected rfl rfl rfl _
      | some record =>
          rw [proceed]
          split
          · exact .rejected rfl rfl rfl _
          · obtain ⟨runtime, -, hagrees, -⟩ := hsettled.live hrecord.symm
            -- what is replayed belongs to the stored record
            obtain ⟨after, outcome, heq, hrec, -, -, hsubscriptions, houtcome, sent, -, hdelivered,
              hsent, -⟩ := addSubscriber_cases answer sessionId listener command record slot
            rw [heq]
            refine ⟨fun snapshot hpast => hpast.congr hrec, hsubscriptions ▸ Nat.le_succ _,
              ⟨_, hdelivered, fun d hd => ?_⟩, fun event hevent => ?_⟩
            · obtain ⟨event, hevent, rfl⟩ := List.mem_map.mp hd
              obtain ⟨snapshot, hsnapshot, rfl⟩ := List.mem_map.mp hevent
              have hmem := List.mem_of_mem_filter (hsent.subset hsnapshot)
              exact ⟨record, hrec.trans hrecord.symm, hagrees.mem_snapshots_le hmem⟩
            · exact absurd (Sum.inr.inj hevent) (houtcome event)
  | delete command => exact absurd trivial hkeeps
  | deleteDone command deleted => exact absurd trivial hkeeps

/-- Which frame may follow another. -/
inductive Frame.Next (slot : SessionSlot) : Frame → Frame → Prop where
  | stores (command : SessionCreateCommand) (runtime : SessionRuntime) :
      Next slot (.create command) (.createStore command runtime)
  | stored (command : SessionCreateCommand) (runtime : SessionRuntime)
      (absent : slot.record = none) :
      Next slot (.createStore command runtime) (.createDone command runtime)
  | gets (command : SessionGetCommand) : Next slot (.get command) (.getRead command slot.record)
  | publishes (frame : Frame) (change : Applied) (makes : frame.Makes change) (requestId : String)
      (snapshot : ReadingSnapshot) (changed : Bool) :
      Next slot frame (.publish requestId snapshot changed)
  | resumes (command : SessionResumeCommand) :
      Next slot (.resume command) (.resumeRead command slot.record)
  | subscribes (listener : ℕ) (command : SessionResumeCommand) :
      Next slot (.subscribe listener command) (.subscribeRead listener command slot.record)
  | deletes (command : SessionDeleteCommand) (deleted : Bool) :
      Next slot (.delete command) (.deleteDone command deleted)

lemma read_next {answer : Answer} {follow : Option SessionRecord → Frame} {next : Frame}
    (h : (read answer slot follow).2 = .inl next) : next = follow slot.record := by
  rw [read] at h
  split at h
  · exact (Sum.inl.inj h).symm
  · cases h

lemma settleUpdate_next {requestId : String} {mutation : Mutation} {next : Frame}
    (h : (settleUpdate requestId mutation).2 = .inl next) :
    ∃ snapshot changed, next = .publish requestId snapshot changed := by
  obtain ⟨after, outcome⟩ := mutation
  cases outcome with
  | error error => cases h
  | ok result =>
      cases h
      exact ⟨_, _, rfl⟩

/-- What a segment goes on with. -/
lemma proceed_next (options : ServiceOptions) {frame : Frame} {answer : Answer} {next : Frame}
    (h : (proceed options sessionId frame answer slot).2 = .inl next) :
    Frame.Next slot frame next := by
  cases frame with
  | create command =>
      rw [proceed] at h
      split at h
      · cases h
      · cases h
        exact .stores command _
  | createStore command runtime =>
      rw [proceed] at h
      split at h
      · split at h
        · cases h
        · rename_i hnone
          cases h
          exact .stored command runtime (Option.not_isSome_iff_eq_none.mp hnone)
      · cases h
  | createDone command runtime => cases h
  | get command =>
      rw [read_next h]
      exact .gets command
  | getRead command record => cases record <;> cases h
  | reset caller command =>
      rw [proceed] at h
      split at h
      · cases h
      · split at h
        · cases h
        · obtain ⟨snapshot, changed, rfl⟩ := settleUpdate_next h
          exact .publishes (.reset caller command) (.reset caller) rfl _ _ _
  | submit caller requestId o =>
      obtain ⟨snapshot, changed, rfl⟩ := settleUpdate_next h
      exact .publishes (.submit caller requestId o) _ rfl _ _ _
  | publish requestId snapshot changed => cases h
  | resume command =>
      rw [read_next h]
      exact .resumes command
  | resumeRead command record => cases record <;> cases h
  | subscribe listener command =>
      rw [read_next h]
      exact .subscribes listener command
  | subscribeRead listener command record =>
      cases record with
      | none => cases h
      | some record =>
          rw [proceed] at h
          split at h
          · cases h
          · obtain ⟨after, outcome, heq, -⟩ :=
              addSubscriber_cases answer sessionId listener command record slot
            rw [heq] at h
            cases h
  | delete command =>
      rw [proceed] at h
      split at h
      · cases h
        exact .deletes command _
      · cases h
  | deleteDone command deleted => cases deleted <;> cases h

/-- A segment of an operation other than an update writes nothing. -/
lemma proceed_applied (options : ServiceOptions) (sessionId : String) {frame : Frame}
    (answer : Answer)
    (hupdates : ∀ change, ¬frame.Makes change) (hcreates : ∀ command runtime,
      frame = .createDone command runtime → slot.applied = []) :
    (proceed options sessionId frame answer slot).1.applied = slot.applied := by
  cases frame with
  | create command =>
      rw [proceed]
      split <;> rfl
  | createStore command runtime =>
      rw [proceed]
      split
      · split <;> rfl
      · rfl
  | createDone command runtime => exact (hcreates command runtime rfl).symm
  | get command => rw [proceed, read_fst]
  | getRead command record => cases record <;> rfl
  | reset caller command => exact absurd rfl (hupdates (.reset caller))
  | submit caller requestId o =>
      exact absurd rfl (hupdates (.accepted caller o.observation.observationId))
  | publish requestId snapshot changed =>
      cases changed with
      | false => rfl
      | true =>
          obtain ⟨stay, registered, count, heq⟩ := publish_eq answer sessionId snapshot slot
          simp only [proceed, if_true]
          rw [heq]
  | resume command => rw [proceed, read_fst]
  | resumeRead command record => cases record <;> rfl
  | subscribe listener command => rw [proceed, read_fst]
  | subscribeRead listener command record =>
      cases record with
      | none => rfl
      | some record =>
          rw [proceed]
          split
          · rfl
          · obtain ⟨after, outcome, heq, -, -, happlied, -⟩ :=
              addSubscriber_cases answer sessionId listener command record slot
            rw [heq]
            exact happlied
  | delete command =>
      rw [proceed]
      split <;> rfl
  | deleteDone command deleted => cases deleted <;> rfl

/-- An update writes its change, or nothing. -/
lemma proceed_written (options : ServiceOptions) {frame : Frame} {answer : Answer}
    (hclean : answer.store = .failed → ¬frame.Moves slot) (h : Midway sessionId frame slot)
    {change : Applied} (hmakes : frame.Makes change) :
    Written frame slot (proceed options sessionId frame answer slot).1
      (proceed options sessionId frame answer slot).2 := by
  cases frame with
  | reset caller command =>
      rw [proceed]
      split
      · exact .failed _ rfl
      · rename_i runtime hruntime
        split
        · exact .failed _ rfl
        · rename_i hlocation
          refine reset_written h hruntime caller command answer fun hfailed => ?_
          refine hclean hfailed ⟨runtime, hruntime, fun location hmem => ?_⟩
          by_contra hhas
          exact hlocation ⟨location, hmem, by simpa using hhas⟩
  | submit caller requestId o => exact submit_written h caller requestId o answer hclean
  | _ => exact absurd hmakes id

/-! ### The rule -/

/-- What is allowed to happen at a session that is kept. -/
def Keeps (e : Event Frame Answer Change) (slot : SessionSlot) : Prop :=
  Allowed e slot ∧ ∀ ticket frame, e = .called ticket frame → ¬frame.Deletes

/-- Nothing is written before the session is made, and all it has sent belongs to its past. -/
structure Tidy (frame : Option Frame) (slot : SessionSlot) : Prop where
  unwritten : slot.record = none ∨ (∃ command runtime, frame = some (.createDone command runtime)) →
    slot.applied = []
  delivered : ∀ d ∈ slot.delivered, slot.Past d.2.snapshot

/-- A session that is kept, while an operation of it is under way. -/
structure KeptMidway (sessionId : String) (frame : Frame) (slot : SessionSlot) : Prop where
  midway : Midway sessionId frame slot
  keeps : ¬frame.Deletes
  tidy : Tidy (some frame) slot

/-- The snapshots operations have been answered with belong to the past. -/
def Answered (outcome : Outcome) (slot : SessionSlot) : Prop :=
  ∀ event, outcome = .ok (.updated event) → slot.Past event.snapshot

lemma Tidy.congr {frame : Option Frame} (h : Tidy frame slot) (hrecord : after.record = slot.record)
    (happlied : after.applied = slot.applied) (hdelivered : after.delivered = slot.delivered) :
    Tidy frame after where
  unwritten := by
    rw [hrecord, happlied]
    exact h.unwritten
  delivered := by
    rw [hdelivered]
    exact fun d hd => (h.delivered d hd).congr hrecord

/-- The log after a segment of a session that is not there yet. -/
lemma KeptMidway.unwritten (options : ServiceOptions) {frame : Frame} {answer : Answer}
    (hclean : answer.store = .failed → ¬frame.Moves slot) (h : KeptMidway sessionId frame slot)
    (hnone : slot.record = none) :
    (proceed options sessionId frame answer slot).1.applied = [] := by
  have happlied := h.tidy.unwritten (Or.inl hnone)
  by_cases hmakes : ∃ change, frame.Makes change
  · obtain ⟨change, hmakes⟩ := hmakes
    have hupdate : ∀ (verdict : StoreVerdict) (requestId : String)
        (mutate : SessionRecord → Mutation),
        (settleUpdate requestId (update verdict sessionId mutate slot)).1.applied = [] := by
      intro verdict requestId mutate
      rw [update, hnone]
      exact happlied
    cases frame with
    | reset caller command =>
        rw [proceed]
        split
        · exact happlied
        · split
          · exact happlied
          · exact hupdate _ _ _
    | submit caller requestId o => exact hupdate _ _ _
    | _ => exact absurd hmakes id
  · rw [proceed_applied options sessionId answer (fun change hmakes' => hmakes ⟨change, hmakes'⟩)
      fun _ _ _ => happlied]
    exact happlied

/-- A segment leaves a kept session tidy. -/
lemma KeptMidway.tidied (options : ServiceOptions) {frame : Frame} {answer : Answer}
    (hclean : answer.store = .failed → ¬frame.Moves slot) (h : KeptMidway sessionId frame slot)
    (next : Option Frame)
    (hnext : ∀ frame', next = some frame' →
      (proceed options sessionId frame answer slot).2 = .inl frame') :
    Tidy next (proceed options sessionId frame answer slot).1 := by
  have hsegment := proceed_segment options hclean h.midway h.keeps
  refine ⟨fun hcase => ?_, fun d hd => ?_⟩
  · refine h.unwritten options hclean ?_
    rcases hcase with hnone | ⟨command, runtime, hframe⟩
    · by_contra hsome
      obtain ⟨record, hrecord⟩ := Option.ne_none_iff_exists'.mp hsome
      obtain ⟨record', hrecord', -⟩ := hsegment.past _ ⟨record, hrecord, Or.inl rfl⟩
      rw [hnone] at hrecord'
      cases hrecord'
    · cases proceed_next options (hnext _ hframe) with
      | stored _ _ habsent => exact habsent
  · obtain ⟨new, hdelivered, hnew⟩ := hsegment.delivered
    rw [hdelivered] at hd
    rcases List.mem_append.mp hd with hd | hd
    · exact hsegment.past _ (h.tidy.delivered d hd)
    · exact hnew d hd

/-- Whatever follows a segment of a kept session keeps it. -/
lemma Frame.Next.keeps {frame next : Frame} (h : Frame.Next slot frame next)
    (hkeeps : ¬frame.Deletes) : ¬next.Deletes := by
  cases h with
  | deletes command deleted => exact absurd trivial hkeeps
  | _ => exact id

lemma Tidy.idle {frame : Frame} (h : Tidy none slot)
    (hframe : ∀ command runtime, frame ≠ .createDone command runtime) : Tidy (some frame) slot where
  unwritten := by
    rintro (hnone | ⟨command, runtime, heq⟩)
    · exact h.unwritten (Or.inl hnone)
    · exact absurd (Option.some.inj heq) (hframe command runtime)
  delivered := h.delivered

/-- What happens outside of the operations leaves the record, the log and what was sent. -/
lemma touch_kept (options : ServiceOptions) (sessionId : String) (change : Change)
    (slot : SessionSlot) :
    ((program options).touch sessionId change slot).record = slot.record ∧
      ((program options).touch sessionId change slot).applied = slot.applied ∧
      ((program options).touch sessionId change slot).delivered = slot.delivered ∧
      ((program options).touch sessionId change slot).subscriptions = slot.subscriptions := by
  cases change with
  | reserve => exact ⟨rfl, rfl, rfl, rfl⟩
  | unsubscribe index =>
      show (slot.releaseSubscriber index).record = _ ∧ (slot.releaseSubscriber index).applied = _ ∧
        (slot.releaseSubscriber index).delivered = _ ∧
        (slot.releaseSubscriber index).subscriptions = _
      rw [releaseSubscriber_eq]
      exact ⟨rfl, rfl, rfl, rfl⟩

/-- **The invariant rule of a session that is kept.** -/
lemma keptRule (options : ServiceOptions) (sessionId : String) :
    Rule (program options) sessionId Keeps (fun frame => frame.IsCall ∧ ¬frame.Deletes)
      (fun slot => Settled slot ∧ Tidy none slot) (KeptMidway sessionId) Answered where
  call := fun ticket frame _ h => ⟨h.1, h.2 ticket frame rfl⟩
  start := fun frame slot hcall h => by
    refine ⟨midway_of_isCall hcall.1 h.1, hcall.2, h.2.idle ?_⟩
    rintro command runtime rfl
    exact hcall.1
  next := fun _ frame answer slot next hallowed h hafter => by
    have hreached := proceed_reached options hallowed.1 h.midway
    rw [Reached, show (proceed options sessionId frame answer slot).2 = .inl next from hafter]
      at hreached
    refine ⟨hreached, (proceed_next options hafter).keeps h.keeps,
      h.tidied options hallowed.1 (some next) fun frame' heq => ?_⟩
    rw [← Option.some.inj heq]
    exact hafter
  done := fun _ frame answer slot outcome hallowed h hafter => by
    have hreached := proceed_reached options hallowed.1 h.midway
    rw [Reached, show (proceed options sessionId frame answer slot).2 = .inr outcome from hafter]
      at hreached
    refine ⟨⟨hreached, h.tidied options hallowed.1 none fun _ heq => (by cases heq)⟩, ?_⟩
    intro event hevent
    refine (proceed_segment options hallowed.1 h.midway h.keeps).reply event ?_
    rw [← hevent]
    exact hafter
  kept := fun _ _ _ _ _ hallowed h hanswered event hevent =>
    (proceed_segment options hallowed.1 h.midway h.keeps).past _ (hanswered event hevent)
  touch := fun change slot _ h => by
    obtain ⟨hrecord, happlied, hdelivered, -⟩ := touch_kept options sessionId change slot
    exact ⟨h.1.congr (touch_same options change slot), h.2.congr hrecord happlied hdelivered⟩
  touchRunning := fun frame change slot _ h => by
    obtain ⟨hrecord, happlied, hdelivered, -⟩ := touch_kept options sessionId change slot
    exact ⟨h.midway.congr (touch_same options change slot), h.keeps,
      h.tidy.congr hrecord happlied hdelivered⟩
  touchKept := fun change slot _ _ hanswered event hevent =>
    (hanswered event hevent).congr (touch_kept options sessionId change slot).1

end Qaraa.SessionService
