import Qaraa.Library.Totals
import Qaraa.Server.KeptSession

/-!
The session capacity of a service: live sessions, reservations and creations in flight.

* `Frame.creates`, `Service.creations`: the creations in flight.
* `CapacityStep`, `proceed_capacity`: all that a segment does to the record, the runtime and
  the reservation of its session.
* `Accounted`, `accounted_run`: each reservation belongs to a creation in flight, and the
  reservations and the live sessions together stay within the capacity.
* `Matched`: between creations and deletions the live sessions are the stored ones.
* `session_capacity`: **session capacity accounting**.
-/

namespace Qaraa.SessionService

open Fallible Ordered KeyedQueue

/-! ### Creations -/

/-- Whether a frame belongs to a creation. -/
def Frame.creates : Frame → Bool
  | .create _ | .createStore _ _ | .createDone _ _ => true
  | _ => false

/-- The operation has been called and has neither resolved nor rejected. -/
def InFlight (e : Entry String Frame Outcome) : Prop := e.phase.result = none

/-- The number of creations in flight. -/
def Service.creations (s : Service) : ℕ :=
  (s.entries.filter fun e => e.call.creates && e.phase.result.isNone).length

/-- What a creation in flight reserves. -/
def reservation (call : Frame) (phase : Phase Frame Outcome) : ℤ :=
  if call.creates && phase.result.isNone then 1 else 0

lemma reservation_running (call frame : Frame) :
    reservation call (.running frame) = if call.creates then 1 else 0 := by
  simp [reservation, Phase.result]

lemma reservation_next (call frame : Frame) :
    reservation call (.after (.inl frame)) = if call.creates then 1 else 0 := by
  simp [reservation, Phase.after, Phase.result]

lemma reservation_done (call : Frame) (outcome : Outcome) :
    reservation call (.after (.inr outcome)) = 0 := by
  simp [reservation, Phase.after, Phase.result]

lemma reservation_other {call : Frame} (hother : call.creates = false)
    (phase : Phase Frame Outcome) : reservation call phase = 0 := by
  simp [reservation, hother]

lemma creations_eq (s : Service) : (s.creations : ℤ) = s.callTotal reservation :=
  length_filter_eq_sum _ _

/-- Whether a session is live, as a number. -/
def SessionSlot.live (slot : SessionSlot) : ℤ := if slot.runtime.isSome then 1 else 0

lemma sessionCount_eq (s : Service) : (s.sessionCount : ℤ) = s.slotTotal SessionSlot.live :=
  length_filter_eq_sum _ _

/-! ### One segment -/

section

variable {slot after : SessionSlot} {sessionId : String}

/-- A change that touches neither the reservation, nor whether there is a record or a
runtime. -/
structure SameCapacity (slot after : SessionSlot) : Prop where
  reserved : after.reservedSessions = slot.reservedSessions
  runtime : after.runtime.isSome = slot.runtime.isSome
  record : after.record.isSome = slot.record.isSome

lemma SameCapacity.refl (slot : SessionSlot) : SameCapacity slot slot := ⟨rfl, rfl, rfl⟩

/-- What a segment of an operation does to the capacity. -/
inductive CapacityStep (frame : Frame) (slot : SessionSlot) :
    SessionSlot → Frame ⊕ Outcome → Prop where
  /-- Nothing; a creation goes on. -/
  | kept (after : SessionSlot) (outcome : Frame ⊕ Outcome) (same : SameCapacity slot after)
      (goesOn : frame.creates = true → ∃ next, outcome = .inl next) :
      CapacityStep frame slot after outcome
  /-- A creation fails. -/
  | released (creates : frame.creates = true) (outcome : Outcome) :
      CapacityStep frame slot slot.releaseReservation (.inr outcome)
  /-- A creation has stored its record. -/
  | stored (command : SessionCreateCommand) (runtime : SessionRuntime) (record : SessionRecord)
      (creates : frame.creates = true) :
      CapacityStep frame slot { slot with record := some record }
        (.inl (.createDone command runtime))
  /-- A creation succeeds. -/
  | created (command : SessionCreateCommand) (runtime : SessionRuntime) (applied : List Applied)
      (isFrame : frame = .createDone command runtime) (outcome : Outcome) :
      CapacityStep frame slot
        { slot.releaseReservation with runtime := some runtime, applied := applied } (.inr outcome)
  /-- A deletion has removed the record. -/
  | unstored (command : SessionDeleteCommand) (creates : frame.creates = false) :
      CapacityStep frame slot { slot with record := none }
        (.inl (.deleteDone command slot.record.isSome))
  /-- A deletion succeeds. -/
  | deleted (command : SessionDeleteCommand) (isFrame : frame = .deleteDone command true)
      (after : SessionSlot) (reserved : after.reservedSessions = slot.reservedSessions)
      (runtime : after.runtime = none) (record : after.record = slot.record) (outcome : Outcome) :
      CapacityStep frame slot after (.inr outcome)

lemma CapacityStep.other {frame : Frame} (hother : frame.creates = false)
    {outcome : Frame ⊕ Outcome} (same : SameCapacity slot after) :
    CapacityStep frame slot after outcome :=
  .kept after outcome same fun h => by simp [hother] at h

lemma resetRecord_capacity {runtime : SessionRuntime} (hruntime : slot.runtime = some runtime)
    (caller : ℕ) (command : SessionResetCommand) (record : SessionRecord) :
    SameCapacity slot (resetRecord caller command runtime slot record).1 := by
  rw [resetRecord]
  split
  · exact .refl slot
  · exact ⟨rfl, by rw [hruntime]; rfl, rfl⟩

lemma submitRecord_capacity (caller : ℕ) (sessionId : String) (o : CheckedObservation)
    (record : SessionRecord) :
    SameCapacity slot (submitRecord caller sessionId o slot record).1 := by
  rw [submitRecord]
  split
  · exact .refl slot
  · split
    · exact .refl slot
    · split
      · exact .refl slot
      · rename_i runtime hruntime
        split
        · exact .refl slot
        · dsimp only
          split
          · exact ⟨rfl, by rw [hruntime]; rfl, rfl⟩
          · exact ⟨rfl, by rw [hruntime]; rfl, rfl⟩

/-- A store update replaces a record there is. -/
lemma update_capacity (verdict : StoreVerdict) {mutate : SessionRecord → Mutation}
    (hmutate : ∀ record, SameCapacity slot (mutate record).1) :
    SameCapacity slot (update verdict sessionId mutate slot).1 := by
  rw [update]
  split
  · exact .refl slot
  · rename_i record hrecord
    have hsame := hmutate record
    cases verdict with
    | refused => exact .refl slot
    | failed => exact hsame
    | committed =>
        dsimp only
        generalize mutate record = mutation at hsame
        obtain ⟨changed, outcome⟩ := mutation
        cases outcome with
        | error error => exact hsame
        | ok result => exact ⟨hsame.reserved, hsame.runtime, by rw [hrecord]; rfl⟩

lemma addSubscriber_capacity (answer : Answer) (listener : ℕ) (command : SessionResumeCommand)
    (record : SessionRecord) :
    SameCapacity slot (addSubscriber answer sessionId listener command record slot).1 := by
  rw [addSubscriber]
  dsimp only
  obtain ⟨sent, stay, registered, count, hslot, -⟩ := replay_eq answer sessionId
    ⟨slot.subscriptions, command.requestId, listener, command, record⟩ record.snapshots
    { slot with
      registered := true
      subscribers := slot.subscribers
        ++ [⟨slot.subscriptions, command.requestId, listener, command, record⟩]
      subscriberCount := slot.subscriberCount + 1
      subscriptions := slot.subscriptions + 1 }
  split
  · rename_i replayed heq
    rw [heq] at hslot
    dsimp only at hslot ⊢
    rw [hslot]
    exact ⟨rfl, rfl, rfl⟩
  · rename_i replayed heq
    rw [heq] at hslot
    dsimp only at hslot
    rw [rejectWith, releaseSubscriber_eq, hslot]
    exact ⟨rfl, rfl, rfl⟩

/-- Whether an operation neither creates nor deletes a session. -/
def Frame.Plain (frame : Frame) : Prop := frame.creates = false ∧ ¬frame.Deletes

/-- An operation that neither creates nor deletes a session keeps the capacity. -/
lemma proceed_same (options : ServiceOptions) {frame : Frame} (hplain : frame.Plain)
    (answer : Answer) : SameCapacity slot (proceed options sessionId frame answer slot).1 := by
  cases frame with
  | create command => cases hplain.1
  | createStore command runtime => cases hplain.1
  | createDone command runtime => cases hplain.1
  | get command =>
      rw [proceed, read_fst]
      exact .refl slot
  | getRead command record => cases record <;> exact .refl slot
  | reset caller command =>
      rw [proceed]
      split
      · exact .refl slot
      · rename_i runtime hruntime
        split
        · exact .refl slot
        · rw [settleUpdate_fst]
          exact update_capacity _ fun record => resetRecord_capacity hruntime caller command record
  | submit caller requestId o =>
      rw [proceed, settleUpdate_fst]
      exact update_capacity _ fun record => submitRecord_capacity caller sessionId o record
  | publish requestId snapshot changed =>
      rw [proceed]
      cases changed with
      | false => exact .refl slot
      | true =>
          obtain ⟨stay, registered, count, heq⟩ := publish_eq answer sessionId snapshot slot
          rw [if_pos rfl, heq]
          exact ⟨rfl, rfl, rfl⟩
  | resume command =>
      rw [proceed, read_fst]
      exact .refl slot
  | resumeRead command record => cases record <;> exact .refl slot
  | subscribe listener command =>
      rw [proceed, read_fst]
      exact .refl slot
  | subscribeRead listener command record =>
      cases record with
      | none => exact .refl slot
      | some record =>
          rw [proceed]
          split
          · exact .refl slot
          · exact addSubscriber_capacity answer listener command record
  | delete command => exact absurd trivial hplain.2
  | deleteDone command deleted => exact absurd trivial hplain.2

/-- **What a segment does to the capacity.** -/
theorem proceed_capacity (options : ServiceOptions) (sessionId : String) (frame : Frame)
    (answer : Answer) (slot : SessionSlot) :
    CapacityStep frame slot (proceed options sessionId frame answer slot).1
      (proceed options sessionId frame answer slot).2 := by
  cases frame with
  | create command =>
      rw [proceed]
      split
      · exact .released rfl _
      · exact .kept _ _ (.refl slot) fun _ => ⟨_, rfl⟩
  | createStore command runtime =>
      rw [proceed]
      split
      · split
        · exact .released rfl _
        · exact .stored command runtime _ rfl
      · exact .released rfl _
  | createDone command runtime => exact .created command runtime [] rfl _
  | delete command =>
      rw [proceed]
      split
      · exact .unstored command rfl
      · exact .other rfl (.refl slot)
  | deleteDone command deleted =>
      cases deleted with
      | false => exact .other rfl (.refl slot)
      | true => refine .deleted command rfl _ ?_ ?_ ?_ _ <;> rfl
  | _ => exact .other rfl (proceed_same options ⟨rfl, id⟩ answer)

/-! ### Reservations -/

/-- A frame belongs to the same kind of operation as its call. -/
def SameKind (call frame : Frame) : Prop :=
  call.creates = frame.creates ∧ (call.Deletes ↔ frame.Deletes)

/-- No operation turns into another. -/
lemma sameKind_next (options : ServiceOptions) {call frame next : Frame} {answer : Answer}
    (hkind : SameKind call frame)
    (hnext : (proceed options sessionId frame answer slot).2 = .inl next) : SameKind call next := by
  have hfollows := proceed_next options hnext
  cases hfollows with
  | publishes frame change hmakes requestId snapshot changed =>
      cases frame with
      | reset caller command => exact hkind
      | submit caller requestId o => exact hkind
      | _ => exact hmakes.elim
  | _ => exact hkind

lemma live_nonneg (slot : SessionSlot) : 0 ≤ slot.live := by
  rw [SessionSlot.live]
  split <;> decide

/-- The reservations of a session after a segment, and its place among the live sessions. -/
lemma CapacityStep.reserved {frame : Frame} {outcome : Frame ⊕ Outcome}
    (h : CapacityStep frame slot after outcome) {call : Frame} (hkind : SameKind call frame) :
    after.reservedSessions - slot.reservedSessions
        = reservation call (.after outcome) - reservation call (.running frame) ∧
      after.live + after.reservedSessions ≤ slot.live + slot.reservedSessions := by
  have hcreates := hkind.1
  have hnonneg := live_nonneg slot
  cases h with
  | kept _ _ same goesOn =>
      rw [same.reserved, SessionSlot.live, SessionSlot.live, same.runtime, sub_self]
      refine ⟨?_, le_refl _⟩
      cases hframe : frame.creates with
      | false => rw [reservation_other (hcreates.trans hframe), reservation_other
          (hcreates.trans hframe), sub_self]
      | true =>
          obtain ⟨next, rfl⟩ := goesOn hframe
          rw [reservation_next, reservation_running, sub_self]
  | released creates result =>
      have hlive : slot.releaseReservation.live = slot.live := rfl
      rw [reservation_done, reservation_running, hcreates.trans creates, if_pos rfl, hlive]
      change slot.reservedSessions - 1 - slot.reservedSessions = 0 - 1 ∧
        slot.live + (slot.reservedSessions - 1) ≤ slot.live + slot.reservedSessions
      omega
  | stored command runtime record creates =>
      rw [reservation_next, reservation_running]
      exact ⟨(sub_self _).trans (sub_self _).symm, le_refl _⟩
  | created command runtime applied isFrame result =>
      rw [isFrame] at hcreates
      rw [reservation_done, reservation_running, hcreates]
      change slot.reservedSessions - 1 - slot.reservedSessions = 0 - 1 ∧
        (1 : ℤ) + (slot.reservedSessions - 1) ≤ slot.live + slot.reservedSessions
      omega
  | unstored command creates =>
      rw [reservation_other (hcreates.trans creates), reservation_other
        (hcreates.trans creates)]
      exact ⟨sub_self _, le_refl _⟩
  | deleted command isFrame _ reserved runtime record result =>
      rw [isFrame] at hcreates
      have hlive : after.live = 0 := by
        rw [SessionSlot.live, runtime]
        rfl
      rw [reservation_other hcreates, reservation_other hcreates, reserved, hlive]
      omega

end

/-! ### Runs -/

/-- The capacity of a service is accounted for. -/
structure Accounted (options : ServiceOptions) (s : Service) : Prop where
  reserved : s.slotTotal SessionSlot.reservedSessions = s.callTotal reservation
  capacity : s.slotTotal SessionSlot.live + s.slotTotal SessionSlot.reservedSessions
    ≤ options.maxSessions
  kinds : s.Follows SameKind

lemma accounted_empty (options : ServiceOptions) : Accounted options State.empty := by
  refine ⟨?_, ?_, fun _ he => by cases he⟩
  · rw [State.slotTotal_empty, State.callTotal_empty]
  · rw [State.slotTotal_empty, State.slotTotal_empty]
    exact Int.natCast_nonneg _

section

variable {options : ServiceOptions} {s : Service}

/-- No step turns an operation into another. -/
lemma kinds_step (options : ServiceOptions) (h : s.Follows SameKind)
    (action : Action String Frame Answer Change) :
    (State.step (program options) s action).Follows SameKind := by
  refine State.Follows.step (fun call => ⟨rfl, Iff.rfl⟩) ?_ h action
  intro sessionId call frame answer slot next hkind hnext
  exact sameKind_next options hkind hnext

/-- An operation goes on. -/
lemma Accounted.resume (h : Accounted options s) (ticket : ℕ) (answer : Answer) :
    Accounted options (State.step (program options) s (.resume ticket answer)) := by
  have hkinds := kinds_step options h.kinds (.resume ticket answer)
  rcases State.resume_totals (program options) s ticket answer with
    heq | ⟨sessionId, call, previous, frame, he, hslots, hcalls⟩
  · rw [heq]
    exact h
  · have hkind : SameKind call frame := h.kinds _ (List.mem_of_getElem? he) frame rfl
    obtain ⟨hreserved, hcapacity⟩ :=
      (proceed_capacity options sessionId frame answer (s.slot sessionId)).reserved hkind
    refine ⟨?_, ?_, hkinds⟩
    · rw [hslots _ rfl, hcalls, h.reserved]
      change _ - _ + (proceed options sessionId frame answer (s.slot sessionId)).1.reservedSessions
        = _ - _ + reservation call (.after (proceed options sessionId frame answer
          (s.slot sessionId)).2)
      omega
    · rw [hslots _ rfl, hslots _ rfl]
      have := h.capacity
      change _ - _ + (proceed options sessionId frame answer (s.slot sessionId)).1.live + (_ - _
        + (proceed options sessionId frame answer (s.slot sessionId)).1.reservedSessions) ≤ _
      omega

/-- A call that creates nothing. -/
lemma creates_of_isCall {frame : Frame} (hcall : frame.IsCall)
    (hother : ∀ command, frame ≠ .create command) : frame.creates = false := by
  cases frame with
  | create command => exact absurd rfl (hother command)
  | createStore command runtime => exact hcall.elim
  | createDone command runtime => exact hcall.elim
  | _ => rfl

/-- An admitted creation fits. -/
lemma fits_of_admitted {sessionId : String} {command : SessionCreateCommand}
    (h : s.refusal options (.create sessionId command) = none) :
    (s.sessionCount : ℤ) + s.reservedSessions < options.maxSessions := by
  rw [Service.refusal] at h
  split at h
  · cases h
  · rename_i hfits
    exact not_le.mp hfits

/-- A creation is called. -/
lemma Accounted.create (h : Accounted options s) (sessionId : String)
    (command : SessionCreateCommand)
    (hadmitted : s.refusal options (.create sessionId command) = none) :
    Accounted options (State.step (program options)
      (State.step (program options) s (.touch sessionId .reserve))
      (.call sessionId (.create command))) := by
  have hreserved : (State.step (program options) s (.touch sessionId .reserve)).slotTotal
      SessionSlot.reservedSessions = s.slotTotal SessionSlot.reservedSessions + 1 := by
    rw [State.slotTotal_touch (program options) rfl]
    change _ - _ + ((s.slot sessionId).reservedSessions + 1) = _
    omega
  have hlive : (State.step (program options) s (.touch sessionId .reserve)).slotTotal
      SessionSlot.live = s.slotTotal SessionSlot.live := by
    rw [State.slotTotal_touch (program options) rfl]
    exact sub_add_cancel _ _
  have hfits : s.slotTotal SessionSlot.live + s.slotTotal SessionSlot.reservedSessions
      < options.maxSessions := by
    have := fits_of_admitted hadmitted
    rwa [sessionCount_eq] at this
  refine ⟨?_, ?_, kinds_step options (kinds_step options h.kinds _) _⟩
  · rw [State.callTotal_call]
    exact hreserved.trans (congrArg (· + 1) h.reserved)
  · change (State.step (program options) s (.touch sessionId .reserve)).slotTotal
      SessionSlot.live + (State.step (program options) s (.touch sessionId .reserve)).slotTotal
      SessionSlot.reservedSessions ≤ _
    omega

/-- A subscriber leaves. -/
lemma Accounted.leave (h : Accounted options s) (sessionId : String) (index : ℕ) :
    Accounted options
      (State.step (program options) s (.touch sessionId (.unsubscribe index))) := by
  have hsame : ∀ f : SessionSlot → ℤ, f default = 0 →
      f ((s.slot sessionId).releaseSubscriber index) = f (s.slot sessionId) →
      (State.step (program options) s (.touch sessionId (.unsubscribe index))).slotTotal f
        = s.slotTotal f := by
    intro f hdefault hf
    rw [State.slotTotal_touch (program options) hdefault]
    change _ - _ + f ((s.slot sessionId).releaseSubscriber index) = _
    omega
  have hreserved := hsame SessionSlot.reservedSessions rfl (by rw [releaseSubscriber_eq])
  have hlive := hsame SessionSlot.live rfl (by rw [releaseSubscriber_eq]; rfl)
  refine ⟨hreserved.trans h.reserved, ?_, kinds_step options h.kinds _⟩
  rw [hreserved, hlive]
  exact h.capacity

/-- **Every step keeps the account.** -/
theorem Accounted.step (h : Accounted options s) (action : ServiceAction) :
    Accounted options (s.step options action) := by
  have hstep := step_cases options s action
  generalize Service.step options s action = after at hstep
  cases hstep with
  | refused => exact h
  | created sessionId command isCreate admitted =>
      subst isCreate
      exact h.create sessionId command admitted
  | called sessionId frame isCall isOther =>
      refine ⟨?_, h.capacity, kinds_step options h.kinds _⟩
      rw [State.callTotal_call, reservation_other (creates_of_isCall isCall isOther), add_zero]
      exact h.reserved
  | quiet queueAction silent moves =>
      obtain ⟨hslots, hcalls⟩ := State.quiet_totals (program options) silent moves
      refine ⟨?_, ?_, kinds_step options h.kinds _⟩
      · rw [hslots, hcalls reservation (fun _ _ => rfl) (fun _ _ => rfl)]
        exact h.reserved
      · rw [hslots, hslots]
        exact h.capacity
  | proceeded ticket answer _ => exact h.resume ticket _
  | left sessionId index => exact h.leave sessionId index

lemma accounted_run (options : ServiceOptions) (actions : List ServiceAction) :
    Accounted options (Service.run options State.empty actions) :=
  Loop.foldl_induction (P := fun _ s => Accounted options s) (accounted_empty options)
    fun _ action _ _ h => h.step action

end

/-! ### Live and stored sessions -/

/-- The session is live and stored, or neither. -/
def Matched (slot : SessionSlot) : Prop := slot.runtime.isSome = slot.record.isSome

/-- What an operation leaves between two segments. -/
def MatchedDuring : Frame → SessionSlot → Prop
  | .createDone _ _, slot => slot.record.isSome = true
  | .deleteDone _ deleted, slot => slot.record = none ∧ (deleted = false → slot.runtime = none)
  | _, slot => Matched slot

section

variable {slot after : SessionSlot} {sessionId : String}

lemma matchedDuring_plain {frame : Frame} (hplain : frame.Plain) :
    MatchedDuring frame slot ↔ Matched slot := by
  cases frame with
  | createDone command runtime => cases hplain.1
  | deleteDone command deleted => exact absurd trivial hplain.2
  | _ => exact Iff.rfl

lemma matchedDuring_call {frame : Frame} (hcall : frame.IsCall) (h : Matched slot) :
    MatchedDuring frame slot := by
  cases frame with
  | createDone command runtime => exact hcall.elim
  | deleteDone command deleted => exact hcall.elim
  | _ => exact h

/-- Nothing but the record and the runtime matters. -/
lemma matchedDuring_congr (frame : Frame) (hrecord : after.record = slot.record)
    (hruntime : after.runtime = slot.runtime) :
    MatchedDuring frame after ↔ MatchedDuring frame slot := by
  cases frame with
  | _ => simp only [MatchedDuring, Matched, hrecord, hruntime]

/-- What a segment leaves. -/
def LeavesMatched (x : SessionSlot × (Frame ⊕ Outcome)) : Prop :=
  match x.2 with
  | .inl frame => MatchedDuring frame x.1
  | .inr _ => Matched x.1

/-- An operation that neither creates nor deletes a session. -/
lemma plain_matched (options : ServiceOptions) {frame : Frame} (hplain : frame.Plain)
    (answer : Answer) (h : Matched slot) :
    LeavesMatched (proceed options sessionId frame answer slot) := by
  have hsame : SameCapacity slot (proceed options sessionId frame answer slot).1 :=
    proceed_same options hplain answer
  have hmatched : Matched (proceed options sessionId frame answer slot).1 :=
    hsame.runtime.trans (h.trans hsame.record.symm)
  rw [LeavesMatched]
  cases hafter : (proceed options sessionId frame answer slot).2 with
  | inr outcome => exact hmatched
  | inl next =>
      have hkind := sameKind_next options ⟨rfl, Iff.rfl⟩ hafter
      have hnext : next.Plain :=
        ⟨hkind.1.symm.trans hplain.1, fun hdeletes => hplain.2 (hkind.2.mpr hdeletes)⟩
      exact (matchedDuring_plain hnext).mpr hmatched

/-- **Every segment leaves the session matched, or as its operation leaves it meanwhile.** -/
theorem proceed_matched (options : ServiceOptions) {frame : Frame} (answer : Answer)
    (h : MatchedDuring frame slot) :
    LeavesMatched (proceed options sessionId frame answer slot) := by
  cases frame with
  | create command =>
      rw [proceed]
      split
      · exact h
      · exact h
  | createStore command runtime =>
      rw [proceed]
      split
      · split
        · exact h
        · exact rfl
      · exact h
  | createDone command runtime => exact Eq.symm h
  | delete command =>
      rw [proceed]
      split
      · refine ⟨rfl, fun hdeleted => ?_⟩
        have hruntime : slot.runtime.isSome = false := Eq.trans h hdeleted
        simpa using hruntime
      · exact h
  | deleteDone command deleted =>
      obtain ⟨hrecord, hruntime⟩ := h
      cases deleted with
      | false =>
          show slot.runtime.isSome = slot.record.isSome
          rw [hruntime rfl, hrecord]
          rfl
      | true =>
          show (none : Option SessionRuntime).isSome = slot.record.isSome
          rw [hrecord]
          rfl
  | _ => exact plain_matched options ⟨rfl, id⟩ answer h

/-- The invariant rule of live and stored sessions. -/
lemma matchedRule (options : ServiceOptions) (sessionId : String) :
    Rule (program options) sessionId Called Frame.IsCall Matched MatchedDuring
      (fun _ _ => True) where
  call := fun _ _ _ h => h
  start := fun _ _ hcall h => matchedDuring_call hcall h
  next := fun _ frame answer slot next _ h hafter => by
    have hleaves : LeavesMatched (proceed options sessionId frame answer slot) :=
      proceed_matched options answer h
    rwa [LeavesMatched, show (proceed options sessionId frame answer slot).2 = .inl next from
      hafter] at hleaves
  done := fun _ frame answer slot outcome _ h hafter => by
    have hleaves : LeavesMatched (proceed options sessionId frame answer slot) :=
      proceed_matched options answer h
    rw [LeavesMatched, show (proceed options sessionId frame answer slot).2 = .inr outcome from
      hafter] at hleaves
    exact ⟨hleaves, trivial⟩
  kept := fun _ _ _ _ _ _ _ _ => trivial
  touch := fun change slot _ h => by
    have hsame : SameSession slot ((program options).touch sessionId change slot) :=
      touch_same options change slot
    rw [Matched, hsame.runtime, hsame.record]
    exact h
  touchRunning := fun frame change slot _ h => by
    have hsame : SameSession slot ((program options).touch sessionId change slot) :=
      touch_same options change slot
    exact (matchedDuring_congr frame hsame.record hsame.runtime).mpr h
  touchKept := fun _ _ _ _ _ => trivial

/-- While neither a creation nor a deletion of a session is in flight, it is live exactly if
it is stored. -/
lemma matched_of_plain (options : ServiceOptions) (actions : List ServiceAction)
    (hplain : ∀ e ∈ (Service.run options State.empty actions).entries, e.key = sessionId →
      InFlight e → e.call.Plain) :
    Matched ((Service.run options State.empty actions).slot sessionId) := by
  set s := Service.run options State.empty actions with hs
  obtain ⟨-, hholds⟩ := run_rule (matchedRule options sessionId) rfl actions
  rw [← hs] at hholds
  by_cases hrunning : ∃ y ∈ s.queue sessionId, ∃ frame, y.2.phase = .running frame
  · obtain ⟨y, hy, frame, hphase⟩ := hrunning
    obtain ⟨hentry, hkey⟩ := State.mem_queue.mp hy
    have hmem := List.mem_of_getElem? hentry
    have hcall := hplain y.2 hmem hkey (by rw [InFlight, hphase]; rfl)
    have hkind : SameKind y.2.call frame := (accounted_run options actions).kinds y.2 hmem frame
      hphase
    refine (matchedDuring_plain ⟨hkind.1.symm.trans hcall.1, ?_⟩).mp (hholds.busy y hy frame hphase)
    exact fun hdeletes => hcall.2 (hkind.2.mpr hdeletes)
  · refine hholds.idle fun y hy frame hphase => hrunning ⟨y, hy, frame, hphase⟩

end

/-- **Session capacity accounting.** In every state of a run of a service, whatever the
corpus resolver, the store and the listeners answer: the live sessions and the creations in
flight are together at most `maxSessions`; each reservation belongs to a creation in flight;
a session with neither a creation nor a deletion in flight is live exactly if it is stored;
and a creation is refused for capacity exactly if that sum has reached `maxSessions`. -/
theorem session_capacity (options : ServiceOptions) (actions : List ServiceAction) :
    let s := Service.run options State.empty actions
    s.sessionCount + s.creations ≤ options.maxSessions ∧
    s.reservedSessions = s.creations ∧
    (∀ sessionId, (∀ e ∈ s.entries, e.key = sessionId → InFlight e → e.call.Plain) →
      ((s.slot sessionId).runtime.isSome ↔ (s.slot sessionId).record.isSome)) ∧
    ∀ sessionId command, s.refusal options (.create sessionId command)
        = some (capacityExhausted "sessions" options.maxSessions) ↔
      s.sessionCount + s.creations = options.maxSessions := by
  intro s
  have haccount : Accounted options s := accounted_run options actions
  have hreserved : s.reservedSessions = s.creations := by
    rw [creations_eq]
    exact haccount.reserved
  have hcapacity : (s.sessionCount : ℤ) + s.reservedSessions ≤ options.maxSessions := by
    rw [sessionCount_eq]
    exact haccount.capacity
  rw [hreserved] at hcapacity
  refine ⟨by exact_mod_cast hcapacity, hreserved, fun sessionId hplain => ?_,
    fun sessionId command => ?_⟩
  · have hmatched : (s.slot sessionId).runtime.isSome = (s.slot sessionId).record.isSome :=
      matched_of_plain options actions hplain
    rw [hmatched]
  · rw [Service.refusal, hreserved]
    constructor
    · intro hrefused
      split at hrefused
      · omega
      · cases hrefused
    · intro hfull
      rw [if_pos (by omega)]

end Qaraa.SessionService
