import Qaraa.Server.Callers
import Qaraa.Server.Joining

/-!
What the operations of a service are answered with, and which of them subscribers belong to.

* `Purpose`, `Frame.purpose`: what an operation is for, at each of its awaits.
* `Reply.Serves`: the replies to an operation: of its kind, under its request id and its session.
* `proceed_purpose`, `serves_of_run`: **an operation is answered with a reply that serves it**.
* `Service.Resolves`, `resolved_of_run`: **a subscriber belongs to a `subscribe` that has been
  answered with its number**.
-/

namespace Qaraa.SessionService

open Fallible Ordered KeyedQueue

variable {sessionId : String} {slot : SessionSlot}

/-! ### Purposes -/

/-- What an operation was called for. -/
inductive Purpose where
  | create (requestId : String)
  | get (requestId : String)
  | change (requestId : String)
  | resume (requestId : String)
  | subscribe (listener : ℕ) (command : SessionResumeCommand)
  | delete (requestId : String)

/-- What an operation was called for, wherever it stands. -/
def Frame.purpose : Frame → Purpose
  | .create command => .create command.requestId
  | .createStore command _ => .create command.requestId
  | .createDone command _ => .create command.requestId
  | .get command => .get command.requestId
  | .getRead command _ => .get command.requestId
  | .reset _ command => .change command.requestId
  | .submit _ requestId _ => .change requestId
  | .publish requestId _ _ => .change requestId
  | .resume command => .resume command.requestId
  | .resumeRead command _ => .resume command.requestId
  | .subscribe listener command => .subscribe listener command
  | .subscribeRead listener command _ => .subscribe listener command
  | .delete command => .delete command.requestId
  | .deleteDone command _ => .delete command.requestId

/-- An operation that subscribes starts from a call of `subscribe`. -/
lemma Frame.eq_subscribe {call : Frame} (hcall : call.IsCall) {listener : ℕ}
    {command : SessionResumeCommand} (h : call.purpose = .subscribe listener command) :
    call = .subscribe listener command := by
  cases call with
  | subscribe listener' command' =>
      cases h
      rfl
  | subscribeRead listener' command' record => exact hcall.elim
  | _ => cases h

/-- The replies to an operation of a session. -/
def Reply.Serves (sessionId : String) : Purpose → Reply → Prop
  | .create requestId, .created event => event.requestId = requestId ∧ event.sessionId = sessionId
  | .get requestId, .updated event => event.requestId = requestId ∧ event.sessionId = sessionId
  | .change requestId, .updated event => event.requestId = requestId ∧ event.sessionId = sessionId
  | .resume requestId, .resumed events =>
      ∀ event ∈ events, event.requestId = requestId ∧ event.sessionId = sessionId
  | .subscribe _ _, .subscribed _ => True
  | .delete requestId, .deleted event => event.requestId = requestId ∧ event.sessionId = sessionId
  | _, _ => False

/-- A segment serves its purpose: it goes on with it, or its reply does. -/
def Frame.Serves (sessionId : String) (purpose : Purpose) : Frame ⊕ Outcome → Prop
  | .inl frame => frame.purpose = purpose
  | .inr outcome => ∀ reply, outcome = .ok reply → reply.Serves sessionId purpose

lemma serves_rejectWith (purpose : Purpose) (slot : SessionSlot) (error : ServiceError) :
    Frame.Serves sessionId purpose (rejectWith slot error).2 := fun _ hok => by cases hok

lemma serves_read {purpose : Purpose} {next : Option SessionRecord → Frame}
    (hnext : ∀ record, (next record).purpose = purpose) (answer : Answer) :
    Frame.Serves sessionId purpose (read answer slot next).2 := by
  rw [read]
  split
  · exact hnext _
  · exact serves_rejectWith purpose slot _

lemma serves_settleUpdate (requestId : String) (mutation : Mutation) :
    Frame.Serves sessionId (.change requestId) (settleUpdate requestId mutation).2 := by
  rw [settleUpdate.eq_def]
  split
  · rfl
  · exact serves_rejectWith _ _ _

/-- **A segment serves the purpose of its operation.** -/
theorem proceed_purpose (options : ServiceOptions) (frame : Frame) (answer : Answer) :
    Frame.Serves sessionId frame.purpose (proceed options sessionId frame answer slot).2 := by
  cases frame with
  | create command =>
      rw [proceed]
      split
      · exact serves_rejectWith _ _ _
      · rfl
  | createStore command runtime =>
      rw [proceed]
      split
      · split
        · exact serves_rejectWith _ _ _
        · rfl
      · exact serves_rejectWith _ _ _
  | createDone command runtime =>
      rintro reply ⟨⟩
      exact ⟨rfl, rfl⟩
  | get command => exact serves_read (fun _ => rfl) answer
  | getRead command record =>
      cases record with
      | none => exact serves_rejectWith _ slot _
      | some record =>
          rintro reply ⟨⟩
          exact ⟨rfl, rfl⟩
  | reset caller command =>
      rw [proceed]
      split
      · exact serves_rejectWith _ _ _
      · split
        · exact serves_rejectWith _ _ _
        · exact serves_settleUpdate command.requestId _
  | submit caller requestId o => exact serves_settleUpdate requestId _
  | publish requestId snapshot changed =>
      rintro reply ⟨⟩
      exact ⟨rfl, rfl⟩
  | resume command => exact serves_read (fun _ => rfl) answer
  | resumeRead command record =>
      cases record with
      | none => exact serves_rejectWith _ slot _
      | some record =>
          rintro reply ⟨⟩ event hevent
          obtain ⟨snapshot, -, rfl⟩ := List.mem_map.mp hevent
          exact ⟨rfl, rfl⟩
  | subscribe listener command => exact serves_read (fun _ => rfl) answer
  | subscribeRead listener command record =>
      cases record with
      | none => exact serves_rejectWith _ slot _
      | some record =>
          rw [proceed]
          split
          · exact serves_rejectWith _ _ _
          · obtain ⟨after, outcome, heq, -, -, -, -, -, sent, stay, -, -, hcases⟩ :=
              addSubscriber_cases answer sessionId listener command record slot
            rw [heq]
            rintro reply rfl
            rcases hcases with ⟨-, houtcome, -⟩ | ⟨-, houtcome⟩
            · cases houtcome
              trivial
            · cases houtcome
  | delete command =>
      rw [proceed]
      split
      · rfl
      · exact serves_rejectWith _ _ _
  | deleteDone command deleted =>
      cases deleted with
      | false => exact serves_rejectWith _ slot _
      | true =>
          rintro reply ⟨⟩
          exact ⟨rfl, rfl⟩

/-! ### Runs -/

/-- The promises of a session serve the purposes of their calls. -/
structure Purposeful (s : Service) (sessionId : String) : Prop where
  orderly : Orderly (s.at sessionId)
  answers : Answers (fun call frame => frame.purpose = call.purpose)
    (fun call outcome => ∀ reply, outcome = .ok reply → reply.Serves sessionId call.purpose)
    (s.at sessionId)

namespace Purposeful

variable {s : Service}

lemma queueStep (h : Purposeful s sessionId) (options : ServiceOptions)
    (action : Action String Frame Answer Change) :
    Purposeful (State.step (program options) s action) sessionId where
  orderly := run_orderly (program options) h.orderly [action]
  answers := by
    rcases step_move (program options) s action sessionId with ⟨heq, -⟩ | hmove
    · rw [heq]
      exact h.answers
    · refine hmove.answers h.orderly (fun _ => rfl) (fun y hy frame answer _ _ hpurpose => ?_)
        h.answers
      have hserves := @proceed_purpose sessionId (s.slot sessionId) options frame answer
      rw [hpurpose] at hserves
      constructor
      · intro next hnext
        change (proceed options sessionId frame answer (s.slot sessionId)).2 = _ at hnext
        rw [hnext] at hserves
        exact hserves
      · intro outcome houtcome
        change (proceed options sessionId frame answer (s.slot sessionId)).2 = _ at houtcome
        rw [houtcome] at hserves
        exact hserves

lemma step (h : Purposeful s sessionId) (options : ServiceOptions) (action : ServiceAction) :
    Purposeful (s.step options action) sessionId := by
  rw [Service.step]
  generalize s.queueActions options action = queueActions
  induction queueActions using List.reverseRecOn with
  | nil => exact h
  | append_singleton queueActions queueAction ih =>
      rw [State.run_concat]
      exact ih.queueStep options queueAction

end Purposeful

lemma purposeful_run (options : ServiceOptions) (actions : List ServiceAction)
    (sessionId : String) : Purposeful (Service.run options State.empty actions) sessionId := by
  induction actions using List.reverseRecOn with
  | nil => exact ⟨.empty _, fun _ hy => (by cases hy), fun _ hy => (by cases hy)⟩
  | append_singleton actions action ih =>
      rw [run_concat]
      exact ih.step options action

/-- **An operation is answered with a reply that serves it.** -/
theorem serves_of_run (options : ServiceOptions) (actions : List ServiceAction) {ticket : ℕ}
    {entry : Entry String Frame Outcome} {reply : Reply}
    (hentry : (Service.run options State.empty actions).entries[ticket]? = some entry)
    (hresult : entry.phase.result = some (.ok reply)) :
    reply.Serves entry.key entry.call.purpose :=
  (purposeful_run options actions entry.key).answers.results (ticket, entry)
    (State.mem_queue.mpr ⟨hentry, rfl⟩) _ hresult reply rfl

/-- The calls of a service are calls of its operations. -/
lemma calls_of_run (options : ServiceOptions) (actions : List ServiceAction) :
    ∀ call ∈ (Service.run options State.empty actions).calls, call.2.IsCall := by
  induction actions using List.reverseRecOn with
  | nil => exact fun _ hmem => by cases hmem
  | append_singleton actions action ih =>
      rw [run_concat, Service.calls_step]
      intro call hmem
      rcases List.mem_append.mp hmem with hold | hnew
      · exact ih call hold
      · obtain ⟨queueAction, hqueued, hcalled⟩ := List.mem_filterMap.mp hnew
        cases queueAction with
        | call key frame =>
            cases hcalled
            exact queueActions_called hqueued rfl
        | _ => cases hcalled

/-! ### Subscribers -/

/-- The last segment of a `subscribe` makes at most the subscriber it is answered with. -/
lemma proceed_subscribed (options : ServiceOptions) {frame : Frame} {answer : Answer}
    {subscriber : SessionSubscriber}
    (hmem : subscriber ∈ (proceed options sessionId frame answer slot).1.subscribers) :
    subscriber ∈ slot.subscribers ∨ subscriber.index = slot.subscriptions ∧
      frame.purpose = .subscribe subscriber.listener subscriber.command ∧
      (proceed options sessionId frame answer slot).2 = .inr (.ok (.subscribed subscriber.index))
        := by
  rcases proceed_joined options hmem with hold | ⟨hindex, listener, record, rfl⟩
  · exact Or.inl hold
  · cases record with
    | none => exact Or.inl hmem
    | some record =>
        rw [proceed] at hmem ⊢
        split at hmem
        · exact Or.inl hmem
        · rename_i hfree
          rw [if_neg hfree]
          obtain ⟨after, outcome, heq, -, -, -, -, -, sent, stay, -, -, hcases⟩ :=
            addSubscriber_cases answer sessionId listener subscriber.command record slot
          rw [heq] at hmem ⊢
          rcases hcases with ⟨hsubscribers, houtcome, -⟩ | ⟨hsubscribers, -⟩
          · rw [hsubscribers] at hmem
            rcases List.mem_append.mp hmem with hold | hnew
            · exact Or.inl (List.mem_of_mem_filter hold)
            · rw [houtcome, List.mem_singleton.mp hnew]
              exact Or.inr ⟨rfl, rfl, rfl⟩
          · rw [hsubscribers] at hmem
            exact Or.inl (List.mem_of_mem_filter hmem)

/-- Numbers are never taken back. -/
lemma proceed_subscriptions_le (options : ServiceOptions) (frame : Frame) (answer : Answer)
    (slot : SessionSlot) :
    slot.subscriptions ≤ (proceed options sessionId frame answer slot).1.subscriptions := by
  rcases proceed_subscriptions options frame answer slot with heq | ⟨listener, command, record, rfl⟩
  · exact heq.ge
  · cases record with
    | none => exact le_rfl
    | some record =>
        rw [proceed]
        split
        · exact le_rfl
        · rw [subscriptions_addSubscriber]
          exact Nat.le_succ _

/-- A `subscribe` is answered with the number it has given. -/
lemma proceed_given (options : ServiceOptions) {frame : Frame} {answer : Answer} {index : ℕ}
    (h : (proceed options sessionId frame answer slot).2 = .inr (.ok (.subscribed index))) :
    index = slot.subscriptions ∧
      (proceed options sessionId frame answer slot).1.subscriptions = slot.subscriptions + 1 := by
  have hserves := @proceed_purpose sessionId slot options frame answer
  rw [h] at hserves
  have hpurpose := hserves _ rfl
  cases frame with
  | subscribe listener command =>
      rw [proceed, read] at h
      split at h
      · cases h
      · cases h
  | subscribeRead listener command record =>
      cases record with
      | none => cases h
      | some record =>
          rw [proceed] at h ⊢
          split at h
          · cases h
          · rename_i hfree
            rw [if_neg hfree]
            refine ⟨?_, subscriptions_addSubscriber listener command record⟩
            obtain ⟨after, outcome, heq, -, -, -, -, -, sent, stay, -, -, hcases⟩ :=
              addSubscriber_cases answer sessionId listener command record slot
            rw [heq] at h
            cases h
            rcases hcases with ⟨-, houtcome, -⟩ | ⟨-, houtcome⟩
            · cases houtcome
              rfl
            · cases houtcome
  | _ => exact hpurpose.elim

/-- The rule of the numbers: one that was answered has been given. -/
lemma givenRule (options : ServiceOptions) (sessionId : String) :
    Rule (program options) sessionId Called Frame.IsCall (fun _ => True) (fun _ _ => True)
      (fun outcome slot => ∀ index, outcome = .ok (.subscribed index) → index < slot.subscriptions)
      where
  call := fun _ _ _ h => h
  start := fun _ _ _ _ => trivial
  next := fun _ _ _ _ _ _ _ _ => trivial
  done := fun _ frame answer slot outcome _ _ hdone => ⟨trivial, fun index heq => by
    subst heq
    obtain ⟨rfl, hnext⟩ := proceed_given options hdone
    change slot.subscriptions < (proceed options sessionId frame answer slot).1.subscriptions
    rw [hnext]
    exact Nat.lt_succ_self _⟩
  kept := fun _ frame answer slot _ _ _ hkept index heq =>
    (hkept index heq).trans_le (proceed_subscriptions_le options frame answer slot)
  touch := fun _ _ _ _ => trivial
  touchRunning := fun _ _ _ _ _ => trivial
  touchKept := fun change slot _ _ hkept index heq => by
    have hsame : ((program options).touch sessionId change slot).subscriptions
        = slot.subscriptions := by
      cases change with
      | reserve => rfl
      | unsubscribe index' =>
          show (slot.releaseSubscriber index').subscriptions = _
          rw [releaseSubscriber_eq]
    rw [hsame]
    exact hkept index heq

/-- The promise of a call has the outcome. -/
def Service.Resolves (s : Service) (ticket : ℕ) (sessionId : String) (call : Frame)
    (outcome : Outcome) : Prop :=
  ∃ previous phase, s.entries[ticket]? = some ⟨sessionId, call, previous, phase⟩ ∧
    phase.result = some outcome

lemma Service.Resolves.step {s : Service} {ticket : ℕ} {call : Frame} {outcome : Outcome}
    (h : s.Resolves ticket sessionId call outcome) (options : ServiceOptions)
    (action : ServiceAction) : (s.step options action).Resolves ticket sessionId call outcome := by
  obtain ⟨previous, phase, hentry, hresult⟩ := h
  obtain ⟨⟨key, call', previous', phase'⟩, hentry', hbecomes⟩ :=
    State.run_becomes (program options) (s.queueActions options action) hentry
  obtain ⟨rfl, rfl, hresult'⟩ := hbecomes
  exact ⟨previous', phase', hentry', hresult' _ hresult⟩

/-- A number that was answered has been given. -/
lemma given_of_run (options : ServiceOptions) (actions : List ServiceAction) {ticket index : ℕ}
    {call : Frame} (h : (Service.run options State.empty actions).Resolves ticket sessionId call
      (.ok (.subscribed index))) :
    index < ((Service.run options State.empty actions).slot sessionId).subscriptions := by
  obtain ⟨previous, phase, hentry, hresult⟩ := h
  exact (run_rule (givenRule options sessionId) trivial actions).2.results (ticket, _)
    (State.mem_queue.mpr ⟨hentry, rfl⟩) _ hresult index rfl

/-- **A subscriber belongs to a `subscribe` that has been answered with its number.** -/
theorem resolved_of_run (options : ServiceOptions) (actions : List ServiceAction)
    {subscriber : SessionSubscriber} (hmem : subscriber ∈
      ((Service.run options State.empty actions).slot sessionId).subscribers) :
    ∃ ticket, (Service.run options State.empty actions).Resolves ticket sessionId
      (.subscribe subscriber.listener subscriber.command) (.ok (.subscribed subscriber.index)) := by
  induction actions using List.reverseRecOn with
  | nil => cases hmem
  | append_singleton actions action ih =>
      have hpurposeful := purposeful_run options actions sessionId
      have hcalls := calls_of_run options actions
      rw [run_concat] at hmem ⊢
      generalize Service.run options State.empty actions = s at hmem ih hpurposeful hcalls ⊢
      have hold : subscriber ∈ (s.slot sessionId).subscribers → ∃ ticket,
          (s.step options action).Resolves ticket sessionId
            (.subscribe subscriber.listener subscriber.command)
            (.ok (.subscribed subscriber.index)) := by
        intro hbefore
        obtain ⟨ticket, hresolves⟩ := ih hbefore
        exact ⟨ticket, hresolves.step options action⟩
      have hslot := slot_step options s sessionId action
      split at hslot
      · rename_i frame answer hevent
        rw [hslot] at hmem
        rcases proceed_subscribed options hmem with hbefore | ⟨-, hpurpose, houtcome⟩
        · exact hold hbefore
        · obtain ⟨ticket, answer', call, previous, rfl, hentry⟩ := sessionEvent_segment hevent
          have hanswer : answer = s.answering options answer' := by
            rw [sessionEvent, hentry] at hevent
            simpa using hevent.symm
          subst hanswer
          have hafter := (Service.step_proceed options hentry answer').2
          rw [houtcome] at hafter
          have hcall : call = .subscribe subscriber.listener subscriber.command := by
            refine Frame.eq_subscribe (hcalls (sessionId, call) ?_) ?_
            · exact List.mem_map.mpr ⟨_, List.mem_of_getElem? hentry, rfl⟩
            · rw [← hpurpose]
              exact (hpurposeful.answers.frames (ticket, _)
                (State.mem_queue.mpr ⟨hentry, rfl⟩) frame rfl).symm
          subst hcall
          exact ⟨ticket, previous, _, hafter, rfl⟩
      · rw [hslot, releaseSubscriber_eq] at hmem
        exact hold (List.mem_of_mem_filter hmem)
      · rw [hslot.subscribers] at hmem
        exact hold hmem

end Qaraa.SessionService
