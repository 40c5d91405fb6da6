import Qaraa.Server.ChangeLog

/-!
Who calls a service, and when what was called takes effect.

* `Frame.caller`, `Service.newCalls`: the number an operation was called with, and the
  operations an action calls.
* `Leading`: the operations of a session take turns and run the frames of their calls.
* `applied_step`: **a step changes a tracker only by an operation that makes the change**, and
  which is past its update from then on.
* `Applied.Confirmed`, `granted_step`: **an operation that comes past its update has made its
  change, or finds its observation accepted**.
-/

namespace Qaraa.SessionService

open Fallible Ordered KeyedQueue Relation

/-! ### Calls -/

/-- The number an operation was called with. -/
def Frame.caller : Frame → Option ℕ
  | .reset caller _ | .submit caller _ _ => some caller
  | _ => none

/-- Who has asked for a change. -/
def Applied.caller : Applied → ℕ
  | .reset caller | .accepted caller _ => caller

lemma Frame.Makes.caller {frame : Frame} {change : Applied} (h : frame.Makes change) :
    frame.caller = some change.caller := by
  cases frame with
  | reset caller command =>
      cases h
      rfl
  | submit caller requestId o =>
      cases h
      rfl
  | _ => exact h.elim

/-- An admitted submission is called with the id it was sent with. -/
lemma admitObservation_id {command : ObservationSubmitCommand} {o : CheckedObservation}
    (h : admitObservation command = .ok o) :
    command.observationId = .string o.observation.observationId := by
  obtain ⟨value, observation, hchecked⟩ := o
  obtain ⟨-, -, hdomain⟩ := (bind_eq_ok).mp h
  rw [assertDomainObservation] at hdomain
  split at hdomain
  · cases hdomain
  · rename_i checked hvalid
    cases hdomain
    simp only [validateObservation, bind_eq_ok, failIf_eq_ok, pure_eq_ok, exists_const] at hvalid
    obtain ⟨-, id, hid, -, -, -, -, -, -, -, -, -, -, -, -, -, -, rfl⟩ := hvalid
    exact (requireNonEmptyString_ok hid).1

/-- The call of a queue action. -/
def called : Action String Frame Answer Change → Option (String × Frame)
  | .call key frame => some (key, frame)
  | _ => none

namespace Service

/-- The operations an action calls. -/
def newCalls (options : ServiceOptions) (s : Service) (action : ServiceAction) :
    List (String × Frame) := (s.queueActions options action).filterMap called

lemma calls_step (options : ServiceOptions) (s : Service) (action : ServiceAction) :
    (s.step options action).calls = s.calls ++ s.newCalls options action := by
  rw [Service.step, newCalls]
  generalize s.queueActions options action = queueActions
  induction queueActions using List.reverseRecOn with
  | nil => exact (List.append_nil _).symm
  | append_singleton queueActions queueAction ih =>
      rw [State.run_concat, State.calls_step, ih, List.filterMap_append, List.append_assoc]
      congr 2
      cases queueAction <;> rfl

lemma calls_getElem (s : Service) (ticket : ℕ) :
    s.calls[ticket]? = s.entries[ticket]?.map fun entry => (entry.key, entry.call) :=
  List.getElem?_map

lemma calls_length (s : Service) : s.calls.length = s.entries.length := List.length_map _

end Service

/-! ### Changes of a tracker -/

variable {sessionId : String} {slot : SessionSlot}

lemma resetRecord_applied (caller : ℕ) (command : SessionResetCommand) (runtime : SessionRuntime)
    (slot : SessionSlot) (record : SessionRecord) :
    (resetRecord caller command runtime slot record).1.applied = slot.applied ∨
      (resetRecord caller command runtime slot record).1.applied
        = slot.applied ++ [.reset caller] := by
  rw [resetRecord]
  split
  · exact Or.inl rfl
  · exact Or.inr rfl

lemma submitRecord_applied (caller : ℕ) (sessionId : String) (o : CheckedObservation)
    (slot : SessionSlot) (record : SessionRecord) :
    (submitRecord caller sessionId o slot record).1.applied = slot.applied ∨
      (submitRecord caller sessionId o slot record).1.applied
        = slot.applied ++ [.accepted caller o.observation.observationId] := by
  rw [submitRecord]
  split
  · exact Or.inl rfl
  · split
    · exact Or.inl rfl
    · split
      · exact Or.inl rfl
      · split
        · exact Or.inl rfl
        · dsimp only
          split
          · exact Or.inl rfl
          · exact Or.inr rfl

lemma update_applied (verdict : StoreVerdict) (sessionId : String)
    {mutate : SessionRecord → Mutation} {change : Applied}
    (hmutate : ∀ record, (mutate record).1.applied = slot.applied ∨
      (mutate record).1.applied = slot.applied ++ [change]) :
    (update verdict sessionId mutate slot).1.applied = slot.applied ∨
      (update verdict sessionId mutate slot).1.applied = slot.applied ++ [change] := by
  rw [update]
  split
  · exact Or.inl rfl
  · rename_i record _
    have hsame := hmutate record
    cases verdict with
    | refused => exact Or.inl rfl
    | failed => exact hsame
    | committed =>
        dsimp only
        generalize mutate record = mutation at hsame
        obtain ⟨after, outcome⟩ := mutation
        cases outcome with
        | error error => exact hsame
        | ok result => exact hsame

/-- A log is not one entry longer than itself. -/
lemma applied_ne_concat {applied : List Applied} (h : applied = slot.applied) (change : Applied) :
    applied ≠ slot.applied ++ [change] := by
  intro hnew
  simpa using congrArg List.length (h.symm.trans hnew)

/-- A segment changes a tracker only if its frame makes the change. -/
lemma proceed_makes (options : ServiceOptions) {frame : Frame} {answer : Answer} {change : Applied}
    (h : (proceed options sessionId frame answer slot).1.applied = slot.applied ++ [change]) :
    frame.Makes change := by
  by_cases hmakes : ∃ change, frame.Makes change
  · obtain ⟨change', hmakes⟩ := hmakes
    have happlied : (proceed options sessionId frame answer slot).1.applied = slot.applied ∨
        (proceed options sessionId frame answer slot).1.applied = slot.applied ++ [change'] := by
      cases frame with
      | reset caller command =>
          cases hmakes
          rw [proceed]
          split
          · exact Or.inl rfl
          · split
            · exact Or.inl rfl
            · rw [settleUpdate_fst]
              exact update_applied _ _ fun record =>
                resetRecord_applied caller command _ slot record
      | submit caller requestId o =>
          cases hmakes
          rw [proceed, settleUpdate_fst]
          exact update_applied _ _ fun record => submitRecord_applied caller sessionId o slot record
      | _ => exact hmakes.elim
    rcases happlied with heq | heq
    · exact absurd h (applied_ne_concat heq change)
    · obtain rfl : change' = change := by simpa using heq.symm.trans h
      exact hmakes
  · cases hframe : frame with
    | createDone command runtime =>
        rw [hframe] at h
        have hnil : ([] : List Applied) = slot.applied ++ [change] := h
        simp at hnil
    | _ =>
        refine absurd h (applied_ne_concat (proceed_applied options sessionId answer
          (fun change hmakes' => hmakes ⟨change, hmakes'⟩) fun command runtime heq => ?_) change)
        rw [hframe] at heq
        cases heq

/-! ### Operations that take turns -/

/-- The operations of a session take turns and run the frames of their calls. -/
structure Leading (s : Service) (sessionId : String) : Prop where
  orderly : Orderly (s.at sessionId)
  frames : Answers Frame.Leads (fun _ _ => True) (s.at sessionId)

lemma leading_empty (sessionId : String) : Leading State.empty sessionId where
  orderly := .empty _
  frames := ⟨fun _ hy => (by cases hy), fun _ hy => (by cases hy)⟩

lemma Leading.queueStep {s : Service} (h : Leading s sessionId) (options : ServiceOptions)
    (action : Action String Frame Answer Change) :
    Leading (State.step (program options) s action) sessionId where
  orderly := run_orderly (program options) h.orderly [action]
  frames := by
    rcases step_move (program options) s action sessionId with ⟨heq, -⟩ | hmove
    · rw [heq]
      exact h.frames
    · refine hmove.answers h.orderly (fun _ => .refl) (fun y hy frame answer _ _ hleads => ?_)
        h.frames
      exact ⟨fun next hafter => hleads.tail ⟨_, proceed_next options hafter⟩, fun _ _ => trivial⟩

lemma Leading.step {s : Service} (h : Leading s sessionId) (options : ServiceOptions)
    (action : ServiceAction) : Leading (s.step options action) sessionId := by
  rw [Service.step]
  generalize s.queueActions options action = queueActions
  induction queueActions using List.reverseRecOn with
  | nil => exact h
  | append_singleton queueActions queueAction ih =>
      rw [State.run_concat]
      exact ih.queueStep options queueAction

lemma leading_run (options : ServiceOptions) (actions : List ServiceAction) (sessionId : String) :
    Leading (Service.run options State.empty actions) sessionId := by
  induction actions using List.reverseRecOn with
  | nil => exact leading_empty sessionId
  | append_singleton actions action ih =>
      rw [Service.run, List.foldl_append]
      exact ih.step options action

/-! ### Steps -/

/-- Only an operation that goes on changes a tracker. -/
lemma applied_quiet (options : ServiceOptions) (s : Service) (sessionId : String)
    {queueAction : Action String Frame Answer Change}
    (hquiet : ∀ ticket answer, queueAction ≠ .resume ticket answer) :
    ((State.step (program options) s queueAction).slot sessionId).applied
      = (s.slot sessionId).applied := by
  rw [State.slot_step]
  cases queueAction with
  | resume ticket answer => exact absurd rfl (hquiet ticket answer)
  | call key frame =>
      rw [State.eventAt, State.event, Option.bind_some]
      split <;> rfl
  | touch key change =>
      rw [State.eventAt, State.event, Option.bind_some]
      split
      · exact (touch_kept options sessionId change (s.slot sessionId)).2.1
      · rfl
  | start ticket => rfl
  | drain ticket => rfl
  | clean ticket => rfl

/-- After its update an operation publishes or settles. -/
lemma updated_proceed (options : ServiceOptions) {call : Frame} {answer : Answer} {change : Applied}
    (hmakes : call.Makes change) (ticket : ℕ) (previous : Option ℕ) :
    Updated (ticket, ⟨sessionId, call, previous,
      .after (proceed options sessionId call answer slot).2⟩) := by
  cases hafter : (proceed options sessionId call answer slot).2 with
  | inr outcome => exact Or.inr ⟨outcome, rfl⟩
  | inl next =>
      have hleads : call.Leads next := .single ⟨slot, proceed_next options hafter⟩
      rcases hleads.of_makes hmakes with rfl | ⟨requestId, snapshot, changed, rfl⟩
      · cases proceed_next options hafter with
        | publishes _ _ _ => exact hmakes.elim
      · exact Or.inl ⟨requestId, snapshot, changed, rfl⟩

/-- **A step changes a tracker only by an operation that makes the change.** -/
theorem applied_step {s : Service} (h : Leading s sessionId) (options : ServiceOptions)
    {action : ServiceAction} {change : Applied}
    (hchange : ((s.step options action).slot sessionId).applied
      = (s.slot sessionId).applied ++ [change]) :
    ∃ ticket call previous,
      s.entries[ticket]? = some ⟨sessionId, call, previous, .running call⟩ ∧ call.Makes change ∧
        ∃ phase,
          (s.step options action).entries[ticket]? = some ⟨sessionId, call, previous, phase⟩ ∧
          Updated (ticket, ⟨sessionId, call, previous, phase⟩) := by
  have hstep := step_cases options s action
  generalize Service.step options s action = after at hstep hchange
  cases hstep with
  | refused => exact absurd hchange (applied_ne_concat rfl change)
  | created sessionId' command _ _ =>
      refine absurd hchange (applied_ne_concat ?_ change)
      exact (applied_quiet options _ sessionId fun _ _ heq => by cases heq).trans
        (applied_quiet options s sessionId fun _ _ heq => by cases heq)
  | called sessionId' frame _ _ =>
      exact absurd hchange (applied_ne_concat
        (applied_quiet options s sessionId fun _ _ heq => by cases heq) change)
  | quiet queueAction _ hmoves =>
      exact absurd hchange (applied_ne_concat (applied_quiet options s sessionId hmoves) change)
  | left sessionId' index =>
      exact absurd hchange (applied_ne_concat
        (applied_quiet options s sessionId fun _ _ heq => by cases heq) change)
  | proceeded ticket answer _ =>
      generalize s.answering options answer = answer at hchange ⊢
      rcases hentry : s.entries[ticket]? with _ | ⟨key, call, previous, phase⟩
      · rw [State.slot_step, State.eventAt, State.event, hentry] at hchange
        exact absurd hchange (applied_ne_concat rfl change)
      · cases phase with
        | running frame =>
            by_cases hkey : key = sessionId
            · subst hkey
              obtain ⟨hslot, hafter⟩ := State.step_resume (program options) hentry answer
              rw [hslot] at hchange
              have hmakes := proceed_makes options hchange
              have hleads := h.frames.frames (ticket, ⟨key, call, previous, .running frame⟩)
                (State.mem_queue.mpr ⟨hentry, rfl⟩) frame rfl
              obtain rfl := hleads.eq_of_makes hmakes
              exact ⟨ticket, frame, previous, hentry, hmakes, _, hafter,
                updated_proceed options hmakes ticket previous⟩
            · rw [State.slot_step, State.eventAt, State.event, hentry, Option.bind_some,
                if_neg hkey] at hchange
              exact absurd hchange (applied_ne_concat rfl change)
        | _ =>
            rw [State.slot_step, State.eventAt, State.event, hentry] at hchange
            exact absurd hchange (applied_ne_concat rfl change)

/-! ### Operations past their update -/

variable {x x' : Local String SessionSlot Frame Outcome} {y y' : Operation}

/-- An operation stays past its update. -/
lemma updated_moved (options : ServiceOptions) {event : Option (Event Frame Answer Change)}
    (hmove : Move (program options) sessionId x event x') (horderly : Orderly x)
    (hy : y ∈ x.queue) (hupdated : Updated y) :
    ∃ phase, (y.1, { y.2 with phase := phase }) ∈ x'.queue ∧
      Updated (y.1, { y.2 with phase := phase }) := by
  have hself : (y.1, { y.2 with phase := y.2.phase }) = y := rfl
  have hput : ∀ {z : Operation} {phase : Phase Frame Outcome}, z ∈ x.queue →
      (z = y → Updated (y.1, { y.2 with phase := phase })) →
      ∃ phase', (y.1, { y.2 with phase := phase' }) ∈ x.queue.map (Ticketed.put z.1 phase) ∧
        Updated (y.1, { y.2 with phase := phase' }) := by
    intro z phase hz hnext
    by_cases heq : y.1 = z.1
    · obtain rfl := horderly.eq_of_fst hy hz heq
      refine ⟨phase, List.mem_map.mpr ⟨y, hy, ?_⟩, hnext rfl⟩
      rw [Ticketed.put, if_pos rfl]
    · exact ⟨y.2.phase, List.mem_map.mpr ⟨y, hy, Ticketed.put_of_ne phase heq⟩, hupdated⟩
  cases hmove with
  | called ticket frame _ => exact ⟨y.2.phase, List.mem_append_left _ hy, hupdated⟩
  | started z hz hphase _ =>
      refine hput hz fun heq => ?_
      subst heq
      exact absurd hupdated (not_updated (Or.inl hphase))
  | resumed z hz frame hphase answer =>
      refine hput hz fun heq => ?_
      subst heq
      rcases hupdated with ⟨requestId, snapshot, changed, hpublish⟩ | ⟨outcome, hresult⟩
      · rw [hphase] at hpublish
        cases hpublish
        exact Or.inr ⟨_, rfl⟩
      · rw [hphase] at hresult
        cases hresult
  | drained z hz result hphase =>
      exact hput hz fun _ => Or.inr ⟨result, rfl⟩
  | cleaned z _ _ _ => exact ⟨y.2.phase, hy, hupdated⟩
  | touched change => exact ⟨y.2.phase, hy, hupdated⟩

/-- Whether a change is made between two states, or, for an observation, has been made. -/
def Applied.Confirmed (slot after : SessionSlot) : Applied → Prop
  | .reset caller => after.applied = slot.applied ++ [.reset caller]
  | .accepted _ id => id ∈ acceptedSince after.applied

/-- An operation comes past its update by its own segment, which makes its change or finds
the observation accepted. -/
lemma granted_moved (options : ServiceOptions) {event : Option (Event Frame Answer Change)}
    (hmove : Move (program options) sessionId x event x') (horderly : Orderly x)
    (hframes : Answers Frame.Leads (fun _ _ => True) x) (hinvariant : Invariant sessionId x)
    (hallowed : ∀ e, event = some e → Allowed e x.slot) (hy : y ∈ x.queue) {change : Applied}
    (hmakes : y.2.call.Makes change) (hy' : y' ∈ x'.queue) (hfst : y'.1 = y.1)
    (hgranted : Granted y') :
    Granted y ∨ (∃ frame answer, event = some (.resumed y.1 frame answer)) ∧
      change.Confirmed x.slot x'.slot := by
  have hsame : y' ∈ x.queue → Granted y := fun hmem =>
    horderly.eq_of_fst hmem hy hfst ▸ hgranted
  cases hmove with
  | called ticket frame hfresh =>
      rcases List.mem_append.mp hy' with hmem | hmem
      · exact Or.inl (hsame hmem)
      · rw [List.mem_singleton.mp hmem] at hfst
        exact absurd hfst (hfresh y hy).ne'
  | started z hz hphase _ =>
      rcases horderly.mem_map_put hz hy' with rfl | ⟨hmem, -⟩
      · obtain rfl := horderly.eq_of_fst hz hy hfst
        -- an operation that has just started has made no update
        exact absurd hgranted.updated (not_updated (Or.inr ⟨_, rfl, hmakes.not_publish⟩))
      · exact Or.inl (hsame hmem)
  | resumed z hz frame hphase answer =>
      rcases horderly.mem_map_put hz hy' with rfl | ⟨hmem, -⟩
      · obtain rfl := horderly.eq_of_fst hz hy hfst
        rcases (hframes.frames z hz frame hphase).of_makes hmakes with rfl | hpublish
        · refine Or.inr ⟨⟨_, _, rfl⟩, ?_⟩
          -- the segment with the update: the change is in the log, or was before
          have hwritten := proceed_written options (hallowed _ rfl)
            (hinvariant.busy z hz _ hphase) hmakes
          dsimp only [program] at hgranted ⊢
          generalize proceed options sessionId z.2.call answer x.slot = after at hwritten hgranted ⊢
          obtain ⟨slot, outcome⟩ := after
          cases hwritten with
          | failed error _ =>
              rcases hgranted with ⟨_, _, _, hpublish⟩ | ⟨reply, hreply⟩
              · cases hpublish
              · cases hreply
          | known caller requestId o snapshot hsubmit happlied haccepted =>
              rw [hsubmit] at hmakes
              cases hmakes
              show o.observation.observationId ∈ acceptedSince slot.applied
              rw [show slot.applied = x.slot.applied from happlied]
              exact haccepted
          | changed requestId snapshot change' hmakes' happlied =>
              obtain rfl := hmakes.unique hmakes'
              cases change with
              | reset caller => exact happlied
              | accepted caller id =>
                  show id ∈ acceptedSince slot.applied
                  rw [happlied, acceptedSince_accepted]
                  exact List.mem_append_right _ (List.mem_singleton_self _)
        -- it was publishing, so it was granted already
        · obtain ⟨requestId, snapshot, changed, rfl⟩ := hpublish
          exact Or.inl (Or.inl ⟨requestId, snapshot, changed, hphase⟩)
      · exact Or.inl (hsame hmem)
  | drained z hz result hphase =>
      rcases horderly.mem_map_put hz hy' with rfl | ⟨hmem, -⟩
      · obtain rfl := horderly.eq_of_fst hz hy hfst
        rcases hgranted with ⟨_, _, _, hpublish⟩ | ⟨reply, hreply⟩
        · cases hpublish
        · refine Or.inl (Or.inr ⟨reply, ?_⟩)
          rw [hphase]
          exact hreply
      · exact Or.inl (hsame hmem)
  | cleaned z _ _ _ => exact Or.inl (hsame hy')
  | touched change => exact Or.inl (hsame hy')

/-- An operation stays past its update in every step. -/
lemma updated_step {s : Service} (h : Leading s sessionId) (options : ServiceOptions)
    (action : ServiceAction) {ticket : ℕ} {entry : Entry String Frame Outcome}
    (hentry : s.entries[ticket]? = some entry) (hkey : entry.key = sessionId)
    (hupdated : Updated (ticket, entry)) :
    ∃ phase, (s.step options action).entries[ticket]? = some { entry with phase := phase } ∧
      Updated (ticket, { entry with phase := phase }) := by
  rw [Service.step]
  generalize s.queueActions options action = queueActions
  induction queueActions using List.reverseRecOn with
  | nil => exact ⟨entry.phase, hentry, hupdated⟩
  | append_singleton queueActions queueAction ih =>
      obtain ⟨phase, hnow, hupdated⟩ := ih
      rw [State.run_concat]
      have horderly := run_orderly (program options) h.orderly queueActions
      generalize State.run (program options) s queueActions = s' at hnow horderly ⊢
      have hmem : (ticket, { entry with phase := phase }) ∈ s'.queue sessionId :=
        State.mem_queue.mpr ⟨hnow, hkey⟩
      rcases step_move (program options) s' queueAction sessionId with ⟨heq, -⟩ | hmove
      · have hqueue : (State.step (program options) s' queueAction).queue sessionId
            = s'.queue sessionId := congrArg Local.queue heq
        rw [← hqueue] at hmem
        exact ⟨phase, (State.mem_queue.mp hmem).1, hupdated⟩
      · obtain ⟨phase', hmem', hupdated'⟩ := updated_moved options hmove horderly hmem hupdated
        exact ⟨phase', (State.mem_queue.mp hmem').1, hupdated'⟩

/-- One queue action, as `granted_moved` tells it. -/
lemma granted_queueStep {s : Service} (h : Leading s sessionId) (hsound : Sound s)
    (options : ServiceOptions) {queueAction : Action String Frame Answer Change}
    (hallowed : ∀ e, s.eventAt queueAction sessionId = some e → Allowed e (s.slot sessionId))
    {ticket : ℕ} {entry entry' : Entry String Frame Outcome}
    (hentry : s.entries[ticket]? = some entry) (hkey : entry.key = sessionId)
    (hentry' : (State.step (program options) s queueAction).entries[ticket]? = some entry')
    {change : Applied} (hmakes : entry.call.Makes change) (hgranted : Granted (ticket, entry')) :
    Granted (ticket, entry) ∨ (∃ answer, queueAction = .resume ticket answer) ∧
      change.Confirmed (s.slot sessionId)
        ((State.step (program options) s queueAction).slot sessionId) := by
  obtain ⟨entry'', hsome, hbecomes⟩ := State.step_becomes (program options) queueAction hentry
  obtain rfl : entry'' = entry' := Option.some.inj (hsome.symm.trans hentry')
  have hy : (ticket, entry) ∈ s.queue sessionId := State.mem_queue.mpr ⟨hentry, hkey⟩
  have hy' : (ticket, entry'') ∈ (State.step (program options) s queueAction).queue sessionId :=
    State.mem_queue.mpr ⟨hentry', hbecomes.key.trans hkey⟩
  rcases step_move (program options) s queueAction sessionId with ⟨heq, -⟩ | hmove
  · rw [show (State.step (program options) s queueAction).queue sessionId = s.queue sessionId from
      congrArg Local.queue heq] at hy'
    have hsame := h.orderly.eq_of_fst hy' hy rfl
    exact Or.inl (hsame ▸ hgranted)
  · refine (granted_moved options hmove h.orderly h.frames (hsound sessionId).2 hallowed hy hmakes
      hy' rfl hgranted).imp_right (And.imp_left ?_)
    rintro ⟨frame, answer, hevent⟩
    cases queueAction with
    | resume ticket' answer' =>
        rw [State.eventAt, State.event] at hevent
        split at hevent
        · rw [Option.bind_some] at hevent
          split at hevent
          · cases hevent
            exact ⟨_, rfl⟩
          · cases hevent
        · cases hevent
    | call key frame' =>
        rw [State.eventAt, State.event, Option.bind_some] at hevent
        split at hevent <;> cases hevent
    | touch key change' =>
        rw [State.eventAt, State.event, Option.bind_some] at hevent
        split at hevent <;> cases hevent
    | start ticket' => cases hevent
    | drain ticket' => cases hevent
    | clean ticket' => cases hevent

/-- **An operation that comes past its update has made its change, or finds its observation
accepted.** -/
theorem granted_step {s : Service} (h : Leading s sessionId) (hsound : Sound s)
    (options : ServiceOptions) {action : ServiceAction} (hclean : CleanFailure s action)
    {ticket : ℕ} {entry entry' : Entry String Frame Outcome}
    (hentry : s.entries[ticket]? = some entry) (hkey : entry.key = sessionId)
    (hentry' : (s.step options action).entries[ticket]? = some entry')
    {change : Applied} (hmakes : entry.call.Makes change) (hgranted : Granted (ticket, entry')) :
    Granted (ticket, entry) ∨
      change.Confirmed (s.slot sessionId) ((s.step options action).slot sessionId) := by
  have hcalled : ∀ {s' : Service} {key : String} {frame : Frame}, frame.IsCall →
      ∀ e, s'.eventAt (.call key frame) sessionId = some e → Allowed e (s'.slot sessionId) := by
    intro s' key frame hcall e he
    rw [State.eventAt, State.event, Option.bind_some] at he
    split at he
    · cases he
      exact hcall
    · cases he
  have htouched : ∀ {s' : Service} {key : String} {change : Change},
      ∀ e, s'.eventAt (.touch key change) sessionId = some e → Allowed e (s'.slot sessionId) := by
    intro s' key change e he
    rw [State.eventAt, State.event, Option.bind_some] at he
    split at he
    · cases he
      trivial
    · cases he
  have hstep := step_cases options s action
  generalize Service.step options s action = after at hstep hentry' ⊢
  cases hstep with
  | refused =>
      rw [hentry] at hentry'
      cases hentry'
      exact Or.inl hgranted
  | created sessionId' command _ _ =>
      -- a creation is two actions of the queue, a reservation and a call
      have hmid := h.queueStep options (.touch sessionId' .reserve)
      obtain ⟨mid, hentry₁, hbecomes⟩ :=
        State.step_becomes (program options) (.touch sessionId' .reserve) hentry
      rcases granted_queueStep hmid (hsound.touch options sessionId' .reserve) options
        (hcalled (show (Frame.create command).IsCall from trivial)) hentry₁
        (hbecomes.key.trans hkey) hentry' (hbecomes.call ▸ hmakes) hgranted
        with hbefore | ⟨⟨answer, heq⟩, -⟩
      · rcases granted_queueStep h hsound options htouched hentry hkey hentry₁ hmakes hbefore
          with hbefore | ⟨⟨answer, heq⟩, -⟩
        · exact Or.inl hbefore
        · cases heq
      · cases heq
  | called sessionId' frame hcall _ =>
      exact (granted_queueStep h hsound options (hcalled hcall) hentry hkey hentry' hmakes
        hgranted).imp_right And.right
  | quiet queueAction hsilent _ =>
      refine (granted_queueStep h hsound options (fun e he => ?_) hentry hkey hentry' hmakes
        hgranted).imp_right And.right
      rw [State.eventAt, hsilent] at he
      cases he
  | left sessionId' index =>
      exact (granted_queueStep h hsound options htouched hentry hkey hentry' hmakes
        hgranted).imp_right And.right
  -- the only step that lets an operation go on
  | proceeded ticket' answer hproceed =>
      subst hproceed
      refine (granted_queueStep h hsound options (fun e he => ?_) hentry hkey hentry' hmakes
        hgranted).imp_right And.right
      rw [State.eventAt, State.event] at he
      split at he
      · rename_i key call previous frame hrunning
        rw [Option.bind_some] at he
        split at he
        · rename_i hsame
          cases he
          cases hsame
          exact fun hfailed => hclean hfailed _ _ _ _ hrunning
        · cases he
      · cases he

end Qaraa.SessionService
