import Qaraa.Server.KeptSession
import Mathlib.Logic.Relation

/-!
Which operations of a session its changes come from.

* `Updated`, `Granted`: an operation has made its update, and it has not failed.
* `Chronicled`: the log of changes has them in the order of the calls; a reset that is granted
  is in it; a submission is granted at a moment when its observation is accepted, after all
  resets called and granted before.
* `moved_chronicled`: **every move of a session that is kept keeps this so**.
* `Kept`, `Kept.step`: all that holds of a session that is kept, in every run.
* `Later`, `proceed_later`: its past stays, and it only adds to what it has written and sent.
-/

namespace Qaraa.SessionService

open Fallible Ordered KeyedQueue Relation

/-- An operation of the service with its ticket. -/
abbrev Operation := Ticketed String Frame Outcome

/-- The operation is past its update. -/
def Updated (y : Operation) : Prop :=
  (∃ requestId snapshot changed, y.2.phase = .running (.publish requestId snapshot changed)) ∨
    ∃ outcome, y.2.phase.result = some outcome

/-- The operation is past its update, which has not failed. -/
def Granted (y : Operation) : Prop :=
  (∃ requestId snapshot changed, y.2.phase = .running (.publish requestId snapshot changed)) ∨
    ∃ reply, y.2.phase.result = some (.ok reply)

/-- An operation called with one frame can come to another. -/
def Frame.Leads : Frame → Frame → Prop :=
  ReflTransGen fun frame next => ∃ slot, Frame.Next slot frame next

/-- The changes of a session and the operations they come from. -/
structure Chronicled (x : Local String SessionSlot Frame Outcome) : Prop where
  frames : ∀ y ∈ x.queue, ∀ frame, y.2.phase = .running frame → y.2.call.Leads frame
  log : ∃ tickets : List ℕ, tickets.Pairwise (· < ·) ∧
    List.Forall₂ (fun ticket change => ∃ y ∈ x.queue, y.1 = ticket ∧ Updated y ∧
      y.2.call.Makes change) tickets x.slot.applied
  resets : ∀ y ∈ x.queue, Granted y → ∀ caller, y.2.call.Makes (.reset caller) →
    .reset caller ∈ x.slot.applied
  accepted : ∀ y ∈ x.queue, Granted y → ∀ caller id, y.2.call.Makes (.accepted caller id) →
    ∃ count, count ≤ x.slot.applied.length ∧ id ∈ acceptedSince (x.slot.applied.take count) ∧
      ∀ z ∈ x.queue, z.1 < y.1 → Granted z → ∀ caller, z.2.call.Makes (.reset caller) →
        .reset caller ∈ x.slot.applied.take count

variable {x x' : Local String SessionSlot Frame Outcome} {y z : Operation}

lemma Granted.updated (h : Granted y) : Updated y := by
  rcases h with h | ⟨reply, hreply⟩
  · exact Or.inl h
  · exact Or.inr ⟨_, hreply⟩

lemma Updated.started (h : Updated y) : y.Started := by
  rw [Ticketed.Started]
  rcases h with ⟨_, _, _, h⟩ | ⟨outcome, h⟩
  · rw [h]
    rintro ⟨⟩
  · intro hwaiting
    rw [hwaiting] at h
    cases h

/-- An operation that waits or is about to make its update is not past it. -/
lemma not_updated (h : y.2.phase = .waiting ∨ ∃ frame, y.2.phase = .running frame ∧
    ∀ requestId snapshot changed, frame ≠ .publish requestId snapshot changed) : ¬Updated y := by
  rintro (⟨requestId, snapshot, changed, hphase⟩ | ⟨outcome, hresult⟩)
  · rcases h with hwaiting | ⟨frame, hrunning, hframe⟩
    · rw [hwaiting] at hphase
      cases hphase
    · rw [hrunning] at hphase
      cases hphase
      exact hframe requestId snapshot changed rfl
  · rcases h with hwaiting | ⟨frame, hrunning, -⟩
    · rw [hwaiting] at hresult
      cases hresult
    · rw [hrunning] at hresult
      cases hresult

lemma Frame.Makes.not_publish {frame : Frame} {change : Applied} (h : frame.Makes change)
    (requestId : String) (snapshot : ReadingSnapshot) (changed : Bool) :
    frame ≠ .publish requestId snapshot changed := by
  rintro rfl
  exact h

/-- Whatever is past its update was called before an operation that is about to make its own. -/
lemma updated_lt (horderly : Orderly x) (hy : y ∈ x.queue) (hphase : y.2.phase = .running y.2.call)
    {change : Applied} (hmakes : y.2.call.Makes change) :
    ∀ z ∈ x.queue, Updated z → z.1 < y.1 := by
  intro z hz hupdated
  rcases Nat.lt_trichotomy z.1 y.1 with hlt | heq | hlt
  · exact hlt
  · rw [horderly.eq_of_fst hz hy heq] at hupdated
    exact absurd hupdated (not_updated (Or.inr ⟨_, hphase, hmakes.not_publish⟩))
  · obtain ⟨outcome, hdrained⟩ := horderly.drained_of_lt hy hz hlt hupdated.started
    rw [hphase] at hdrained
    cases hdrained

/-- A frame makes one change. -/
lemma Frame.Makes.unique {frame : Frame} {change change' : Applied} (h : frame.Makes change)
    (h' : frame.Makes change') : change = change' := by
  cases frame with
  | reset caller command => exact Eq.trans h (Eq.symm h')
  | submit caller requestId o => exact Eq.trans h (Eq.symm h')
  | _ => exact absurd h id

namespace Frame.Leads

variable {call frame : Frame}

/-- An operation makes its update in its first segment. -/
lemma eq_of_makes (h : call.Leads frame) {change : Applied} (hmakes : frame.Makes change) :
    frame = call := by
  rcases ReflTransGen.cases_tail h with heq | ⟨before, -, slot, hnext⟩
  · exact heq
  · cases hnext <;> exact absurd hmakes id

/-- After its update an operation publishes. -/
lemma of_makes (h : call.Leads frame) {change : Applied} (hmakes : call.Makes change) :
    frame = call ∨ ∃ requestId snapshot changed, frame = .publish requestId snapshot changed := by
  rcases ReflTransGen.cases_head h with rfl | ⟨after, ⟨slot, hnext⟩, hrest⟩
  · exact Or.inl rfl
  · cases hnext with
    | publishes frame' change' _ requestId snapshot changed =>
        rcases ReflTransGen.cases_head hrest with rfl | ⟨last, ⟨slot', hnext⟩, -⟩
        · exact Or.inr ⟨requestId, snapshot, changed, rfl⟩
        · cases hnext with
          | publishes _ _ hmakes' => exact absurd hmakes' id
    | _ => exact absurd hmakes id

end Frame.Leads

namespace Chronicled

lemma empty (slot : SessionSlot) (h : slot.applied = []) : Chronicled ⟨[], none, slot⟩ where
  frames := fun _ hy => (by cases hy)
  log := ⟨[], .nil, by rw [h]; exact .nil⟩
  resets := fun _ hy => (by cases hy)
  accepted := fun _ hy => (by cases hy)

/-- A promise moves on and nothing is granted that was not. -/
lemma put (h : Chronicled x) (horderly : Orderly x) (hy : y ∈ x.queue)
    {phase : Phase Frame Outcome} {slot : SessionSlot} (happlied : slot.applied = x.slot.applied)
    (hframe : ∀ frame, phase = .running frame → y.2.call.Leads frame)
    (hgranted : ∀ change, y.2.call.Makes change → Granted (y.1, { y.2 with phase := phase }) →
      Granted y)
    (hupdated : Updated y → Updated (y.1, { y.2 with phase := phase })) :
    Chronicled ⟨x.queue.map (Ticketed.put y.1 phase), x.tail, slot⟩ := by
  have hback : ∀ z ∈ x.queue.map (Ticketed.put y.1 phase), ∀ change, z.2.call.Makes change →
      Granted z → ∃ w ∈ x.queue, w.1 = z.1 ∧ w.2.call = z.2.call ∧ Granted w := by
    intro z hz change hmakes hg
    rcases horderly.mem_map_put hy hz with rfl | ⟨hz, -⟩
    · exact ⟨y, hy, rfl, rfl, hgranted change hmakes hg⟩
    · exact ⟨z, hz, rfl, rfl, hg⟩
  refine ⟨fun z hz frame hf => ?_, ?_, fun z hz hg caller hmakes => ?_,
    fun z hz hg caller id hmakes => ?_⟩
  · rcases horderly.mem_map_put hy hz with rfl | ⟨hz, -⟩
    · exact hframe frame hf
    · exact h.frames z hz frame hf
  · obtain ⟨tickets, hsorted, hlog⟩ := h.log
    refine ⟨tickets, hsorted, ?_⟩
    dsimp only
    rw [happlied]
    refine hlog.imp fun ticket change => ?_
    rintro ⟨z, hz, rfl, hu, hmakes⟩
    refine ⟨z.put y.1 phase, List.mem_map_of_mem hz, Ticketed.put_fst _ _ _, ?_, ?_⟩
    · by_cases heq : z.1 = y.1
      · obtain rfl := horderly.eq_of_fst hz hy heq
        rw [Ticketed.put, if_pos rfl]
        exact hupdated hu
      · rw [Ticketed.put_of_ne phase heq]
        exact hu
    · rw [Ticketed.put_call]
      exact hmakes
  · obtain ⟨w, hw, -, hcall, hg⟩ := hback z hz _ hmakes hg
    dsimp only
    rw [happlied]
    exact h.resets w hw hg caller (hcall ▸ hmakes)
  · obtain ⟨w, hw, hfst, hcall, hg⟩ := hback z hz _ hmakes hg
    obtain ⟨count, hle, hid, hresets⟩ := h.accepted w hw hg caller id (hcall ▸ hmakes)
    dsimp only
    rw [happlied]
    refine ⟨count, hle, hid, fun v hv hlt hgv caller' hmakes' => ?_⟩
    obtain ⟨u, hu, hufst, hucall, hug⟩ := hback v hv _ hmakes' hgv
    exact hresets u hu (by omega) hug caller' (hucall ▸ hmakes')

/-- An operation makes its update. -/
lemma grant (h : Chronicled x) (horderly : Orderly x) (hy : y ∈ x.queue)
    (hphase : y.2.phase = .running y.2.call) {change : Applied} (hmakes : y.2.call.Makes change)
    (requestId : String) (snapshot : ReadingSnapshot) (changed : Bool) {slot : SessionSlot}
    (hnew : slot.applied = x.slot.applied ∧ (∃ caller id, change = .accepted caller id ∧
        id ∈ acceptedSince x.slot.applied) ∨ slot.applied = x.slot.applied ++ [change]) :
    Chronicled ⟨x.queue.map (Ticketed.put y.1 (.running (.publish requestId snapshot changed))),
      x.tail, slot⟩ := by
  set phase : Phase Frame Outcome := .running (.publish requestId snapshot changed) with hnext
  -- operations that have made their updates were called before the one that runs
  have hbefore := updated_lt horderly hy hphase hmakes
  have hmono : ∀ change' ∈ x.slot.applied, change' ∈ slot.applied := by
    intro change' hmem
    rcases hnew with ⟨heq, -⟩ | heq
    · exact heq ▸ hmem
    · exact heq ▸ List.mem_append_left _ hmem
  refine ⟨fun z hz frame hf => ?_, ?_, fun z hz hg caller hm => ?_, fun z hz hg caller id hm => ?_⟩
  · rcases horderly.mem_map_put hy hz with rfl | ⟨hz, -⟩
    · cases hf
      exact .single ⟨x.slot, .publishes _ change hmakes _ _ _⟩
    · exact h.frames z hz frame hf
  -- the log: the tickets of its changes increase, and the new change is the last
  · obtain ⟨tickets, hsorted, hlog⟩ := h.log
    have hold : List.Forall₂ (fun ticket change => ∃ z ∈ x.queue.map (Ticketed.put y.1 phase),
        z.1 = ticket ∧ Updated z ∧ z.2.call.Makes change) tickets x.slot.applied := by
      refine hlog.imp fun ticket change' => ?_
      rintro ⟨z, hz, rfl, hupdated, hm⟩
      have hne : z.1 ≠ y.1 := Nat.ne_of_lt (hbefore z hz hupdated)
      exact ⟨z, List.mem_map.mpr ⟨z, hz, Ticketed.put_of_ne phase hne⟩, rfl, hupdated, hm⟩
    have hless : ∀ ticket ∈ tickets, ticket < y.1 := by
      have hboth : List.Forall₂ (fun ticket _ => ticket < y.1 ∧ True) tickets x.slot.applied := by
        refine hlog.imp ?_
        rintro _ _ ⟨z, hz, rfl, hupdated, -⟩
        exact ⟨hbefore z hz hupdated, trivial⟩
      exact ((List.forall₂_and_left _ _).mp hboth).1
    rcases hnew with ⟨heq, -⟩ | heq
    · exact ⟨tickets, hsorted, heq ▸ hold⟩
    · refine ⟨tickets ++ [y.1], List.pairwise_append.mpr ⟨hsorted, List.pairwise_singleton _ _,
        fun ticket hticket other hother => ?_⟩, ?_⟩
      · rw [List.mem_singleton.mp hother]
        exact hless ticket hticket
      · dsimp only
        rw [heq]
        refine List.rel_append hold (.cons ?_ .nil)
        refine ⟨y.put y.1 phase, List.mem_map_of_mem hy, Ticketed.put_fst _ _ _, ?_, ?_⟩
        · exact Or.inl ⟨requestId, snapshot, changed, Ticketed.put_self phase y⟩
        · rw [Ticketed.put_call]
          exact hmakes
  · rcases horderly.mem_map_put hy hz with rfl | ⟨hz, -⟩
    · obtain rfl := hmakes.unique hm
      rcases hnew with ⟨-, _, _, hother, -⟩ | heq
      · cases hother
      · exact heq ▸ List.mem_append_right _ (List.mem_singleton_self _)
    · exact hmono _ (h.resets z hz hg caller hm)
  · rcases horderly.mem_map_put hy hz with rfl | ⟨hz, -⟩
    · obtain rfl := hmakes.unique hm
      refine ⟨slot.applied.length, le_rfl, ?_, fun v hv hlt hgv caller' hm' => ?_⟩
      · rw [List.take_length]
        rcases hnew with ⟨heq, _, _, hother, hid⟩ | heq
        · cases hother
          exact heq ▸ hid
        · rw [heq, acceptedSince_accepted]
          exact List.mem_append_right _ (List.mem_singleton_self _)
      · rw [List.take_length]
        rcases horderly.mem_map_put hy hv with rfl | ⟨hv, -⟩
        · exact absurd hlt (lt_irrefl _)
        · exact hmono _ (h.resets v hv hgv caller' hm')
    -- an earlier submission was granted at a moment of the log before, which is kept
    · obtain ⟨count, hle, hid, hresets⟩ := h.accepted z hz hg caller id hm
      have htake : slot.applied.take count = x.slot.applied.take count := by
        rcases hnew with ⟨heq, -⟩ | heq
        · rw [heq]
        · rw [heq, List.take_append_of_le_length hle]
      have hlonger : x.slot.applied.length ≤ slot.applied.length := by
        rcases hnew with ⟨heq, -⟩ | heq
        · rw [heq]
        · rw [heq, List.length_append]
          exact Nat.le_add_right _ _
      refine ⟨count, hle.trans hlonger, htake.symm ▸ hid, fun v hv hlt hgv caller' hm' => ?_⟩
      rw [htake]
      rcases horderly.mem_map_put hy hv with rfl | ⟨hv, -⟩
      · exact absurd (hbefore z hz hg.updated) (not_lt.mpr hlt.le)
      · exact hresets v hv hlt hgv caller' hm'

/-- Only the log of the shared state matters. -/
lemma congr (h : Chronicled x) {slot : SessionSlot} (happlied : slot.applied = x.slot.applied) :
    Chronicled ⟨x.queue, x.tail, slot⟩ where
  frames := h.frames
  log := by
    rw [happlied]
    exact h.log
  resets := by
    rw [happlied]
    exact h.resets
  accepted := by
    rw [happlied]
    exact h.accepted

/-- A call has granted nothing. -/
lemma called (h : Chronicled x) {ticket : ℕ} {frame : Frame} {previous tail : Option ℕ}
    {sessionId : String} :
    Chronicled ⟨x.queue ++ [(ticket, ⟨sessionId, frame, previous, .waiting⟩)], tail, x.slot⟩ := by
  have hcases : ∀ y ∈ x.queue ++ [(ticket, ⟨sessionId, frame, previous, .waiting⟩)],
      y.2.phase ≠ .waiting → y ∈ x.queue := by
    intro y hy hphase
    refine (List.mem_append.mp hy).resolve_right fun hnew => hphase ?_
    rw [List.mem_singleton.mp hnew]
  refine ⟨fun y hy f hf => h.frames y (hcases y hy (by simp [hf])) f hf, ?_,
    fun y hy hg => h.resets y (hcases y hy hg.updated.started) hg, fun y hy hg caller id hm => ?_⟩
  · obtain ⟨tickets, hsorted, hlog⟩ := h.log
    refine ⟨tickets, hsorted, hlog.imp fun ticket change => ?_⟩
    rintro ⟨y, hy, hrest⟩
    exact ⟨y, List.mem_append_left _ hy, hrest⟩
  · obtain ⟨count, hle, hid, hresets⟩ :=
      h.accepted y (hcases y hy hg.updated.started) hg caller id hm
    exact ⟨count, hle, hid, fun z hz hlt hgz =>
      hresets z (hcases z hz hgz.updated.started) hlt hgz⟩

/-- A segment of an operation. -/
lemma resumed (h : Chronicled x) (options : ServiceOptions) {sessionId : String}
    (horderly : Orderly x) (hy : y ∈ x.queue) {frame : Frame} (hphase : y.2.phase = .running frame)
    {answer : Answer} (hclean : answer.store = .failed → ¬frame.Moves x.slot)
    (hkept : KeptMidway sessionId frame x.slot) :
    Chronicled ⟨x.queue.map (Ticketed.put y.1
        (.after (proceed options sessionId frame answer x.slot).2)), x.tail,
      (proceed options sessionId frame answer x.slot).1⟩ := by
  -- only the segment with the update writes to the log
  by_cases hmakes : ∃ change, frame.Makes change
  · obtain ⟨change, hmakes⟩ := hmakes
    obtain rfl := (h.frames y hy frame hphase).eq_of_makes hmakes
    have hwritten := proceed_written options hclean hkept.midway hmakes
    generalize proceed options sessionId y.2.call answer x.slot = after at hwritten
    obtain ⟨slot, outcome⟩ := after
    cases hwritten with
    | failed error happlied =>
        refine h.put horderly hy happlied (fun frame hf => by cases hf) (fun _ _ hg => ?_)
          fun hu => Or.inr ⟨_, rfl⟩
        rcases hg with ⟨_, _, _, hpublish⟩ | ⟨reply, hreply⟩
        · cases hpublish
        · cases hreply
    | known caller requestId o snapshot hsubmit happlied haccepted =>
        have hmakes' : y.2.call.Makes (.accepted caller o.observation.observationId) := by
          rw [hsubmit]
          rfl
        exact h.grant horderly hy hphase hmakes' requestId snapshot false
          (Or.inl ⟨happlied, caller, _, rfl, haccepted⟩)
    | changed requestId snapshot change' hmakes' happlied =>
        exact h.grant horderly hy hphase hmakes' requestId snapshot true (Or.inr happlied)
  · have happlied := proceed_applied options sessionId answer
      (fun change hm => hmakes ⟨change, hm⟩)
      fun command runtime heq => hkept.tidy.unwritten (Or.inr ⟨command, runtime, by rw [heq]⟩)
    -- an operation that makes a change and is past its update is publishing
    have hpublish : ∀ change, y.2.call.Makes change → ∃ requestId snapshot changed,
        frame = .publish requestId snapshot changed := fun change hcall =>
      ((h.frames y hy frame hphase).of_makes hcall).resolve_left fun heq =>
        hmakes ⟨change, heq ▸ hcall⟩
    refine h.put horderly hy happlied (fun next hnext => ?_) (fun change hcall _ => ?_) fun hu => ?_
    · cases hafter : (proceed options sessionId frame answer x.slot).2 with
      | inr outcome =>
          rw [hafter] at hnext
          cases hnext
      | inl next' =>
          rw [hafter] at hnext
          cases hnext
          exact (h.frames y hy frame hphase).tail ⟨x.slot, proceed_next options hafter⟩
    · obtain ⟨requestId, snapshot, changed, rfl⟩ := hpublish change hcall
      exact Or.inl ⟨requestId, snapshot, changed, hphase⟩
    · rcases hu with ⟨requestId, snapshot, changed, heq⟩ | ⟨outcome, heq⟩
      · rw [hphase] at heq
        cases heq
        exact Or.inr ⟨_, rfl⟩
      · rw [hphase] at heq
        cases heq

end Chronicled

/-- **Every move of a session that is kept keeps its chronicle.** -/
theorem moved_chronicled (options : ServiceOptions) {sessionId : String}
    {event : Option (Event Frame Answer Change)}
    (hmove : Move (program options) sessionId x event x') (horderly : Orderly x)
    (hallowed : ∀ e, event = some e → Keeps e x.slot)
    (hholds : Holds (fun frame => frame.IsCall ∧ ¬frame.Deletes)
      (fun slot => Settled slot ∧ Tidy none slot) (KeptMidway sessionId) Answered x)
    (h : Chronicled x) : Chronicled x' := by
  cases hmove with
  | called ticket frame hfresh => exact h.called
  | started y hy hphase hready =>
      refine h.put horderly hy rfl (fun frame hf => ?_) (fun change hmakes hg => ?_) fun hu => ?_
      · cases hf
        exact .refl
      · refine absurd hg.updated (not_updated (Or.inr ⟨_, rfl, hmakes.not_publish⟩))
      · exact absurd hu (not_updated (Or.inl hphase))
  | resumed y hy frame hphase answer =>
      have hgo := hallowed _ rfl
      exact h.resumed options horderly hy hphase hgo.1 (hholds.busy y hy frame hphase)
  | drained y hy result hphase =>
      refine h.put horderly hy rfl (fun frame hf => by cases hf) (fun change hmakes hg => ?_)
        fun hu => Or.inr ⟨result, rfl⟩
      rcases hg with ⟨_, _, _, hpublish⟩ | ⟨reply, hreply⟩
      · cases hpublish
      · cases hreply
        exact Or.inr ⟨reply, by rw [hphase]; rfl⟩
  | cleaned y hy hdrained htail => exact ⟨h.frames, h.log, h.resets, h.accepted⟩
  | touched change =>
      obtain ⟨-, happlied, -⟩ := touch_kept options sessionId change x.slot
      exact h.congr happlied

/-! ### Runs -/

/-- All that holds of a session whose record is never removed. -/
structure Kept (s : Service) (sessionId : String) : Prop where
  orderly : Orderly (s.at sessionId)
  holds : Holds (fun frame => frame.IsCall ∧ ¬frame.Deletes)
    (fun slot => Settled slot ∧ Tidy none slot) (KeptMidway sessionId) Answered (s.at sessionId)
  chronicled : Chronicled (s.at sessionId)

/-- A later state of a session: its past stays, and it has only added to what it has written
and sent. -/
structure Later (slot after : SessionSlot) : Prop where
  past : ∀ snapshot, slot.Past snapshot → after.Past snapshot
  subscriptions : slot.subscriptions ≤ after.subscriptions
  applied : slot.applied <+: after.applied
  delivered : slot.delivered <+: after.delivered

lemma Later.refl (slot : SessionSlot) : Later slot slot :=
  ⟨fun _ h => h, le_rfl, List.prefix_refl _, List.prefix_refl _⟩

lemma Later.trans {slot after last : SessionSlot} (h : Later slot after) (h' : Later after last) :
    Later slot last :=
  ⟨fun snapshot hpast => h'.past snapshot (h.past snapshot hpast),
    h.subscriptions.trans h'.subscriptions, h.applied.trans h'.applied,
    h.delivered.trans h'.delivered⟩

/-- An action that removes no record of a session, over a store none of whose updates fails
late. -/
def ServiceAction.Spares (action : ServiceAction) (sessionId : String) : Prop :=
  action.onStore [.committed, .refused] = true ∧
    ∀ command, action = .delete command → command.sessionId ≠ sessionId

namespace Kept

variable {s : Service} {sessionId : String}

lemma empty (sessionId : String) : Kept State.empty sessionId where
  orderly := Orderly.empty _
  holds := by
    refine Holds.empty ⟨?_, fun _ => rfl, fun _ hd => (by cases hd)⟩
    exact (sound_empty sessionId).2.idle fun _ hy => (by cases hy)
  chronicled := .empty _ rfl

/-- One queue action at which only what is allowed happens. -/
lemma queueStep (h : Kept s sessionId) (options : ServiceOptions)
    (action : Action String Frame Answer Change)
    (hallowed : ∀ e, s.eventAt action sessionId = some e → Keeps e (s.slot sessionId)) :
    Kept (State.step (program options) s action) sessionId where
  orderly := run_orderly (program options) h.orderly [action]
  holds := step_holds (keptRule options sessionId) action h.orderly hallowed h.holds
  chronicled := by
    rcases step_move (program options) s action sessionId with ⟨heq, -⟩ | hmove
    · rw [heq]
      exact h.chronicled
    · exact moved_chronicled options hmove h.orderly hallowed h.holds h.chronicled

/-- A segment leaves a later state. -/
lemma proceed_later (options : ServiceOptions) {frame : Frame} {slot : SessionSlot}
    {answer : Answer} (hclean : answer.store = .failed → ¬frame.Moves slot)
    (h : KeptMidway sessionId frame slot) :
    Later slot (proceed options sessionId frame answer slot).1 := by
  have hsegment := proceed_segment options hclean h.midway h.keeps
  refine ⟨hsegment.past, hsegment.subscriptions, ?_, ?_⟩
  · by_cases hmakes : ∃ change, frame.Makes change
    · obtain ⟨change, hmakes⟩ := hmakes
      have hwritten := proceed_written options hclean h.midway hmakes
      generalize proceed options sessionId frame answer slot = after at hwritten
      obtain ⟨slot', outcome⟩ := after
      cases hwritten with
      | failed error happlied => exact happlied ▸ List.prefix_refl _
      | known caller requestId o snapshot _ happlied _ => exact happlied ▸ List.prefix_refl _
      | changed requestId snapshot change' _ happlied => exact happlied ▸ List.prefix_append _ _
    · rw [proceed_applied options sessionId answer (fun change hm => hmakes ⟨change, hm⟩)
        fun command runtime heq => h.tidy.unwritten (Or.inr ⟨command, runtime, by rw [heq]⟩)]
  · obtain ⟨new, hdelivered, -⟩ := hsegment.delivered
    exact hdelivered ▸ List.prefix_append _ _

/-- One queue action leaves a later state. -/
lemma queueLater (h : Kept s sessionId) (options : ServiceOptions)
    (action : Action String Frame Answer Change)
    (hallowed : ∀ e, s.eventAt action sessionId = some e → Keeps e (s.slot sessionId)) :
    Later (s.slot sessionId) ((State.step (program options) s action).slot sessionId) := by
  rcases step_move (program options) s action sessionId with ⟨heq, -⟩ | hmove
  · rw [show (State.step (program options) s action).slot sessionId = s.slot sessionId from
      congrArg Local.slot heq]
    exact .refl _
  · show Later (s.at sessionId).slot ((State.step (program options) s action).at sessionId).slot
    generalize (State.step (program options) s action).at sessionId = after at hmove
    generalize hevent : s.eventAt action sessionId = event at hmove
    cases hmove with
    | resumed y hy frame hphase answer =>
        exact proceed_later options (hallowed _ hevent).1 (h.holds.busy y hy frame hphase)
    | touched change =>
        obtain ⟨hrecord, happlied, hdelivered, hsubscriptions⟩ :=
          touch_kept options sessionId change (s.slot sessionId)
        exact ⟨fun _ hpast => hpast.congr hrecord, hsubscriptions.ge,
          happlied ▸ List.prefix_refl _, hdelivered ▸ List.prefix_refl _⟩
    | _ => exact .refl _

/-- What happens at a session when an action spares it. -/
lemma keeps_of_spares (options : ServiceOptions) {action : ServiceAction}
    (hspares : action.Spares sessionId) {queueAction : Action String Frame Answer Change}
    (hmem : queueAction ∈ s.queueActions options action) {s' : Service}
    {e : Event Frame Answer Change} (he : s'.eventAt queueAction sessionId = some e) :
    Keeps e (s'.slot sessionId) := by
  have hcall : ∀ key frame, queueAction = .call key frame → frame.IsCall →
      (key = sessionId → ¬frame.Deletes) → Keeps e (s'.slot sessionId) := by
    rintro key frame rfl hframe hkeeps
    rw [State.eventAt, State.event, Option.bind_some] at he
    split at he
    · rename_i hkey
      cases he
      refine ⟨hframe, fun ticket frame' heq => ?_⟩
      cases heq
      exact hkeeps hkey
    · cases he
  have htouch : ∀ key change, queueAction = .touch key change → Keeps e (s'.slot sessionId) := by
    rintro key change rfl
    rw [State.eventAt, State.event, Option.bind_some] at he
    split at he
    · cases he
      exact ⟨trivial, fun _ _ heq => (by cases heq)⟩
    · cases he
  have hquiet : s'.event queueAction = none → Keeps e (s'.slot sessionId) := by
    intro hnone
    rw [State.eventAt, hnone] at he
    cases he
  -- an action of the service is at most one call or touch of the queue, or a move of it
  rw [Service.queueActions.eq_def] at hmem
  split at hmem
  · cases hmem
  · cases action with
    | create sessionId' command =>
        rcases List.mem_cons.mp hmem with rfl | hmem
        · exact htouch _ _ rfl
        · exact hcall _ _ (List.mem_singleton.mp hmem) trivial fun _ => id
    | get command => exact hcall _ _ (List.mem_singleton.mp hmem) trivial fun _ => id
    | reset caller command => exact hcall _ _ (List.mem_singleton.mp hmem) trivial fun _ => id
    | submit caller command =>
        dsimp only at hmem
        split at hmem
        · exact hcall _ _ (List.mem_singleton.mp hmem) trivial fun _ => id
        · cases hmem
    | resume command => exact hcall _ _ (List.mem_singleton.mp hmem) trivial fun _ => id
    | subscribe listener command =>
        exact hcall _ _ (List.mem_singleton.mp hmem) trivial fun _ => id
    | delete command =>
        -- a deletion is of another session
        refine hcall _ _ (List.mem_singleton.mp hmem) trivial fun hkey => ?_
        exact absurd hkey (hspares.2 command rfl)
    | unsubscribe sessionId' index => exact htouch _ _ (List.mem_singleton.mp hmem)
    | start ticket =>
        obtain rfl := List.mem_singleton.mp hmem
        exact hquiet rfl
    | drain ticket =>
        obtain rfl := List.mem_singleton.mp hmem
        exact hquiet rfl
    | clean ticket =>
        obtain rfl := List.mem_singleton.mp hmem
        exact hquiet rfl
    | proceed ticket answer =>
        obtain rfl := List.mem_singleton.mp hmem
        rw [State.eventAt, State.event] at he
        split at he
        · rw [Option.bind_some] at he
          split at he
          · cases he
            refine ⟨fun hfailed => ?_, fun _ _ heq => (by cases heq)⟩
            have hstore := hspares.1
            rw [ServiceAction.onStore, show answer.store = .failed from hfailed] at hstore
            cases hstore
          · cases he
        · cases he

/-- **A step that spares a session keeps it, and leaves a later state of it.** -/
theorem step (h : Kept s sessionId) (options : ServiceOptions) {action : ServiceAction}
    (hspares : action.Spares sessionId) :
    Kept (s.step options action) sessionId ∧
      Later (s.slot sessionId) ((s.step options action).slot sessionId) := by
  have key : ∀ (actions : List (Action String Frame Answer Change)) (s' : Service),
      (∀ queueAction ∈ actions, queueAction ∈ s.queueActions options action) →
      Kept s' sessionId → Kept (State.run (program options) s' actions) sessionId ∧
        Later (s'.slot sessionId) ((State.run (program options) s' actions).slot sessionId) := by
    intro actions
    induction actions with
    | nil => exact fun s' _ h => ⟨h, .refl _⟩
    | cons queueAction actions ih =>
        intro s' hmem h
        have hallowed : ∀ e, s'.eventAt queueAction sessionId = some e →
            Keeps e (s'.slot sessionId) := fun e he =>
          keeps_of_spares options hspares (hmem _ (List.mem_cons_self ..)) he
        obtain ⟨hkept, hlater⟩ := ih _ (fun a ha => hmem a (List.mem_cons_of_mem _ ha))
          (h.queueStep options queueAction hallowed)
        exact ⟨hkept, (h.queueLater options queueAction hallowed).trans hlater⟩
  exact key _ s (fun _ h => h) h

end Kept

end Qaraa.SessionService
