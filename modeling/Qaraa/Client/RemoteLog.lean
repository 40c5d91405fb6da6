import Qaraa.Client.MutationTurns

/-!
What the log of a remote session says about each of its acts.

* `Acked`: the ids a session remembers, read off its log.
* `Remembers`: the closed flag, the acknowledged ids, the count of pending resets and the
  submissions in flight are what the log says.
* `Follows`: what every act says about those before it.
* `Sound`, `run_sound`: **in every run each act follows from those before it**.
-/

namespace Qaraa.Client

open Ordered KeyedQueue Chronicle

/-- A submission of the id has succeeded, and no reset since. -/
def Acked (log : List Act) (observationId : String) : Prop :=
  ∃ before ticket after, log = before ++ .succeeded ticket (.submission observationId) :: after ∧
    ∀ reset, .succeeded reset .reset ∉ after

/-- What an act says about the log before it. -/
def Follows (log : List Act) : Act → Prop
  | .heard _ _ | .dialed _ | .closed => .closed ∉ log
  | .held observationId => .closed ∉ log ∧ Acked log observationId ∧
      ∀ reset, .queued reset .reset ∈ log → Settled log reset
  | .shared observationId ticket => .queued ticket (.submission observationId) ∈ log ∧
      ∀ reset, .queued reset .reset ∈ log → reset < ticket
  | .queued ticket _ => ∀ earlier kind, .queued earlier kind ∈ log → earlier < ticket
  | .fetched ticket kind => .closed ∉ log ∧ .queued ticket kind ∈ log ∧
      (.fetched ticket kind ∈ log ∨
        ∀ observationId, kind = .submission observationId → ¬Acked log observationId)
  | .succeeded ticket kind => .fetched ticket kind ∈ log
  | .resolved ticket kind => .queued ticket kind ∈ log ∧ (.fetched ticket kind ∈ log ∨
      .closed ∉ log ∧ ∃ observationId, kind = .submission observationId ∧ Acked log observationId)
  | .failed ticket kind error => .queued ticket kind ∈ log ∧
      (.fetched ticket kind ∈ log ∨ error = .closed ∧ .closed ∈ log)
  | _ => True

/-- One more act. -/
lemma acked_concat {log : List Act} {act : Act} {observationId : String} :
    Acked (log ++ [act]) observationId ↔
      (∃ ticket, act = .succeeded ticket (.submission observationId)) ∨
        Acked log observationId ∧ ∀ reset, act ≠ .succeeded reset .reset := by
  constructor
  · rintro ⟨before, ticket, after, hsplit, hnone⟩
    rcases concat_eq_split hsplit with ⟨-, rfl, -⟩ | ⟨rest, rfl, hlog⟩
    · exact Or.inl ⟨ticket, rfl⟩
    · refine Or.inr ⟨⟨before, ticket, rest, hlog, fun reset hmem =>
        hnone reset (List.mem_append_left _ hmem)⟩, ?_⟩
      rintro reset rfl
      exact hnone reset (by simp)
  · rintro (⟨ticket, rfl⟩ | ⟨⟨before, ticket, after, rfl, hnone⟩, hact⟩)
    · exact ⟨log, ticket, [], rfl, fun _ h => (by cases h)⟩
    · refine ⟨before, ticket, after ++ [act], by simp, fun reset hmem => ?_⟩
      rcases List.mem_append.mp hmem with hmem | hmem
      · exact hnone reset hmem
      · exact hact reset (List.mem_singleton.mp hmem).symm

namespace RemoteSession

variable {s s' : RemoteSession}

/-! ### What a session remembers -/

/-- The promise of a reset whose `finally` handler has not run. -/
def pendingReset (entry : Entry Unit Mutation Outcome) : Bool :=
  entry.call.kind == .reset && !entry.phase.isDrained

/-- What a session remembers is what its log says. -/
structure Remembers (s : RemoteSession) : Prop where
  closed : s.closed = true ↔ .closed ∈ s.acts
  acked : s.closed = false → ∀ observationId,
    s.acknowledged.has observationId = true ↔ Acked s.acts observationId
  pending : s.pendingResetCount = s.mutations.entries.countP pendingReset
  inFlight : ∀ observationId existing, s.submissions.get observationId = some existing →
    .queued existing.ticket (.submission observationId) ∈ s.acts ∧
      existing.resetSequence ≤ s.scheduledResetSequence ∧
      (existing.resetSequence = s.scheduledResetSequence →
        ∀ reset, .queued reset .reset ∈ s.acts → reset < existing.ticket)

namespace Remembers

lemma fresh (snapshot : ReadingSnapshot) : (loaded snapshot).Remembers where
  closed := by simp [loaded]
  acked := fun _ observationId => by
    simp [loaded, Acked, OrderedSet.has]
  pending := rfl
  inFlight := fun observationId existing h => by simp [loaded] at h

/-- Other parts of the session change, and an act is written that neither closes the session
nor calls or answers a mutation. -/
lemma quiet (h : s.Remembers) {act : Act} (hacts : s'.acts = s.acts ++ [act])
    (hclosed : s'.closed = s.closed) (hacknowledged : s'.acknowledged = s.acknowledged)
    (hpending : s'.pendingResetCount = s'.mutations.entries.countP pendingReset)
    (hscheduled : s'.scheduledResetSequence = s.scheduledResetSequence)
    (hsubmissions : s'.submissions = s.submissions) (hnotClosed : act ≠ .closed)
    (hnotQueued : ∀ ticket kind, act ≠ .queued ticket kind)
    (hnotSucceeded : ∀ ticket kind, act ≠ .succeeded ticket kind) : s'.Remembers := by
  refine ⟨?_, fun hopen observationId => ?_, hpending, fun observationId existing hget => ?_⟩
  · rw [hclosed, hacts, h.closed, List.mem_append, List.mem_singleton]
    exact (or_iff_left hnotClosed.symm).symm
  · rw [hclosed] at hopen
    rw [hacknowledged, hacts, h.acked hopen, acked_concat]
    refine ⟨fun hacked => Or.inr ⟨hacked, fun reset => hnotSucceeded reset _⟩, ?_⟩
    rintro (⟨ticket, heq⟩ | ⟨hacked, -⟩)
    · exact absurd heq (hnotSucceeded ticket _)
    · exact hacked
  · rw [hsubmissions] at hget
    obtain ⟨hqueued, hle, hcurrent⟩ := h.inFlight observationId existing hget
    rw [hacts, hscheduled]
    refine ⟨List.mem_append_left _ hqueued, hle, fun heq reset hmem => ?_⟩
    rcases List.mem_append.mp hmem with hmem | hmem
    · exact hcurrent heq reset hmem
    · exact absurd (List.mem_singleton.mp hmem).symm (hnotQueued reset _)

/-- Only parts of the session change that it does not remember by. -/
lemma congr (h : s.Remembers) (hacts : s'.acts = s.acts) (hclosed : s'.closed = s.closed)
    (hacknowledged : s'.acknowledged = s.acknowledged)
    (hpending : s'.pendingResetCount = s'.mutations.entries.countP pendingReset)
    (hscheduled : s'.scheduledResetSequence = s.scheduledResetSequence)
    (hsubmissions : s'.submissions = s.submissions) : s'.Remembers := by
  refine ⟨?_, ?_, hpending, ?_⟩
  · rw [hacts, hclosed]
    exact h.closed
  · rw [hacts, hclosed, hacknowledged]
    exact h.acked
  · rw [hacts, hscheduled, hsubmissions]
    exact h.inFlight

/-- An act is written. -/
lemma act (h : s.Remembers) {act : Act} (hnotClosed : act ≠ .closed)
    (hnotQueued : ∀ ticket kind, act ≠ .queued ticket kind)
    (hnotSucceeded : ∀ ticket kind, act ≠ .succeeded ticket kind) : (s.act act).Remembers :=
  h.quiet rfl rfl rfl h.pending rfl rfl hnotClosed hnotQueued hnotSucceeded

/-- A submission is called. -/
lemma enqueueSubmission (h : s.Remembers) (horder : s.InOrder) (o : Submission) :
    (s.enqueueSubmission o).Remembers := by
  have hqueued : ∀ {act : Act}, act ∈ (s.enqueueSubmission o).acts ↔
      act ∈ s.acts ∨ act = .queued s.mutations.entries.length (.submission o.observationId) := by
    intro act
    exact List.mem_append.trans (or_congr_right List.mem_singleton)
  refine ⟨?_, fun hopen observationId => ?_, ?_, fun observationId existing hget => ?_⟩
  · rw [hqueued]
    exact h.closed.trans (or_iff_left nofun).symm
  · refine (h.acked hopen observationId).trans (acked_concat.trans ⟨?_, ?_⟩).symm
    · rintro (⟨_, heq⟩ | ⟨hacked, -⟩)
      · cases heq
      · exact hacked
    · exact fun hacked => Or.inr ⟨hacked, nofun⟩
  · show s.pendingResetCount = ((s.mutations.entries ++ [_]).countP pendingReset : ℕ)
    rw [List.countP_append, h.pending]
    rfl
  · have hlt : ∀ reset, .queued reset .reset ∈ s.acts → reset < s.mutations.entries.length := by
      intro reset hmem
      obtain ⟨entry, hentry, -⟩ := horder.queued reset _ hmem
      exact (List.getElem?_eq_some_iff.mp hentry).1
    simp only [hqueued, reduceCtorEq, or_false, Act.queued.injEq, and_false]
    change (s.submissions.set o.observationId _).get observationId = _ at hget
    by_cases heq : observationId = o.observationId
    · subst heq
      rw [OrderedMap.get_set_self] at hget
      cases hget
      exact ⟨Or.inr ⟨rfl, rfl⟩, le_rfl, fun _ => hlt⟩
    · rw [OrderedMap.get_set_of_ne _ heq] at hget
      obtain ⟨hmem, hle, hcurrent⟩ := h.inFlight observationId existing hget
      exact ⟨Or.inl hmem, hle, hcurrent⟩

/-- A reset is called. -/
lemma enqueueReset (h : s.Remembers) (location : Option QuranLocation) :
    (s.enqueueReset location).Remembers := by
  refine ⟨?_, fun hopen observationId => ?_, ?_, fun observationId existing hget => ?_⟩
  · refine h.closed.trans ((List.mem_append.trans (or_iff_left ?_)).symm)
    simp
  · refine (h.acked hopen observationId).trans (acked_concat.trans ⟨?_, ?_⟩).symm
    · rintro (⟨_, heq⟩ | ⟨hacked, -⟩)
      · cases heq
      · exact hacked
    · exact fun hacked => Or.inr ⟨hacked, nofun⟩
  · show s.pendingResetCount + 1 = ((s.mutations.entries ++ [_]).countP pendingReset : ℕ)
    rw [List.countP_append, h.pending]
    rfl
  · obtain ⟨hmem, hle, -⟩ := h.inFlight observationId existing hget
    refine ⟨List.mem_append_left _ hmem, Nat.le_succ_of_le hle, fun heq => ?_⟩
    change existing.resetSequence = s.scheduledResetSequence + 1 at heq
    omega

/-- A submission has succeeded. -/
lemma acknowledge (h : s.Remembers) (ticket : ℕ) (observationId : String) :
    (s.acknowledge ticket observationId).Remembers := by
  refine ⟨?_, fun hopen other => ?_, h.pending, fun other existing hget => ?_⟩
  · refine h.closed.trans ((List.mem_append.trans (or_iff_left ?_)).symm)
    simp
  · change s.closed = false at hopen
    show (if s.closed = true then s.acknowledged else s.acknowledged.add observationId).has other
      = true ↔ Acked (s.acts ++ [_]) other
    rw [if_neg (by simp [hopen]), OrderedSet.has_iff, OrderedSet.mem_add, ← OrderedSet.has_iff,
      h.acked hopen, acked_concat]
    constructor
    · rintro (hacked | rfl)
      · exact Or.inr ⟨hacked, nofun⟩
      · exact Or.inl ⟨ticket, rfl⟩
    · rintro (⟨ticket', heq⟩ | ⟨hacked, -⟩)
      · cases heq
        exact Or.inr rfl
      · exact Or.inl hacked
  · obtain ⟨hmem, hle, hcurrent⟩ := h.inFlight other existing hget
    refine ⟨List.mem_append_left _ hmem, hle, fun heq reset hreset => hcurrent heq reset ?_⟩
    exact (List.mem_append.mp hreset).resolve_right (by simp)

/-- A reset has succeeded. -/
lemma forget (h : s.Remembers) (ticket : ℕ) : (s.forget ticket).Remembers := by
  refine ⟨?_, fun _ observationId => ?_, h.pending, fun other existing hget => ?_⟩
  · refine h.closed.trans ((List.mem_append.trans (or_iff_left ?_)).symm)
    simp
  · show OrderedSet.empty.has observationId = true ↔ Acked (s.acts ++ [_]) observationId
    rw [acked_concat]
    constructor
    · intro hnone
      cases hnone
    · rintro (⟨_, heq⟩ | ⟨-, hnot⟩)
      · cases heq
      · exact absurd rfl (hnot ticket)
  · obtain ⟨hmem, hle, hcurrent⟩ := h.inFlight other existing hget
    refine ⟨List.mem_append_left _ hmem, hle, fun heq reset hreset => hcurrent heq reset ?_⟩
    exact (List.mem_append.mp hreset).resolve_right (by simp)

/-- The session is closed. -/
lemma close (h : s.Remembers) (hopen : s.closed = false) : s.close.Remembers := by
  rw [RemoteSession.close, if_neg (by simp [hopen])]
  refine ⟨⟨fun _ => ?_, fun _ => rfl⟩, fun hcontra => ?_, ?_, fun observationId existing hget => ?_⟩
  · exact List.mem_append_right _ (List.mem_singleton_self _)
  · cases hcontra
  · show s.disposeSocket.pendingResetCount = (s.disposeSocket.mutations.entries.countP _ : ℕ)
    rw [s.disposeSocket_same.2, ← h.pending, disposeSocket]
    split <;> rfl
  · cases hget

/-- A promise that moves on counts as pending until its reactions have run. -/
lemma countP_put {m : Mutations} {ticket : ℕ} {entry : Entry Unit Mutation Outcome}
    (hentry : m.entries[ticket]? = some entry) (phase : Phase Mutation Outcome) :
    ((m.put ticket phase).entries.countP pendingReset : ℤ)
      = m.entries.countP pendingReset - (if pendingReset entry then 1 else 0)
        + (if pendingReset { entry with phase := phase } then 1 else 0) := by
  have hset : (m.put ticket phase).entries
      = m.entries.set ticket { entry with phase := phase } := by
    refine List.ext_getElem? fun i => ?_
    rw [entries_put, List.getElem?_set]
    split
    · rename_i heq
      rw [← heq, hentry, if_pos (List.getElem?_eq_some_iff.mp hentry).1]
      rfl
    · rfl
  obtain ⟨hlt, heq⟩ := List.getElem?_eq_some_iff.mp hentry
  have hpos : pendingReset entry = true → 0 < m.entries.countP pendingReset := fun hpending =>
    List.countP_pos_iff.mpr ⟨entry, List.mem_of_getElem? hentry, hpending⟩
  have hless : ((m.entries.countP pendingReset - if pendingReset entry then 1 else 0 : ℕ) : ℤ)
      = m.entries.countP pendingReset - if pendingReset entry then 1 else 0 := by
    split
    · rename_i hpending
      have := hpos hpending
      omega
    · simp
  rw [hset, List.countP_set hlt, heq, Nat.cast_add, hless]
  congr 1
  split <;> rfl

/-- The mutation under way waits again or settles. -/
lemma goOn (h : s.Remembers) {ticket : ℕ} {frame : Mutation} (hruns : s.Runs ticket frame)
    (next : Mutation ⊕ Outcome) : (s.goOn ticket frame.kind next).Remembers := by
  have hpending : s.pendingResetCount
      = ((s.goOn ticket frame.kind next).mutations.entries.countP pendingReset : ℕ) := by
    obtain ⟨key, call, previous, hentry⟩ := id hruns
    rw [InOrder.goOn_entries hruns, countP_put hentry, h.pending]
    cases next with
    | inl next => exact (sub_add_cancel _ _).symm
    | inr outcome => exact (sub_add_cancel _ _).symm
  have hacts : (s.goOn ticket frame.kind next).acts = s.acts ++ settling ticket frame.kind next :=
    rfl
  cases next with
  | inl next => exact h.congr (List.append_nil _) rfl rfl hpending rfl rfl
  | inr outcome =>
      cases outcome with
      | ok snapshot => exact h.quiet hacts rfl rfl hpending rfl rfl nofun nofun nofun
      | error error => exact h.quiet hacts rfl rfl hpending rfl rfl nofun nofun nofun

/-- A mutation starts. -/
lemma start (h : s.Remembers) (ticket : ℕ) : (s.start ticket).Remembers := by
  refine h.congr rfl rfl rfl ?_ rfl rfl
  show s.pendingResetCount
    = ((State.step mutationQueue s.mutations (.start ticket)).entries.countP pendingReset : ℕ)
  rw [State.step]
  split
  · rename_i key call previous hentry
    split
    · rw [countP_put hentry, h.pending]
      exact (sub_add_cancel _ _).symm
    · exact h.pending
  · exact h.pending

/-- The reactions to the promise of a mutation. -/
lemma settle (h : s.Remembers) (ticket : ℕ) : (s.settle ticket).Remembers := by
  rw [RemoteSession.settle]
  split
  · rename_i key call previous result hentry
    have hentries : (s.drain ticket).mutations.entries
        = (s.mutations.put ticket (.drained result)).entries := by
      rw [drain, State.step, hentry]
    have hcount : ((s.drain ticket).mutations.entries.countP pendingReset : ℤ)
        = s.pendingResetCount - if call.kind = .reset then 1 else 0 := by
      rw [hentries, countP_put hentry, h.pending]
      simp [pendingReset, Phase.isDrained]
    cases hkind : call.kind with
    | reset =>
        rw [hkind, if_pos rfl] at hcount
        exact h.congr rfl rfl rfl hcount.symm rfl rfl
    | submission observationId =>
        rw [hkind, if_neg (by rintro ⟨⟩), sub_zero] at hcount
        have hdrained : (s.drain ticket).Remembers := h.congr rfl rfl rfl hcount.symm rfl rfl
        rw [finish]
        split
        · refine ⟨hdrained.closed, hdrained.acked, hdrained.pending, fun other existing hget => ?_⟩
          by_cases heq : other = observationId
          · subst heq
            dsimp only at hget
            rw [OrderedMap.get_delete_self] at hget
            cases hget
          · dsimp only at hget
            rw [OrderedMap.get_delete_of_ne _ heq] at hget
            exact hdrained.inFlight other existing hget
        · exact hdrained
  · exact h

end Remembers

lemma Exchange.remembers (hexchange : Exchange s s') (horder : s.InOrder) (h : s.Remembers) :
    s'.Remembers := by
  cases hexchange with
  | listeners listeners => exact h.congr rfl rfl rfl h.pending rfl rfl
  | heard listener _ => exact h.act nofun nofun nofun
  | refused _ => exact h.act nofun nofun nofun
  | held observationId _ _ _ => exact h.act nofun nofun nofun
  | shared observationId existing _ _ _ => exact h.act nofun nofun nofun
  | submitted o _ => exact h.enqueueSubmission horder o
  | reset location _ => exact h.enqueueReset location
  | adopted next _ _ => exact h.congr rfl rfl rfl h.pending rfl rfl
  | closed hopen => exact h.close hopen

lemma Move.remembers (hmove : Move s s') (horder : s.InOrder) (h : s.Remembers) :
    s'.Remembers := by
  cases hmove with
  | exchanged hexchange => exact hexchange.remembers horder h
  | enqueued next _ => exact h.congr rfl rfl rfl h.pending rfl rfl
  | dequeued next rest _ => exact h.congr rfl rfl rfl h.pending rfl rfl
  | identified => exact h.congr rfl rfl rfl h.pending rfl rfl
  | started ticket => exact h.start ticket
  | sent ticket frame next command _ hruns _ _ _ =>
      have hsent : (s.send ticket frame.kind command).Remembers :=
        h.quiet rfl rfl rfl h.pending rfl rfl nofun nofun nofun
      exact hsent.goOn hruns _
  | waited ticket frame next hruns _ _ _ => exact h.goOn hruns _
  | acknowledged ticket frame observationId _ _ _ => exact h.acknowledge ticket observationId
  | forgot ticket frame _ _ _ => exact h.forget ticket
  | resolved ticket frame hruns _ => exact h.goOn hruns _
  | failed ticket frame error hruns _ => exact h.goOn hruns _
  | settled ticket => exact h.settle ticket

/-! ### What each act follows from -/

/-- A session in which each act follows from those before it. -/
structure Sound (s : RemoteSession) : Prop where
  inOrder : s.InOrder
  remembers : s.Remembers
  log : Obeys Follows s.acts

lemma Sound.fresh (snapshot : ReadingSnapshot) : (loaded snapshot).Sound :=
  ⟨.fresh snapshot, .fresh snapshot, .nil⟩

variable (h : s.Sound)

include h

lemma Sound.notClosed (hopen : s.closed = false) : .closed ∉ s.acts := by
  rw [← h.remembers.closed, hopen]
  nofun

/-- While no reset is pending, all that were called have settled. -/
lemma Sound.resetsSettled (hnone : s.pendingResetCount = 0) {reset : ℕ}
    (hqueued : .queued reset .reset ∈ s.acts) : Settled s.acts reset := by
  obtain ⟨entry, hentry, hkind⟩ := h.inOrder.queued reset _ hqueued
  rw [h.remembers.pending, Nat.cast_eq_zero, List.countP_eq_zero] at hnone
  have hdrained := hnone entry (List.mem_of_getElem? hentry)
  rw [h.inOrder.results]
  cases hphase : entry.phase with
  | drained result => exact ⟨entry, result, hentry, by rw [hphase]; rfl⟩
  | waiting => simp [pendingReset, hkind, hphase, Phase.isDrained] at hdrained
  | running frame => simp [pendingReset, hkind, hphase, Phase.isDrained] at hdrained
  | settled result => simp [pendingReset, hkind, hphase, Phase.isDrained] at hdrained

lemma Exchange.follows (hexchange : Exchange s s') : Obeys Follows s'.acts := by
  cases hexchange with
  | listeners listeners => exact h.log
  | adopted next _ _ => exact h.log
  | heard listener hopen => exact h.log.concat (h.notClosed hopen)
  | refused _ => exact h.log.concat trivial
  | held observationId hopen hnone hknown =>
      exact h.log.concat ⟨h.notClosed hopen, (h.remembers.acked hopen _).mp hknown,
        fun reset hqueued => h.resetsSettled hnone hqueued⟩
  | shared observationId existing _ hfound hcurrent =>
      obtain ⟨hqueued, -, hlater⟩ := h.remembers.inFlight _ _ hfound
      exact h.log.concat ⟨hqueued, hlater hcurrent⟩
  | submitted o _ =>
      refine h.log.concat fun earlier kind hqueued => ?_
      obtain ⟨entry, hentry, -⟩ := h.inOrder.queued earlier kind hqueued
      exact (List.getElem?_eq_some_iff.mp hentry).1
  | reset location _ =>
      refine h.log.concat fun earlier kind hqueued => ?_
      obtain ⟨entry, hentry, -⟩ := h.inOrder.queued earlier kind hqueued
      exact (List.getElem?_eq_some_iff.mp hentry).1
  | closed hopen =>
      rw [close, if_neg (by simp [hopen])]
      exact h.log.concat (h.notClosed hopen)

/-- The mutation under way has been called, and has sent its request if it awaits one. -/
lemma Sound.underWay {ticket : ℕ} {frame : Mutation} (hruns : s.Runs ticket frame) :
    .queued ticket frame.kind ∈ s.acts ∧ (frame.Sent → .fetched ticket frame.kind ∈ s.acts) := by
  obtain ⟨key, call, previous, hentry⟩ := hruns
  obtain ⟨hkind, hsent⟩ := h.inOrder.running ticket key call previous frame hentry
  exact ⟨hkind ▸ (h.inOrder.calls ticket _ hentry).1, hsent⟩

lemma Move.follows (hmove : Move s s') : Obeys Follows s'.acts := by
  cases hmove with
  | exchanged hexchange => exact Exchange.follows h hexchange
  | enqueued next _ => exact h.log
  | dequeued next rest _ => exact h.log
  | identified => exact h.log
  | started ticket => exact h.log
  | sent ticket frame next command hopen hruns _ _ hfresh =>
      obtain ⟨hqueued, hsent⟩ := h.underWay hruns
      have hlog : Obeys Follows (s.send ticket frame.kind command).acts := by
        refine h.log.concat ⟨h.notClosed hopen, hqueued, hfresh.imp hsent ?_⟩
        intro hnew observationId hkind hacked
        rw [← h.remembers.acked hopen, hnew observationId hkind] at hacked
        cases hacked
      rw [goOn]
      exact (List.append_nil (s.send ticket frame.kind command).acts).symm ▸ hlog
  | waited ticket frame next _ _ _ _ =>
      rw [goOn]
      exact (List.append_nil s.acts).symm ▸ h.log
  | acknowledged ticket frame observationId hruns hkind hsent =>
      exact h.log.concat (hkind ▸ (h.underWay hruns).2 hsent)
  | forgot ticket frame hruns hkind hsent =>
      exact h.log.concat (hkind ▸ (h.underWay hruns).2 hsent)
  | resolved ticket frame hruns hbasis =>
      obtain ⟨hqueued, hsent⟩ := h.underWay hruns
      refine h.log.concat ⟨hqueued, hbasis.imp hsent ?_⟩
      rintro ⟨hopen, observationId, hkind, hknown⟩
      exact ⟨h.notClosed hopen, observationId, hkind,
        (h.remembers.acked hopen observationId).mp hknown⟩
  | failed ticket frame error hruns hbasis =>
      obtain ⟨hqueued, hsent⟩ := h.underWay hruns
      refine h.log.concat ⟨hqueued, hbasis.imp hsent ?_⟩
      rintro ⟨herror, hclosed⟩
      exact ⟨herror, h.remembers.closed.mp hclosed⟩
  | settled ticket =>
      have hacts : (s.settle ticket).acts = s.acts := by
        rw [settle]
        split
        · rw [finish.eq_def]
          split
          · split <;> rfl
          · rfl
        · rfl
      rw [hacts]
      exact h.log

lemma Move.sound (hmove : Move s s') : s'.Sound :=
  ⟨hmove.inOrder h.inOrder, hmove.remembers h.inOrder h.remembers, Move.follows h hmove⟩

/-- A change of the stream alone. -/
lemma OnlyStream.sound (hstream : OnlyStream s s') : s'.Sound := by
  obtain ⟨new, hacts, hnew⟩ := hstream.acts
  have hall : ∀ new : List Act, (∀ act ∈ new, OfStream s act) →
      ({ s with acts := s.acts ++ new } : RemoteSession).Remembers ∧
        Obeys Follows (s.acts ++ new) := by
    intro new
    induction new using List.reverseRecOn with
    | nil =>
        refine fun _ => ⟨h.remembers.congr (List.append_nil _) rfl rfl h.remembers.pending rfl rfl,
          (List.append_nil s.acts).symm ▸ h.log⟩
    | append_singleton new act ih =>
        intro hnew
        have hact := hnew act (by simp)
        obtain ⟨hremembers, hlog⟩ := ih fun a ha => hnew a (by simp [ha])
        have hacts : s.acts ++ (new ++ [act]) = (s.acts ++ new) ++ [act] :=
          (List.append_assoc _ _ _).symm
        refine ⟨hremembers.quiet hacts rfl rfl hremembers.pending rfl rfl ?_ ?_ ?_, ?_⟩
        · rintro rfl
          exact hact.elim
        · rintro ticket kind rfl
          exact hact.elim
        · rintro ticket kind rfl
          exact hact.elim
        · rw [← List.append_assoc]
          refine hlog.concat ?_
          cases act with
          | dialed lastSnapshotRevision =>
              intro hclosed
              have hmarked := hremembers.closed.mpr hclosed
              rw [show ({ s with acts := s.acts ++ new } : RemoteSession).closed = s.closed
                from rfl, hact.1] at hmarked
              cases hmarked
          | attempted => trivial
          | connected => trivial
          | hungUp code => trivial
          | _ => exact hact.elim
  obtain ⟨hremembers, hlog⟩ := hall new hnew
  refine ⟨hstream.inOrder h.inOrder, hremembers.congr hacts hstream.closed hstream.acknowledged ?_
    hstream.scheduled hstream.submissions, hacts ▸ hlog⟩
  rw [hstream.pending, hstream.mutations]
  exact h.remembers.pending

omit h

lemma createRemoteSession_sound {options : RemoteOptions}
    {first : Except SessionError ReadingSnapshot} {dial : Dial} {session : RemoteSession}
    (h : createRemoteSession options first dial = .ok session) : session.Sound := by
  obtain ⟨snapshot, -, hstream⟩ := createRemoteSession_onlyStream h
  exact OnlyStream.sound (.fresh snapshot) hstream

/-- **In every run each act follows from those before it.** -/
theorem run_sound (options : RemoteOptions) (h : s.Sound) (actions : List RemoteAction) :
    (s.run options actions).Sound :=
  run_holds options (fun _ _ hmove h => Move.sound h hmove)
    (fun _ _ _ hstep h => OnlyStream.sound h hstep.onlyStream) h actions

end RemoteSession

end Qaraa.Client
