import Qaraa.Client.MutationOrder

/-!
A closed remote session.

* `Act.outward`: the acts that reach a listener or the network.
* `Sound.quiet`: none of them follows the closing.
* `Sound.rejected`: a mutation that has sent no request is rejected when its turn comes.
* `nothing_after_close`: **both, in every run**.
-/

namespace Qaraa.Client

open Ordered KeyedQueue Chronicle

/-- Whether an act reaches a listener or the network. -/
def Act.outward : Act → Bool
  | .heard _ _ | .fetched _ _ | .dialed _ => true
  | _ => false

namespace RemoteSession

variable {s : RemoteSession}

/-- A session is closed when `close` has been called. -/
lemma close_closed (s : RemoteSession) : s.close.closed = true := by
  rw [close]
  split
  · assumption
  · rfl

/-- Nothing that follows the closing reaches a listener or the network. -/
lemma Sound.quiet (h : s.Sound) {before after : List Act}
    (hacts : s.acts = before ++ .closed :: after) : ∀ act ∈ after, act.outward = false := by
  intro act hact
  obtain ⟨mid, rest, rfl⟩ := List.append_of_mem hact
  have hfollows := h.log (before ++ .closed :: mid) act rest (by rw [hacts]; simp)
  cases act with
  | heard listener snapshot => exact absurd (by simp) hfollows
  | fetched ticket kind => exact absurd (by simp) hfollows.1
  | dialed lastSnapshotRevision => exact absurd (by simp) hfollows
  | _ => rfl

/-- A request was sent before the closing or never. -/
lemma Sound.fetched_before (h : s.Sound) {before after : List Act}
    (hacts : s.acts = before ++ .closed :: after) {ticket : ℕ} {kind : Kind}
    (hfetched : .fetched ticket kind ∈ s.acts) : .fetched ticket kind ∈ before := by
  rw [hacts] at hfetched
  refine (List.mem_append.mp hfetched).resolve_right fun hlater => ?_
  rcases List.mem_cons.mp hlater with hcontra | hlater
  · cases hcontra
  · cases h.quiet hacts _ hlater

/-- A mutation may start when the reactions to all earlier ones have run. -/
lemma Sound.ready (h : s.Sound) {ticket : ℕ} {entry : Entry Unit Mutation Outcome}
    (hentry : s.mutations.entries[ticket]? = some entry)
    (hturn : ∀ earlier entry', earlier < ticket → s.mutations.entries[earlier]? = some entry' →
      entry'.phase.isDrained = true) : s.mutations.ready entry.previous = true := by
  cases hprevious : entry.previous with
  | none => rfl
  | some i =>
      obtain ⟨earlier, later, hqueue⟩ := List.append_of_mem (mem_queue.mpr hentry)
      obtain ⟨earlier', z, rfl, rfl⟩ :=
        (h.inOrder.orderly.chained earlier _ later hqueue).2 i hprevious
      have hz : s.mutations.entries[z.1]? = some z.2 := by
        refine mem_queue.mp ?_
        rw [hqueue]
        simp
      have hlt : z.1 < ticket := by
        have htickets := s.mutations.queue_tickets ()
        rw [hqueue, List.append_assoc, List.pairwise_append] at htickets
        exact (List.pairwise_cons.mp htickets.2.1).1 (ticket, entry) (by simp)
      rw [State.ready, hz, Option.map_some, Option.getD_some]
      exact hturn z.1 z.2 hlt hz

/-- A mutation of a closed session that has sent no request is rejected when its turn comes,
whatever it is given. -/
lemma Sound.rejected (h : s.Sound) (hclosed : s.closed = true) (options : RemoteOptions)
    {ticket : ℕ} {entry : Entry Unit Mutation Outcome}
    (hentry : s.mutations.entries[ticket]? = some entry) (hpending : entry.phase.result = none)
    (hnew : .fetched ticket entry.call.kind ∉ s.acts)
    (hturn : ∀ earlier entry', earlier < ticket → s.mutations.entries[earlier]? = some entry' →
      entry'.phase.isDrained = true) (answer : Answer) :
    ∃ entry', (((s.step options (.start ticket)).step options
      (.resume ticket answer))).mutations.entries[ticket]? = some entry' ∧
        entry'.phase = .settled (.error .closed) := by
  obtain ⟨key, call, previous, phase⟩ := entry
  have hcall := (h.inOrder.calls ticket _ hentry).2
  -- whether it has started or starts now, the mutation is at its call
  obtain ⟨frame, hframe, hstarted⟩ : ∃ frame : Mutation, ¬frame.Sent ∧
      (s.step options (.start ticket)).mutations.entries[ticket]?
        = some ⟨key, call, previous, .running frame⟩ := by
    rw [step, start, State.step]
    dsimp only
    rw [hentry]
    cases phase with
    | waiting =>
        refine ⟨call, hcall, ?_⟩
        have hready : s.mutations.ready previous = true := h.ready hentry hturn
        dsimp only
        rw [if_pos hready, entries_put, if_pos rfl, hentry]
        rfl
    | running frame =>
        refine ⟨frame, fun hsent => hnew ?_, hentry⟩
        obtain ⟨hkind, hfetched⟩ := h.inOrder.running ticket key call previous frame hentry
        exact hkind ▸ hfetched hsent
    | settled result => cases hpending
    | drained result => cases hpending
  have hstill : (s.step options (.start ticket)).closed = true := hclosed
  generalize s.step options (.start ticket) = s' at hstarted hstill
  refine ⟨⟨key, call, previous, .settled (.error .closed)⟩, ?_, rfl⟩
  have hproceed : s'.proceed options ticket answer frame = s'.rejectWith .closed := by
    cases frame with
    | submit o => rw [proceed, if_pos hstill]
    | reset location => rw [proceed, if_pos hstill]
    | submitting o requestId attempt => exact absurd trivial hframe
    | retrying o requestId attempt => exact absurd trivial hframe
    | resetting location requestId => exact absurd trivial hframe
  rw [step, resume, hstarted]
  dsimp only
  rw [hproceed, rejectWith, InOrder.goOn_entries ⟨key, call, previous, hstarted⟩,
    entries_put, if_pos rfl, hstarted]
  rfl

end RemoteSession

/-- **Nothing happens after `close`.** In every state a remote session reaches, `close` marks
the closing in the log; and wherever the closing stands in the log of a run, also when a
listener closes the session in the middle of a publication, nothing after it reaches a
listener or the network, a mutation that resolves later had sent its request before, one that
fails later without having sent a request fails because the session is closed, and one that
has not sent its request fails so as soon as its turn comes. Until then it waits: mutations are one
queue, and those queued before it settle first, be it with the response they have asked for. -/
theorem nothing_after_close (options : RemoteOptions)
    (first : Except SessionError ReadingSnapshot) (dial : Dial) (session : RemoteSession)
    (created : createRemoteSession options first dial = .ok session)
    (actions : List RemoteAction) :
    let s := session.run options actions
    Act.closed ∈ (s.step options (.call .close)).acts ∧
    ∀ before after : List Act, s.acts = before ++ Act.closed :: after →
      (∀ act ∈ after, act.outward = false) ∧
      (∀ (ticket : ℕ) (kind : Kind), Act.resolved ticket kind ∈ after →
        Act.fetched ticket kind ∈ before) ∧
      (∀ (ticket : ℕ) (kind : Kind) (error : SessionError),
        Act.failed ticket kind error ∈ after → Act.fetched ticket kind ∉ before →
          error = .closed) ∧
      ∀ (ticket : ℕ) (entry : Entry Unit Mutation Outcome),
        s.mutations.entries[ticket]? = some entry → entry.phase.result = none →
        Act.fetched ticket entry.call.kind ∉ before →
        (∀ earlier entry', earlier < ticket → s.mutations.entries[earlier]? = some entry' →
          entry'.phase.isDrained = true) →
        ∀ answer, ∃ entry', (((s.step options (.start ticket)).step options
            (.resume ticket answer))).mutations.entries[ticket]? = some entry' ∧
          entry'.phase = .settled (.error .closed) := by
  intro s
  have h : s.Sound := RemoteSession.run_sound options
    (RemoteSession.createRemoteSession_sound created) actions
  have hclosed : ∀ s : RemoteSession, s.Sound → .closed ∈ (s.step options (.call .close)).acts := by
    intro s h
    have hafter : (s.step options (.call .close)).Sound :=
      RemoteSession.run_sound options h [.call .close]
    refine hafter.remembers.closed.mp ?_
    rw [RemoteSession.step, RemoteSession.perform]
    exact s.close_closed
  refine ⟨hclosed s h, fun before after hacts => ⟨h.quiet hacts, fun ticket kind hresolved => ?_,
    fun ticket kind error hfailed hnone => ?_, fun ticket entry hentry hpending hnone hturn => ?_⟩⟩
  · obtain ⟨mid, rest, rfl⟩ := List.append_of_mem hresolved
    have hsplit : s.acts = (before ++ .closed :: mid) ++ .resolved ticket kind :: rest := by
      rw [hacts]
      simp
    obtain ⟨-, hfetched | ⟨hopen, -⟩⟩ := h.log _ _ _ hsplit
    · exact h.fetched_before hacts (hsplit ▸ List.mem_append_left _ hfetched)
    · exact absurd (by simp) hopen
  · obtain ⟨mid, rest, rfl⟩ := List.append_of_mem hfailed
    have hsplit : s.acts = (before ++ .closed :: mid) ++ .failed ticket kind error :: rest := by
      rw [hacts]
      simp
    obtain ⟨-, hfetched | ⟨herror, -⟩⟩ := h.log _ _ _ hsplit
    · exact absurd (h.fetched_before hacts (hsplit ▸ List.mem_append_left _ hfetched)) hnone
    · exact herror
  · refine h.rejected (h.remembers.closed.mpr (by rw [hacts]; simp)) options hentry hpending
      (fun hfetched => hnone (h.fetched_before hacts hfetched)) hturn

/-- Two mutations are queued and the session is closed while the first awaits its response. -/
def closedMeanwhile : List RemoteAction :=
  [.call (.submit submissionSample), .call (.reset none), .start 0, .resume 0 {}, .call .close,
    .resume 0 { response := .updated (sampleSnapshot 1) }, .settle 0]

/-- The reset of the sample fails once its turn comes, after the submission before it is settled. -/
theorem nothing_after_close_sample :
    ∃ entry, (((openedSample.run remoteSample closedMeanwhile).step remoteSample
        (.start 1)).step remoteSample (.resume 1 {})).mutations.entries[1]? = some entry ∧
      entry.phase = .settled (.error .closed) := by
  have hacts : (openedSample.run remoteSample closedMeanwhile).acts
      = [.dialed 0, .queued 0 (.submission "o"), .queued 1 .reset, .fetched 0 (.submission "o")]
        ++ .closed :: [.succeeded 0 (.submission "o"), .resolved 0 (.submission "o")] := by
    decide +kernel
  obtain ⟨-, -, -, hrejected⟩ := (nothing_after_close remoteSample (.ok (sampleSnapshot 0))
    .created openedSample openedSample_created closedMeanwhile).2 _ _ hacts
  refine hrejected 1 ⟨(), .reset none, some 0, .waiting⟩ rfl rfl (by decide) ?_ {}
  intro earlier entry hearlier hentry
  obtain rfl : earlier = 0 := by omega
  cases hentry
  rfl

end Qaraa.Client
