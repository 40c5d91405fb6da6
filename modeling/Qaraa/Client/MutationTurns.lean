import Qaraa.Client.RemoteMoves
import Qaraa.Library.Chronicle
import Qaraa.Library.QueueInvariant

/-!
The mutations of a remote session take turns.

* `Act.turn`, `Settled`: the acts a mutation shows while it is its turn.
* `InOrder`: the log and the promises agree: who is queued, under way and settled.
* `Move.inOrder`, `OnlyStream.inOrder`: **every move of a session keeps them so**: the acts of
  mutations stand in the log in the order of their calls.
-/

namespace Qaraa.Client

open Ordered KeyedQueue Chronicle

/-- Whose turn an act belongs to, and whether it is the last of that turn. -/
def Act.turn : Act → Option Turn
  | .fetched ticket _ | .succeeded ticket _ => some (ticket, false)
  | .resolved ticket _ | .failed ticket _ _ => some (ticket, true)
  | _ => none

/-- The promise of a mutation has settled. -/
def Settled (log : List Act) (ticket : ℕ) : Prop := ∃ act ∈ log, act.turn = some (ticket, true)

lemma settled_concat {log : List Act} {act : Act} {ticket : ℕ} :
    Settled (log ++ [act]) ticket ↔ Settled log ticket ∨ act.turn = some (ticket, true) := by
  simp only [Settled, List.mem_append, List.mem_singleton, or_and_right, exists_or,
    exists_eq_left]

namespace RemoteSession

variable {s s' : RemoteSession}

/-! ### The promises -/

/-- A promise after one has moved on. -/
lemma entries_put (m : Mutations) (ticket : ℕ) (phase : Phase Mutation Outcome) (i : ℕ) :
    (m.put ticket phase).entries[i]? = if ticket = i then
      m.entries[i]?.map fun entry => { entry with phase := phase } else m.entries[i]? := by
  rw [State.put, List.getElem?_modify]
  split
  · rfl
  · exact Option.map_id'

lemma mem_queue {m : Mutations} {ticket : ℕ} {entry : Entry Unit Mutation Outcome} :
    (ticket, entry) ∈ m.queue () ↔ m.entries[ticket]? = some entry :=
  State.mem_queue.trans (and_iff_left rfl)

/-- The promise of a mutation has settled with a result. -/
def HasResult (s : RemoteSession) (ticket : ℕ) : Prop :=
  ∃ entry result, s.mutations.entries[ticket]? = some entry ∧ entry.phase.result = some result

/-- The log and the promises agree. -/
structure InOrder (s : RemoteSession) : Prop where
  turns : InTurn Act.turn s.acts
  orderly : Orderly (s.mutations.at ())
  calls : ∀ ticket entry, s.mutations.entries[ticket]? = some entry →
    .queued ticket entry.call.kind ∈ s.acts ∧ ¬entry.call.Sent
  queued : ∀ ticket kind, .queued ticket kind ∈ s.acts →
    ∃ entry, s.mutations.entries[ticket]? = some entry ∧ entry.call.kind = kind
  underWay : ∀ ticket, (s.acts.filterMap Act.turn).getLast? = some (ticket, false) →
    ∃ frame, s.Runs ticket frame
  running : ∀ ticket key call previous frame,
    s.mutations.entries[ticket]? = some ⟨key, call, previous, .running frame⟩ →
      frame.kind = call.kind ∧ (frame.Sent → .fetched ticket frame.kind ∈ s.acts)
  results : ∀ ticket, Settled s.acts ticket ↔ s.HasResult ticket

namespace InOrder

lemma fresh (snapshot : ReadingSnapshot) : (loaded snapshot).InOrder where
  turns := .nil
  orderly := .empty ()
  calls := fun ticket entry h => by simp [loaded, State.empty] at h
  queued := fun ticket kind h => by simp [loaded] at h
  underWay := fun ticket h => by simp [loaded] at h
  running := fun ticket key call previous frame h => by simp [loaded, State.empty] at h
  results := fun ticket => by simp [loaded, Settled, HasResult, State.empty]

/-- Only one mutation is under way. -/
lemma unique (h : s.InOrder) {ticket ticket' : ℕ} {frame frame' : Mutation}
    (hruns : s.Runs ticket frame) (hruns' : s.Runs ticket' frame') : ticket = ticket' := by
  obtain ⟨key, call, previous, hentry⟩ := hruns
  obtain ⟨key', call', previous', hentry'⟩ := hruns'
  rcases h.orderly.running_unique (mem_queue.mpr hentry) (mem_queue.mpr hentry') rfl nofun
    with heq | ⟨result, hdrained⟩
  · exact congrArg Prod.fst heq
  · cases hdrained

/-- Whatever has settled was called before the mutation under way. -/
lemma settled_lt (h : s.InOrder) {ticket ticket' : ℕ} {frame : Mutation}
    (hsettled : Settled s.acts ticket) (hruns : s.Runs ticket' frame) : ticket < ticket' := by
  obtain ⟨entry, result, hentry, hresult⟩ := (h.results ticket).mp hsettled
  obtain ⟨key, call, previous, hentry'⟩ := hruns
  have hstarted : Ticketed.Started (ticket, entry) := by
    intro hwaiting
    change entry.phase = .waiting at hwaiting
    rw [hwaiting] at hresult
    cases hresult
  rcases Nat.lt_trichotomy ticket ticket' with hlt | rfl | hlt
  · exact hlt
  · rw [hentry'] at hentry
    cases hentry
    cases hresult
  · obtain ⟨_, hdrained⟩ := h.orderly.drained_of_lt (mem_queue.mpr hentry')
      (mem_queue.mpr hentry) hlt hstarted
    cases hdrained

/-- An act outside of all turns is written. -/
lemma act (h : s.InOrder) (act : Act) (hturn : act.turn = none)
    (hqueued : ∀ ticket kind, act ≠ .queued ticket kind) : (s.act act).InOrder where
  turns := h.turns.concat_none hturn
  orderly := h.orderly
  calls := fun ticket entry hentry =>
    ⟨List.mem_append_left _ (h.calls ticket entry hentry).1, (h.calls ticket entry hentry).2⟩
  queued := fun ticket kind hmem => by
    rcases List.mem_append.mp hmem with hmem | hmem
    · exact h.queued ticket kind hmem
    · exact absurd (List.mem_singleton.mp hmem).symm (hqueued ticket kind)
  underWay := fun ticket hlast => by
    refine h.underWay ticket ?_
    rw [RemoteSession.act, List.filterMap_append, List.filterMap_cons, hturn] at hlast
    simpa using hlast
  running := fun ticket key call previous frame hentry =>
    (h.running ticket key call previous frame hentry).imp_right fun hsent hframe =>
      List.mem_append_left _ (hsent hframe)
  results := fun ticket => by
    refine settled_concat.trans ((or_iff_left ?_).trans (h.results ticket))
    rw [hturn]
    nofun

/-- Nothing but other parts of the session changes. -/
lemma congr (h : s.InOrder) (hacts : s'.acts = s.acts) (hmutations : s'.mutations = s.mutations) :
    s'.InOrder := by
  refine ⟨?_, ?_, ?_, ?_, ?_, ?_, ?_⟩
  · rw [hacts]
    exact h.turns
  · rw [hmutations]
    exact h.orderly
  · rw [hacts, hmutations]
    exact h.calls
  · rw [hacts, hmutations]
    exact h.queued
  · simp only [Runs, hacts, hmutations]
    exact h.underWay
  · rw [hacts, hmutations]
    exact h.running
  · simp only [HasResult, hacts, hmutations]
    exact h.results

/-- A mutation is called. -/
lemma enqueueMutation (h : s.InOrder) (mutation : Mutation) (hcall : ¬mutation.Sent) :
    (s.enqueueMutation mutation).InOrder := by
  have hold := fun ticket (entry : Entry Unit Mutation Outcome) hentry =>
    @enqueueMutation_entries s mutation ticket entry hentry
  have hcases : ∀ ticket entry,
      (s.enqueueMutation mutation).mutations.entries[ticket]? = some entry →
      s.mutations.entries[ticket]? = some entry ∨ ticket = s.mutations.entries.length ∧
        entry = ⟨(), mutation, s.mutations.tails.get (), .waiting⟩ := by
    intro ticket entry hentry
    change (s.mutations.entries ++ [_])[ticket]? = _ at hentry
    rw [List.getElem?_append] at hentry
    split at hentry
    · exact Or.inl hentry
    · obtain ⟨hlt, heq⟩ := List.getElem?_eq_some_iff.mp hentry
      rw [List.length_singleton] at hlt
      exact Or.inr ⟨by omega, by rw [← heq, List.getElem_singleton]⟩
  refine ⟨h.turns.concat_none rfl, run_orderly mutationQueue h.orderly [.call () mutation],
    fun ticket entry hentry => ?_, fun ticket kind hmem => ?_, fun ticket hlast => ?_,
    fun ticket key call previous frame hentry => ?_, fun ticket => ?_⟩
  · rcases hcases ticket entry hentry with hentry | ⟨rfl, rfl⟩
    · exact ⟨List.mem_append_left _ (h.calls ticket entry hentry).1,
        (h.calls ticket entry hentry).2⟩
    · exact ⟨List.mem_append_right _ (List.mem_singleton_self _), hcall⟩
  · rcases List.mem_append.mp hmem with hmem | hmem
    · obtain ⟨entry, hentry, hkind⟩ := h.queued ticket kind hmem
      exact ⟨entry, hold ticket entry hentry, hkind⟩
    · cases List.mem_singleton.mp hmem
      refine ⟨⟨(), mutation, s.mutations.tails.get (), .waiting⟩, ?_, rfl⟩
      exact List.getElem?_concat_length
  · have hlast' : (s.acts.filterMap Act.turn).getLast? = some (ticket, false) := by
      change ((s.acts ++ [_]).filterMap Act.turn).getLast? = _ at hlast
      rw [List.filterMap_append] at hlast
      simpa [Act.turn] using hlast
    obtain ⟨frame, key, call, previous, hentry⟩ := h.underWay ticket hlast'
    exact ⟨frame, key, call, previous, hold ticket _ hentry⟩
  · rcases hcases ticket _ hentry with hentry | ⟨-, hnew⟩
    · exact (h.running ticket key call previous frame hentry).imp_right fun hsent hframe =>
        List.mem_append_left _ (hsent hframe)
    · cases hnew
  · refine settled_concat.trans ((or_iff_left (by simp [Act.turn])).trans
      ((h.results ticket).trans ⟨fun hresult => ?_, fun hresult => ?_⟩))
    · obtain ⟨entry, result, hentry, hphase⟩ := hresult
      exact ⟨entry, result, hold ticket entry hentry, hphase⟩
    · obtain ⟨entry, result, hentry, hphase⟩ := hresult
      rcases hcases ticket entry hentry with hentry | ⟨-, rfl⟩
      · exact ⟨entry, result, hentry, hphase⟩
      · cases hphase

/-- A turn is taken by the mutation under way. -/
lemma turnTaken (h : s.InOrder) {ticket : ℕ} {frame : Mutation} (hruns : s.Runs ticket frame)
    {act : Act} {last : Bool} (hturn : act.turn = some (ticket, last)) :
    InTurn Act.turn (s.acts ++ [act]) := by
  refine h.turns.concat_some hturn fun x hx => ?_
  obtain ⟨earlier, ended⟩ := x
  cases ended with
  | false =>
      obtain ⟨frame', hruns'⟩ := h.underWay earlier hx
      exact h.unique hruns hruns'
  | true =>
      refine h.settled_lt ?_ hruns
      obtain ⟨act', hact', hturn'⟩ := List.mem_filterMap.mp (List.mem_of_getLast? hx)
      exact ⟨act', hact', hturn'⟩

/-- A promise moves on and the log with it. -/
lemma moved (h : s.InOrder) {ticket : ℕ} {key : Unit} {call : Mutation} {previous : Option ℕ}
    {before : Phase Mutation Outcome} (phase : Phase Mutation Outcome) (new : List Act)
    (hentry : s.mutations.entries[ticket]? = some ⟨key, call, previous, before⟩)
    (hentries : s'.mutations.entries = (s.mutations.put ticket phase).entries)
    (horderly : Orderly (s'.mutations.at ())) (hacts : s'.acts = s.acts ++ new)
    (hturns : InTurn Act.turn s'.acts) (hqueued : ∀ i kind, .queued i kind ∉ new)
    (hunderWay : ∀ i, (s'.acts.filterMap Act.turn).getLast? = some (i, false) →
      ∃ frame, s'.Runs i frame)
    (hrunning : ∀ frame, phase = .running frame →
      frame.kind = call.kind ∧ (frame.Sent → .fetched ticket frame.kind ∈ s'.acts))
    (hresult : Settled s'.acts ticket ↔ ∃ result, phase.result = some result)
    (hothers : ∀ i, ticket ≠ i → (Settled s'.acts i ↔ Settled s.acts i)) : s'.InOrder := by
  have hself : s'.mutations.entries[ticket]? = some ⟨key, call, previous, phase⟩ := by
    rw [hentries, entries_put, if_pos rfl, hentry]
    rfl
  have hother : ∀ i, ticket ≠ i → s'.mutations.entries[i]? = s.mutations.entries[i]? := by
    intro i hi
    rw [hentries, entries_put, if_neg hi]
  refine ⟨hturns, horderly, fun i entry hi => ?_, fun i kind hmem => ?_, hunderWay,
    fun i key' call' previous' frame hi => ?_, fun i => ?_⟩
  · rw [hacts]
    by_cases heq : ticket = i
    · subst heq
      rw [hself] at hi
      cases hi
      exact ⟨List.mem_append_left _ (h.calls ticket _ hentry).1, (h.calls ticket _ hentry).2⟩
    · rw [hother i heq] at hi
      exact ⟨List.mem_append_left _ (h.calls i entry hi).1, (h.calls i entry hi).2⟩
  · rw [hacts] at hmem
    rcases List.mem_append.mp hmem with hmem | hmem
    · obtain ⟨entry, hi, hkind⟩ := h.queued i kind hmem
      by_cases heq : ticket = i
      · subst heq
        rw [hentry] at hi
        cases hi
        exact ⟨_, hself, hkind⟩
      · exact ⟨entry, (hother i heq).trans hi, hkind⟩
    · exact absurd hmem (hqueued i kind)
  · by_cases heq : ticket = i
    · subst heq
      rw [hself] at hi
      cases hi
      exact hrunning frame rfl
    · rw [hother i heq] at hi
      rw [hacts]
      exact (h.running i key' call' previous' frame hi).imp_right fun hsent hframe =>
        List.mem_append_left _ (hsent hframe)
  · by_cases heq : ticket = i
    · subst heq
      refine hresult.trans ⟨fun ⟨result, hphase⟩ => ⟨_, result, hself, hphase⟩, ?_⟩
      rintro ⟨entry, result, hi, hphase⟩
      rw [hself] at hi
      cases hi
      exact ⟨result, hphase⟩
    · refine (hothers i heq).trans ((h.results i).trans ?_)
      simp only [HasResult, hother i heq]

/-- A request is sent, or answered, by the mutation under way. -/
lemma taken (h : s.InOrder) {ticket : ℕ} {frame : Mutation} (hruns : s.Runs ticket frame)
    (act : Act) (hturn : act.turn = some (ticket, false)) : (s.act act).InOrder := by
  obtain ⟨key, call, previous, hentry⟩ := id hruns
  have hkind := h.running ticket key call previous frame hentry
  have hsame : (s.mutations.put ticket (.running frame)).entries = s.mutations.entries := by
    refine List.ext_getElem? fun i => ?_
    rw [entries_put]
    split
    · rename_i heq
      rw [← heq, hentry]
      rfl
    · rfl
  have hsettled : ∀ i, Settled (s.acts ++ [act]) i ↔ Settled s.acts i := by
    intro i
    rw [settled_concat, hturn]
    exact or_iff_left nofun
  refine h.moved (.running frame) [act] hentry hsame.symm h.orderly rfl
    (h.turnTaken hruns hturn) (fun i kind hmem => ?_) (fun i hlast => ?_) (fun frame' hframe => ?_)
    ((hsettled ticket).trans ?_) fun i _ => hsettled i
  · cases List.mem_singleton.mp hmem
    cases hturn
  · change ((s.acts ++ [act]).filterMap Act.turn).getLast? = _ at hlast
    rw [List.filterMap_append, List.filterMap_cons, hturn] at hlast
    obtain rfl : ticket = i := by simpa using hlast
    exact ⟨frame, hruns⟩
  · cases hframe
    exact hkind.imp_right fun hsent hframe => List.mem_append_left _ (hsent hframe)
  · refine (h.results ticket).trans ⟨?_, by rintro ⟨result, ⟨⟩⟩⟩
    rintro ⟨entry, result, hi, hphase⟩
    rw [hentry] at hi
    cases hi
    cases hphase

lemma goOn_entries {ticket : ℕ} {frame : Mutation} (hruns : s.Runs ticket frame) (kind : Kind)
    (next : Mutation ⊕ Outcome) :
    (s.goOn ticket kind next).mutations.entries
      = (s.mutations.put ticket (.after next)).entries := by
  obtain ⟨key, call, previous, hentry⟩ := hruns
  rw [goOn, State.step, hentry]
  rfl

/-- The mutation under way waits again. -/
lemma awaits (h : s.InOrder) {ticket : ℕ} {frame next : Mutation} (hruns : s.Runs ticket frame)
    (hsame : next.kind = frame.kind) (hfetched : .fetched ticket frame.kind ∈ s.acts) :
    (s.goOn ticket frame.kind (.inl next)).InOrder := by
  obtain ⟨key, call, previous, hentry⟩ := id hruns
  have hentries := goOn_entries hruns frame.kind (.inl next)
  refine h.moved (.running next) [] hentry hentries
    (run_orderly mutationQueue h.orderly [.resume ticket (.inl next)]) rfl ?_ (fun i kind => nofun)
    (fun i hlast => ?_) (fun frame' hframe => ?_) ?_ fun i _ => ?_
  · change InTurn Act.turn (s.acts ++ [])
    rw [List.append_nil]
    exact h.turns
  · change ((s.acts ++ []).filterMap Act.turn).getLast? = _ at hlast
    rw [List.append_nil] at hlast
    obtain ⟨frame', hruns'⟩ := h.underWay i hlast
    obtain rfl := h.unique hruns hruns'
    refine ⟨next, key, call, previous, ?_⟩
    rw [hentries, entries_put, if_pos rfl, hentry]
    rfl
  · cases hframe
    rw [hsame]
    exact ⟨(h.running ticket key call previous frame hentry).1,
      fun _ => List.mem_append_left _ hfetched⟩
  · change Settled (s.acts ++ []) ticket ↔ _
    rw [List.append_nil]
    refine (h.results ticket).trans ⟨?_, by rintro ⟨result, ⟨⟩⟩⟩
    rintro ⟨entry, result, hi, hphase⟩
    rw [hentry] at hi
    cases hi
    cases hphase
  · change Settled (s.acts ++ []) i ↔ _
    rw [List.append_nil]

/-- The mutation under way settles. -/
lemma settles (h : s.InOrder) {ticket : ℕ} {frame : Mutation} (hruns : s.Runs ticket frame)
    (outcome : Outcome) : (s.goOn ticket frame.kind (.inr outcome)).InOrder := by
  obtain ⟨key, call, previous, hentry⟩ := id hruns
  obtain ⟨act, hact, hturn⟩ : ∃ act, settling ticket frame.kind (.inr outcome) = [act] ∧
      act.turn = some (ticket, true) := by
    cases outcome with
    | ok snapshot => exact ⟨_, rfl, rfl⟩
    | error error => exact ⟨_, rfl, rfl⟩
  have hacts : (s.goOn ticket frame.kind (.inr outcome)).acts = s.acts ++ [act] := by
    rw [goOn, hact]
  refine h.moved (.settled outcome) [act] hentry (goOn_entries hruns frame.kind (.inr outcome))
    (run_orderly mutationQueue h.orderly [.resume ticket (.inr outcome)]) hacts ?_
    (fun i kind hmem => ?_) (fun i hlast => ?_) (fun frame' hframe => ?_) ?_ fun i hi => ?_
  · rw [hacts]
    exact h.turnTaken hruns hturn
  · cases List.mem_singleton.mp hmem
    cases hturn
  · rw [hacts, List.filterMap_append, List.filterMap_cons, hturn] at hlast
    simp at hlast
  · cases hframe
  · rw [hacts, settled_concat]
    exact ⟨fun _ => ⟨outcome, rfl⟩, fun _ => Or.inr hturn⟩
  · rw [hacts, settled_concat, hturn]
    refine or_iff_left fun heq => hi ?_
    exact congrArg Prod.fst (Option.some.inj heq)

/-- A mutation starts. -/
lemma start (h : s.InOrder) (ticket : ℕ) : (s.start ticket).InOrder := by
  have horderly := run_orderly mutationQueue h.orderly [.start ticket]
  rw [RemoteSession.start]
  change Orderly ((State.step mutationQueue s.mutations (.start ticket)).at ()) at horderly
  rw [State.step] at horderly ⊢
  split
  · rename_i key call previous hentry
    rw [hentry] at horderly
    dsimp only at horderly
    split
    · rename_i hready
      rw [if_pos hready] at horderly
      have hcall := (h.calls ticket _ hentry).2
      refine h.moved (.running call) [] hentry rfl horderly
        (List.append_nil _).symm h.turns (fun i kind => by rintro ⟨⟩) (fun i hlast => ?_)
        (fun frame hframe => ?_) ?_ fun i _ => Iff.rfl
      · obtain ⟨frame, key', call', previous', hi⟩ := h.underWay i hlast
        refine ⟨frame, key', call', previous', ?_⟩
        dsimp only
        rw [entries_put, if_neg]
        · exact hi
        · rintro rfl
          rw [hentry] at hi
          cases hi
      · cases hframe
        exact ⟨rfl, fun hsent => absurd hsent hcall⟩
      · refine (h.results ticket).trans ⟨?_, by rintro ⟨result, ⟨⟩⟩⟩
        rintro ⟨entry, result, hi, hphase⟩
        rw [hentry] at hi
        cases hi
        cases hphase
    · exact h
  · exact h

/-- The reactions to a promise have run. -/
lemma drain (h : s.InOrder) (ticket : ℕ) : (s.drain ticket).InOrder := by
  have horderly := run_orderly mutationQueue h.orderly [.drain ticket]
  rw [RemoteSession.drain]
  change Orderly ((State.step mutationQueue s.mutations (.drain ticket)).at ()) at horderly
  rw [State.step] at horderly ⊢
  split
  · rename_i key call previous result hentry
    rw [hentry] at horderly
    refine h.moved (.drained result) [] hentry rfl horderly
      (List.append_nil _).symm h.turns (fun i kind => by rintro ⟨⟩) (fun i hlast => ?_)
      (fun frame => by rintro ⟨⟩)
      ?_ fun i _ => Iff.rfl
    · obtain ⟨frame, key', call', previous', hi⟩ := h.underWay i hlast
      refine ⟨frame, key', call', previous', ?_⟩
      dsimp only
      rw [entries_put, if_neg]
      · exact hi
      · rintro rfl
        rw [hentry] at hi
        cases hi
    · exact (h.results ticket).trans
        ⟨fun _ => ⟨result, rfl⟩, fun _ => ⟨_, result, hentry, rfl⟩⟩
  · exact h

end InOrder

/-! ### Runs -/

lemma disposeSocket_same (s : RemoteSession) :
    s.disposeSocket.acts = s.acts ∧ s.disposeSocket.mutations = s.mutations := by
  rw [disposeSocket]
  split <;> exact ⟨rfl, rfl⟩

lemma Exchange.inOrder (hexchange : Exchange s s') (h : s.InOrder) : s'.InOrder := by
  cases hexchange with
  | listeners listeners => exact h.congr rfl rfl
  | heard listener _ => exact h.act _ rfl nofun
  | refused _ => exact h.act _ rfl nofun
  | held observationId _ _ _ => exact h.act _ rfl nofun
  | shared observationId existing _ _ _ => exact h.act _ rfl nofun
  | submitted o _ => exact (h.enqueueMutation (.submit o) id).congr rfl rfl
  | reset location _ => exact (h.enqueueMutation (.reset location) id).congr rfl rfl
  | adopted next _ _ => exact h.congr rfl rfl
  | closed hopen =>
      refine (h.act .closed rfl nofun).congr ?_ ?_
      · rw [close, if_neg (by simp [hopen])]
        rfl
      · rw [close, if_neg (by simp [hopen])]
        exact s.disposeSocket_same.2

lemma Move.inOrder (hmove : Move s s') (h : s.InOrder) : s'.InOrder := by
  cases hmove with
  | exchanged hexchange => exact hexchange.inOrder h
  | enqueued next _ => exact h.congr rfl rfl
  | dequeued next rest _ => exact h.congr rfl rfl
  | started ticket => exact h.start ticket
  | identified => exact h.congr rfl rfl
  | sent ticket frame next command _ hruns hsame _ _ =>
      have hsent : (s.send ticket frame.kind command).InOrder :=
        (h.taken hruns (.fetched ticket frame.kind) rfl).congr rfl rfl
      exact hsent.awaits hruns hsame (List.mem_append_right _ (List.mem_singleton_self _))
  | waited ticket frame next hruns hsame hsent _ =>
      obtain ⟨key, call, previous, hentry⟩ := id hruns
      exact h.awaits hruns hsame ((h.running ticket key call previous frame hentry).2 hsent)
  | acknowledged ticket frame observationId hruns _ _ =>
      exact (h.taken hruns (.succeeded ticket (.submission observationId)) rfl).congr rfl rfl
  | forgot ticket frame hruns _ _ =>
      exact (h.taken hruns (.succeeded ticket .reset) rfl).congr rfl rfl
  | resolved ticket frame hruns _ => exact h.settles hruns _
  | failed ticket frame error hruns _ => exact h.settles hruns _
  | settled ticket =>
      rw [settle]
      split
      · rename_i key call previous result _
        refine (h.drain ticket).congr ?_ ?_
        · rw [finish.eq_def]
          split
          · split <;> rfl
          · rfl
        · rw [finish.eq_def]
          split
          · split <;> rfl
          · rfl
      · exact h

/-- A change of the stream alone. -/
lemma OnlyStream.inOrder (hstream : OnlyStream s s') (h : s.InOrder) : s'.InOrder := by
  obtain ⟨new, hacts, hnew⟩ := hstream.acts
  have hall : ∀ new : List Act, (∀ act ∈ new, OfStream s act) →
      ({ s with acts := s.acts ++ new } : RemoteSession).InOrder := by
    intro new
    induction new using List.reverseRecOn with
    | nil => exact fun _ => h.congr (List.append_nil _) rfl
    | append_singleton new act ih =>
        intro hnew
        have hact := hnew act (by simp)
        refine ((ih fun a ha => hnew a (by simp [ha])).act act ?_ ?_).congr
          (List.append_assoc _ _ _).symm rfl
        · cases act <;> first | rfl | exact hact.elim
        · rintro ticket kind rfl
          exact hact.elim
  exact (hall new hnew).congr hacts hstream.mutations

end RemoteSession

end Qaraa.Client
