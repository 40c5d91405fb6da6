import Qaraa.System.RemoteRequests
import Qaraa.Server.StoreFailures

/-!
Requests that reach the server after a reset of their client.

* `RemoteSystem.Makes`: a change of the tracker between two states of the session.
* `Chronological`, `Chronological.run`: every change under the number of a request is made by
  an operation of it, and **the changes have the order of the arrivals**.
* `late_acceptance`: an observation submitted before a reset is accepted after it only through a
  rejected attempt that arrives after the reset.
-/

namespace Qaraa.Remote

open Ordered KeyedQueue Chronicle Client SessionService

variable {options : SystemOptions} {s s' : RemoteSystem}

/-! ### Changes -/

/-- A change of the tracker between one state of the session and the next. -/
def RemoteSystem.Makes (s : RemoteSystem) (moment : ℕ) (change : Applied) : Prop :=
  ∃ slot after, s.past[moment]? = some slot ∧ s.past[moment + 1]? = some after ∧
    after.applied = slot.applied ++ [change]

instance (s : RemoteSystem) (moment : ℕ) (change : Applied) : Decidable (s.Makes moment change) :=
  decidable_of_iff (s.past[moment + 1]?.isSome ∧ s.past[moment + 1]?.map SessionSlot.applied
      = s.past[moment]?.map fun slot => slot.applied ++ [change]) (by
    rw [RemoteSystem.Makes]
    cases s.past[moment]? <;> cases s.past[moment + 1]? <;> simp)

/-- A change made before or in the last step of the service. -/
lemma makes_concat (hpresent : s.past.getLast? = some (s.slot options))
    (hpast : s'.past = s.past ++ [s'.slot options]) {moment : ℕ} {change : Applied}
    (h : s'.Makes moment change) :
    s.Makes moment change ∨ moment + 1 = s.past.length ∧
      (s'.slot options).applied = (s.slot options).applied ++ [change] := by
  obtain ⟨slot, after, hslot, hafter, happlied⟩ := h
  rw [hpast] at hslot hafter
  by_cases hlt : moment + 1 < s.past.length
  · rw [List.getElem?_append_left hlt] at hafter
    rw [List.getElem?_append_left (Nat.lt_of_succ_lt hlt)] at hslot
    exact Or.inl ⟨slot, after, hslot, hafter, happlied⟩
  · have hlength := (List.getElem?_eq_some_iff.mp hafter).1
    rw [List.length_append, List.length_singleton] at hlength
    have heq : moment + 1 = s.past.length := by omega
    refine Or.inr ⟨heq, ?_⟩
    rw [heq, List.getElem?_concat_length] at hafter
    rw [List.getElem?_append_left (by omega)] at hslot
    rw [List.getLast?_eq_getElem?, ← heq, Nat.add_sub_cancel] at hpresent
    rw [hpresent] at hslot
    cases hslot
    cases hafter
    exact happlied

/-- Two items of a list stand in one order or the other. -/
lemma pair_sublist {α : Type} {items : List α} {a b : α} (ha : a ∈ items) (hb : b ∈ items)
    (hne : a ≠ b) : List.Sublist [a, b] items ∨ List.Sublist [b, a] items := by
  obtain ⟨before, after, rfl⟩ := List.append_of_mem ha
  rcases List.mem_append.mp hb with hb | hb
  · right
    exact (List.singleton_sublist.mpr hb).append (List.singleton_sublist.mpr (by simp))
  · left
    refine List.sublist_append_of_sublist_right (List.Sublist.cons_cons a ?_)
    exact List.singleton_sublist.mpr ((List.mem_cons.mp hb).resolve_left hne.symm)

/-! ### The order of the changes -/

/-- An operation of a request that is past its update. -/
def Done (options : SystemOptions) (s : RemoteSystem) (arrival : Arrival) (request : ℕ) : Prop :=
  arrival.request = request ∧ ∃ (ticket : ℕ) (entry : Entry String Frame SessionService.Outcome),
    arrival.ticket = some ticket ∧ s.service.entries[ticket]? = some entry ∧
      entry.key = options.client.sessionId ∧ Updated (ticket, entry)

/-- What the requests of the client have made of the session, in the order of their arrival. -/
structure Chronological (options : SystemOptions) (s : RemoteSystem) : Prop where
  made : ∀ moment change request, s.Makes moment change → change.caller = own request →
    ∃ arrival ∈ s.arrivals, Done options s arrival request
  ordered : ∀ moment moment' change change' request request', s.Makes moment change →
    s.Makes moment' change' → change.caller = own request → change'.caller = own request' →
      moment < moment' → ∃ earlier later, List.Sublist [earlier, later] s.arrivals ∧
        earlier.request = request ∧ later.request = request'

namespace Chronological

/-- Nothing is changed, or only elsewhere. -/
lemma congr (h : Chronological options s) (hservice : s'.service = s.service)
    (hpast : s'.past = s.past) (harrivals : s.arrivals.Sublist s'.arrivals) :
    Chronological options s' := by
  have hmakes : ∀ {moment change}, s'.Makes moment change → s.Makes moment change := by
    intro moment change hmakes
    rw [RemoteSystem.Makes, hpast] at hmakes
    exact hmakes
  refine ⟨fun moment change request hchange hcaller => ?_,
    fun moment moment' change change' request request' hchange hchange' hcaller hcaller' hlt => ?_⟩
  · obtain ⟨arrival, hmem, hdone⟩ := h.made moment change request (hmakes hchange) hcaller
    refine ⟨arrival, harrivals.subset hmem, ?_⟩
    rw [Done, hservice]
    exact hdone
  · obtain ⟨earlier, later, hsub, hpair⟩ := h.ordered moment moment' change change' request request'
      (hmakes hchange) (hmakes hchange') hcaller hcaller' hlt
    exact ⟨earlier, later, hsub.trans harrivals, hpair⟩

/-- The service takes a step. -/
lemma served (h : Chronological options s) (hlinked : Linked options s) {call : ServiceAction}
    (hservice : s'.service = s.service.step options.service call)
    (hpast : s'.past = s.past ++ [s'.slot options]) (harrivals : s.arrivals.Sublist s'.arrivals) :
    Chronological options s' := by
  have hdone : ∀ {arrival request}, Done options s arrival request →
      Done options s' arrival request := by
    rintro arrival request ⟨hrequest, ticket, entry, hticket, hentry, hkey, hupdated⟩
    obtain ⟨phase, hnow, hupdated'⟩ :=
      updated_step hlinked.leading options.service call hentry hkey hupdated
    refine ⟨hrequest, ticket, { entry with phase := phase }, hticket, ?_, hkey, hupdated'⟩
    rw [hservice, hnow]
  -- a change made now is made by an operation that has been called for the request
  have hnow : ∀ {change request}, (s'.slot options).applied
      = (s.slot options).applied ++ [change] → change.caller = own request →
      ∃ arrival ∈ s.arrivals, arrival.request = request ∧ Done options s' arrival request ∧
        ∃ ticket, arrival.ticket = some ticket ∧ ∀ other ∈ s.arrivals, ∀ request',
          Done options s other request' → ∃ ticket', other.ticket = some ticket' ∧
            ticket' < ticket := by
    intro change request hchange hcaller
    rw [RemoteSystem.slot, hservice] at hchange
    obtain ⟨ticket, call', previous, hentry, hmakes, phase, hentry', hupdated⟩ :=
      applied_step hlinked.leading options.service hchange
    have hcall : s.service.calls[ticket]? = some (options.client.sessionId, call') := by
      rw [Service.calls_getElem, hentry]
      rfl
    obtain ⟨arrival, hmem, hrequest, hticket⟩ :=
      hlinked.owners ticket _ call' request hcall (by rw [hmakes.caller, hcaller])
    refine ⟨arrival, hmem, hrequest, ⟨hrequest, ticket, _, hticket, by rw [hservice, hentry'], rfl,
      hupdated⟩, ticket, hticket, ?_⟩
    rintro other - request' ⟨-, ticket', entry, hticket', hentry'', hkey, hupdated'⟩
    refine ⟨ticket', hticket', updated_lt hlinked.leading.orderly
      (y := (ticket, ⟨options.client.sessionId, call', previous, .running call'⟩))
      (State.mem_queue.mpr ⟨hentry, rfl⟩) rfl hmakes (ticket', entry)
      (State.mem_queue.mpr ⟨hentry'', hkey⟩) hupdated'⟩
  refine ⟨fun moment change request hchange hcaller => ?_,
    fun moment moment' change change' request request' hchange hchange' hcaller hcaller' hlt => ?_⟩
  · rcases makes_concat hlinked.present hpast hchange with hold | ⟨-, happlied⟩
    · obtain ⟨arrival, hmem, hmade⟩ := h.made moment change request hold hcaller
      exact ⟨arrival, harrivals.subset hmem, hdone hmade⟩
    · obtain ⟨arrival, hmem, -, hmade, -⟩ := hnow happlied hcaller
      exact ⟨arrival, harrivals.subset hmem, hmade⟩
  · have hbound : ∀ {moment change}, s'.Makes moment change → moment + 1 ≤ s.past.length := by
      rintro moment change ⟨slot, after, -, hafter, -⟩
      have := (List.getElem?_eq_some_iff.mp hafter).1
      rw [hpast, List.length_append, List.length_singleton] at this
      omega
    have hbefore : s.Makes moment change := by
      refine (makes_concat hlinked.present hpast hchange).resolve_right fun hlast => ?_
      have := hbound hchange'
      omega
    rcases makes_concat hlinked.present hpast hchange' with hold | ⟨-, happlied⟩
    · obtain ⟨earlier, later, hsub, hpair⟩ := h.ordered moment moment' change change' request
        request' hbefore hold hcaller hcaller' hlt
      exact ⟨earlier, later, hsub.trans harrivals, hpair⟩
    · obtain ⟨later, hlater, hrequest', -, ticket, hticket, hearlier⟩ := hnow happlied hcaller'
      obtain ⟨earlier, hmem, hmade⟩ := h.made moment change request hbefore hcaller
      obtain ⟨ticket', hticket', hless⟩ := hearlier earlier hmem request hmade
      have hne : earlier ≠ later := by
        rintro rfl
        rw [hticket] at hticket'
        cases hticket'
        exact lt_irrefl _ hless
      rcases pair_sublist hmem hlater hne with hsub | hsub
      · exact ⟨earlier, later, hsub.trans harrivals, hmade.1, hrequest'⟩
      · have hturn := (List.pairwise_cons.mp (hlinked.inTurn.sublist hsub)).1 earlier (by simp)
        exact absurd (hturn ticket ticket' hticket hticket') (not_lt.mpr hless.le)

lemma step (h : Chronological options s) (hlinked : Linked options s) (action : SystemAction) :
    Chronological options (s.step options action) := by
  have hturn := step_turn options s action
  generalize s.step options action = s' at hturn ⊢
  cases hturn with
  | served call _ hservice hpast _ harrivals _ =>
      exact h.served hlinked hservice hpast (harrivals ▸ List.Sublist.refl _)
  | arrived request sent _ _ hservice hpast _ harrivals _ =>
      exact h.served hlinked hservice hpast (harrivals ▸ List.sublist_append_left _ _)
  | turnedAway request _ _ hservice hpast _ harrivals _ =>
      exact h.congr hservice hpast (harrivals ▸ List.sublist_append_left _ _)
  | stepped action' _ hservice hpast _ harrivals _ =>
      exact h.congr hservice hpast (harrivals ▸ List.Sublist.refl _)
  | resumed ticket answer _ hservice hpast _ harrivals _ =>
      exact h.congr hservice hpast (harrivals ▸ List.Sublist.refl _)
  | lost ticket answer request _ _ hservice hpast _ harrivals _ =>
      exact h.congr hservice hpast (harrivals ▸ List.Sublist.refl _)
  | answered ticket answer request _ _ hservice hpast _ harrivals _ =>
      exact h.congr hservice hpast (harrivals ▸ List.Sublist.refl _)
  | nothing hservice hpast _ harrivals _ =>
      exact h.congr hservice hpast (harrivals ▸ List.Sublist.refl _)

/-- **In every run the changes have the order of the arrivals.** -/
theorem run (h : Chronological options s) (hlinked : Linked options s)
    (actions : List SystemAction) : Chronological options (s.run options actions) := by
  induction actions using List.reverseRecOn with
  | nil => exact h
  | append_singleton actions action ih =>
      rw [RemoteSystem.run_concat]
      exact ih.step (hlinked.run actions) action

end Chronological

lemma Opened.chronological {earlier : List ServiceAction} (h : Opened options earlier s) :
    Chronological options s := by
  have hnone : ∀ {moment change}, ¬s.Makes moment change := by
    rintro moment change ⟨slot, after, -, hafter, -⟩
    rw [h.past] at hafter
    simp at hafter
  exact ⟨fun moment change request hmakes _ => absurd hmakes hnone,
    fun moment moment' change change' request request' hmakes => absurd hmakes hnone⟩

/-- **An observation submitted before a reset is accepted after it only through a rejected
attempt that comes late.** In every run of a remote session against a service, when an attempt
of a submission called before a reset of the same session is accepted after the server has
applied that reset, its fetch has been rejected at the client, and it has reached the server
after the reset's request. -/
theorem late_acceptance (options : SystemOptions) (earlier : List ServiceAction) (ticket : ℕ)
    (dial : Dial) (system : RemoteSystem)
    (opened : openSystem options earlier ticket dial = some system) (actions : List SystemAction) :
    let s := system.run options actions
    ∀ (reset attempt : ℕ) (x y : Request), s.client.requests[reset]? = some x →
      s.client.requests[attempt]? = some y → y.ticket < x.ticket →
      ∀ (resetMoment moment : ℕ) (observationId : String),
        s.Makes resetMoment (.reset (own reset)) →
        s.Makes moment (.accepted (own attempt) observationId) → resetMoment < moment →
        attempt ∈ s.rejected ∧ ∃ first second, List.Sublist [first, second] s.arrivals ∧
          first.request = reset ∧ second.request = attempt := by
  intro s reset attempt x y hx hy hcalled resetMoment moment observationId hreset haccepted hlt
  have hopened := openSystem_opened opened
  have hlinked : Linked options s := hopened.linked.run actions
  have hchronological : Chronological options s :=
    hopened.chronological.run hopened.linked actions
  obtain ⟨first, second, hsub, rfl, rfl⟩ := hchronological.ordered resetMoment moment _ _ reset
    attempt hreset haccepted rfl rfl hlt
  have hlate := (List.pairwise_cons.mp (hlinked.late.sublist hsub)).1 second (by simp)
  exact ⟨hlate x y hx hy hcalled, first, second, hsub, rfl, rfl⟩

/-! ### A sample -/

/-- A session of the sample with two attempts for a submission. -/
def systemSample : SystemOptions := ⟨singleOptions, "A", 2, Nat.le_succ 1, fun n => toString n⟩

/-- The session is created and read once. -/
def openedCalls : List ServiceAction :=
  [createSample] ++ serveSample 0 3 ++ [.get ⟨"r", "A"⟩] ++ serveSample 1 2

/-- The system once its session is open. -/
def openedSystem : RemoteSystem :=
  (openSystem systemSample openedCalls 1 .created).get (by decide +kernel)

/-- The observation `"a"`, as the client hands it over. -/
def handedSample : Submission :=
  let command := sampleCommand "a" 1 ["p0"]
  ⟨"a", command.sourceRevision, command.isFinal, command.receivedAtMs, command.tokens⟩

/-- What the service has answered with. -/
def answerOf (s : RemoteSystem) (operation : ℕ) : Client.Answer :=
  match s.service.entries[operation]?.bind fun entry => entry.phase.result with
  | some (.ok (.updated event)) => { response := .updated event.snapshot }
  | _ => {}

/-- A request arrives and is served. -/
def arriveSample (request operation : ℕ) : List SystemAction :=
  .arrive request :: (serveSample operation 2).map .serve

/-- The first attempt of the submission is rejected, the second one arrives. -/
def repeatedRun : List SystemAction :=
  [.act (.call (.submit handedSample)), .act (.start 0), .act (.resume 0 {}),
    .act (.resume 0 {}), .act (.resume 0 {})] ++ arriveSample 1 2

/-- A reset follows, and then the first attempt arrives. -/
def lateRun : List SystemAction :=
  repeatedRun ++ [.act (.resume 0 (answerOf (openedSystem.run systemSample repeatedRun) 2)),
    .act (.settle 0), .act (.call (.reset none)), .act (.start 1), .act (.resume 1 {})]
    ++ arriveSample 2 3 ++ arriveSample 0 4

lemma openedSystem_opened : openSystem systemSample openedCalls 1 .created = some openedSystem :=
  (Option.some_get _).symm

/-- The first attempt of the sample is rejected, and accepted when it arrives after the reset. -/
theorem late_acceptance_sample :
    0 ∈ (openedSystem.run systemSample lateRun).rejected ∧
      ∃ first second,
        List.Sublist [first, second] (openedSystem.run systemSample lateRun).arrivals ∧
        first.request = 2 ∧ second.request = 0 := by
  have hreset : ((openedSystem.run systemSample lateRun).client.requests[2]?).map Request.ticket
      = some 1 := by decide +kernel
  have hattempt : ((openedSystem.run systemSample lateRun).client.requests[0]?).map Request.ticket
      = some 0 := by decide +kernel
  obtain ⟨x, hx, hxt⟩ := Option.map_eq_some_iff.mp hreset
  obtain ⟨y, hy, hyt⟩ := Option.map_eq_some_iff.mp hattempt
  exact late_acceptance systemSample openedCalls 1 .created openedSystem openedSystem_opened lateRun
    2 0 x y hx hy (by omega) 8 14 "a" (by decide +kernel) (by decide +kernel) (by decide)

end Qaraa.Remote
