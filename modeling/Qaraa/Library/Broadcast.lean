import Mathlib.Tactic
import Qaraa.Library.Ordered

/-!
Publications to listeners that call back into the publisher.

A publisher holds a value with a version. A value of a later version is published to a copy
of the set of listeners, each called with the value held at that time. A listener in control may
publish, subscribe, make a listener leave and close the publisher before it returns, so
publications nest. `pending` are the calls that have not returned, the innermost first.

* `State`, `publish`, `subscribe`, `leave`, `close`, `finish`: the publisher, and what the
  code in control can do to it.
* `Sound`: the invariant: who has not heard the value held is waiting in the publication of it.
* `increasing_step`: a step keeps the streams strictly increasing exactly when it is `Steady`:
  a publication that goes on is still the latest, and the listener it goes on to joined before
  it.
* `Sound.at_rest`: with nothing pending, all subscribed have heard the value held last.
-/

namespace Broadcast

open Ordered

variable {α β ρ : Type*} [DecidableEq α]

/-- A call of a listener that has not returned: from a publication, with those still to be
called, or from its own subscription. -/
inductive Pending (α β : Type*) where
  | publication (published : β) (listener : α) (waiting : List α)
  | subscription (listener : α)

/-- `stream` is what a listener was called with since it last subscribed; no function of the
publisher reads it. -/
structure State (α β : Type*) where
  held : β
  closed : Bool
  listeners : OrderedSet α
  pending : List (Pending α β)
  stream : α → List β

/-- A publisher nobody has subscribed to. -/
def initial (held : β) : State α β := ⟨held, false, .empty, [], fun _ => []⟩

namespace State

/-- A listener is called with the value held. -/
def call (s : State α β) (listener : α) : State α β :=
  { s with stream := Function.update s.stream listener (s.stream listener ++ [s.held]) }

/-- A listener still to be called that is still there. -/
def isThere (s : State α β) (listener : α) : Bool := !s.closed && s.listeners.has listener

/-- A publication goes on to the next listener that is still there. -/
def goOn (s : State α β) (published : β) (waiting : List α) : State α β :=
  match waiting with
  | [] => s
  | listener :: waiting =>
      if s.isThere listener then
        { s.call listener with pending := .publication published listener waiting :: s.pending }
      else s.goOn published waiting

/-- A value of a version no later than the one held is dropped. -/
def publish [LinearOrder ρ] (version : β → ρ) (s : State α β) (next : β) : State α β :=
  if version next ≤ version s.held then s
  else { s with held := next }.goOn next s.listeners.items

/-- A listener joins and is called with the value held. -/
def subscribe (s : State α β) (listener : α) : State α β :=
  if s.closed then s
  else
    let joined : State α β :=
      { s with
        listeners := s.listeners.add listener
        stream := Function.update s.stream listener [] }
    { joined.call listener with pending := .subscription listener :: s.pending }

/-- A listener leaves. -/
def leave (s : State α β) (listener : α) : State α β :=
  { s with listeners := s.listeners.delete listener }

/-- All listeners leave for good. -/
def close (s : State α β) : State α β := { s with closed := true, listeners := .empty }

/-- The listener in control returns or throws; one that throws leaves. -/
def finish (s : State α β) (throws : Bool) : State α β :=
  match s.pending with
  | [] => s
  | .subscription listener :: rest =>
      let returned := { s with pending := rest }
      if throws then returned.leave listener else returned
  | .publication published listener waiting :: rest =>
      let returned := { s with pending := rest }
      (if throws then returned.leave listener else returned).goOn published waiting

end State

/-- What the code in control can do. -/
inductive Move (α β : Type*) where
  | publish (next : β)
  | subscribe (listener : α)
  | leave (listener : α)
  | close
  | finish (throws : Bool)

section

variable [LinearOrder ρ] (version : β → ρ)

/-- What happens next. -/
def State.step (s : State α β) : Move α β → State α β
  | .publish next => s.publish version next
  | .subscribe listener => s.subscribe listener
  | .leave listener => s.leave listener
  | .close => s.close
  | .finish throws => s.finish throws

/-- What the listeners have been called with is strictly increasing. -/
def Increasing (s : State α β) : Prop :=
  ∀ listener, (s.stream listener).Pairwise fun b b' => version b < version b'

/-- A publication that goes on does so while its value is held, and to a listener that
joined before it. -/
def GoesOnSteadily (s : State α β) (published : β) (waiting : List α) : Prop :=
  ∀ listener ∈ waiting.find? s.isThere, version published = version s.held ∧
    ∀ b ∈ (s.stream listener).head?, version b < version published

/-- A move that does not let a publication go on after it has been overtaken. -/
def Steady (s : State α β) : Move α β → Prop
  | .finish throws =>
      match s.pending with
      | .publication published listener waiting :: _ =>
          GoesOnSteadily version (if throws then s.leave listener else s) published waiting
      | _ => True
  | _ => True

end

/-! ### The invariant -/

/-- The values of the publications that have not ended, with the listeners still to be
called. -/
def Pending.publication? : Pending α β → Option (β × List α)
  | .publication published _ waiting => some (published, waiting)
  | .subscription _ => none

/-- The publications that have not ended, the innermost first. -/
def State.publications (s : State α β) : List (β × List α) :=
  s.pending.filterMap Pending.publication?

/-- The invariant, for a list of publications that have not ended. -/
structure Sound [LinearOrder ρ] (version : β → ρ) (s : State α β)
    (publications : List (β × List α)) : Prop where
  bounded : ∀ listener, ∀ b ∈ s.stream listener, version b ≤ version s.held
  descending : publications.Pairwise fun p p' => version p'.1 < version p.1
  published_le : ∀ p ∈ publications, version p.1 ≤ version s.held
  nodup : ∀ p ∈ publications, p.2.Nodup
  closed : s.closed = true → s.listeners = .empty
  /-- Who has not heard the value held is waiting for it. -/
  current : ∀ listener ∈ s.listeners.items, (s.stream listener).getLast? = some s.held ∨
    ∃ p ∈ publications, version p.1 = version s.held ∧ listener ∈ p.2
  /-- Who is waiting for the value held has not heard it, unless it joined meanwhile. -/
  fresh : ∀ p ∈ publications, version p.1 = version s.held → ∀ listener ∈ p.2,
    (∀ b ∈ (s.stream listener).head?, version b < version s.held) →
    ∀ b ∈ s.stream listener, version b < version s.held

section

variable [LinearOrder ρ] {version : β → ρ} {s : State α β} {publications : List (β × List α)}

omit [DecidableEq α] in
lemma sound_initial (held : β) : Sound version (initial held : State α β) [] where
  bounded := by simp [initial]
  descending := .nil
  published_le := by simp
  nodup := by simp
  closed := by simp [initial]
  current := by simp [initial]
  fresh := by simp

namespace Sound

lemma isThere_iff (h : Sound version s publications) {listener : α} :
    s.isThere listener = true ↔ listener ∈ s.listeners.items := by
  rw [State.isThere, Bool.and_eq_true, OrderedSet.has_iff, Bool.not_eq_true']
  refine ⟨fun hthere => hthere.2, fun hmem => ⟨?_, hmem⟩⟩
  by_contra hclosed
  rw [h.closed (by simpa using hclosed)] at hmem
  simp at hmem

/-- A listener that has left the set is waiting in vain. -/
lemma leave (h : Sound version s publications) (listener : α) :
    Sound version (s.leave listener) publications where
  bounded := h.bounded
  descending := h.descending
  published_le := h.published_le
  nodup := h.nodup
  closed := by
    intro hclosed
    have hempty := h.closed hclosed
    rw [State.leave]
    dsimp only
    rw [hempty]
    rfl
  current l hl := h.current l (OrderedSet.mem_delete.mp hl).2
  fresh := h.fresh

/-- One that is not there need not be waited for. -/
lemma skip {published : β} {listener : α} {waiting : List α}
    (h : Sound version s ((published, listener :: waiting) :: publications))
    (hgone : ¬s.isThere listener = true) :
    Sound version s ((published, waiting) :: publications) where
  bounded := h.bounded
  descending := by
    have hdesc := List.pairwise_cons.mp h.descending
    exact List.pairwise_cons.mpr ⟨hdesc.1, hdesc.2⟩
  published_le := by
    have hle := List.forall_mem_cons.mp h.published_le
    exact List.forall_mem_cons.mpr ⟨hle.1, hle.2⟩
  nodup := by
    have hnodup := List.forall_mem_cons.mp h.nodup
    exact List.forall_mem_cons.mpr ⟨(List.nodup_cons.mp hnodup.1).2, hnodup.2⟩
  closed := h.closed
  current l hl := by
    refine (h.current l hl).imp_right ?_
    rintro ⟨p, hp, heq, hmem⟩
    rcases List.mem_cons.mp hp with rfl | hp
    · rcases List.mem_cons.mp hmem with rfl | hmem
      · exact absurd (h.isThere_iff.mpr hl) hgone
      · exact ⟨_, List.mem_cons_self, heq, hmem⟩
    · exact ⟨p, List.mem_cons_of_mem _ hp, heq, hmem⟩
  fresh := by
    have hfresh := List.forall_mem_cons.mp h.fresh
    exact List.forall_mem_cons.mpr
      ⟨fun heq l hl => hfresh.1 heq l (List.mem_cons_of_mem _ hl), hfresh.2⟩

omit [DecidableEq α] in
/-- A publication ends when nobody is left to be called. -/
lemma done {published : β} (h : Sound version s ((published, []) :: publications)) :
    Sound version s publications where
  bounded := h.bounded
  descending := (List.pairwise_cons.mp h.descending).2
  published_le := (List.forall_mem_cons.mp h.published_le).2
  nodup := (List.forall_mem_cons.mp h.nodup).2
  closed := h.closed
  current l hl := by
    refine (h.current l hl).imp_right ?_
    rintro ⟨p, hp, heq, hmem⟩
    rcases List.mem_cons.mp hp with rfl | hp
    · cases hmem
    · exact ⟨p, hp, heq, hmem⟩
  fresh := (List.forall_mem_cons.mp h.fresh).2

omit [DecidableEq α] in
/-- Only the innermost publication can be one of the value held. -/
lemma lt_of_mem (h : Sound version s publications) {p q : β × List α}
    {rest : List (β × List α)} (hp : publications = p :: rest) (hq : q ∈ rest) :
    version q.1 < version s.held := by
  subst hp
  exact lt_of_lt_of_le ((List.pairwise_cons.mp h.descending).1 q hq)
    (h.published_le p List.mem_cons_self)

/-- The next listener is called. -/
lemma call {published : β} {listener : α} {waiting : List α}
    (h : Sound version s ((published, listener :: waiting) :: publications)) :
    Sound version (s.call listener) ((published, waiting) :: publications) := by
  have hnodup := List.forall_mem_cons.mp h.nodup
  obtain ⟨hnew, hwaiting⟩ := List.nodup_cons.mp hnodup.1
  have hother : ∀ l, l ≠ listener → (s.call listener).stream l = s.stream l :=
    fun l hl => Function.update_of_ne hl _ _
  have hself : (s.call listener).stream listener = s.stream listener ++ [s.held] :=
    Function.update_self _ _ _
  have hdesc := List.pairwise_cons.mp h.descending
  have hle := List.forall_mem_cons.mp h.published_le
  refine ⟨fun l b hb => ?_, List.pairwise_cons.mpr ⟨hdesc.1, hdesc.2⟩,
    List.forall_mem_cons.mpr ⟨hle.1, hle.2⟩,
    List.forall_mem_cons.mpr ⟨hwaiting, hnodup.2⟩, h.closed, fun l hl => ?_,
    List.forall_mem_cons.mpr ⟨fun heq l hl => ?_, fun q hq heq => ?_⟩⟩
  · by_cases hl : l = listener
    · subst hl
      rw [hself, List.mem_append, List.mem_singleton] at hb
      rcases hb with hb | rfl
      · exact h.bounded l b hb
      · exact le_rfl
    · rw [hother l hl] at hb
      exact h.bounded l b hb
  · by_cases heq : l = listener
    · subst heq
      rw [hself]
      exact Or.inl (by simp [State.call])
    · rw [hother l heq]
      refine (h.current l hl).imp_right ?_
      rintro ⟨p, hp, hversion, hmem⟩
      rcases List.mem_cons.mp hp with rfl | hp
      · exact ⟨_, List.mem_cons_self, hversion, (List.mem_cons.mp hmem).resolve_left heq⟩
      · exact ⟨p, List.mem_cons_of_mem _ hp, hversion, hmem⟩
  · have hne : l ≠ listener := by
      rintro rfl
      exact hnew hl
    rw [hother l hne]
    exact (List.forall_mem_cons.mp h.fresh).1 heq l (List.mem_cons_of_mem _ hl)
  · exact absurd heq (h.lt_of_mem rfl hq).ne

omit [DecidableEq α] in
/-- What is pending does not matter beyond its publications. -/
lemma withPending (h : Sound version s publications) (pending : List (Pending α β)) :
    Sound version { s with pending := pending } publications :=
  ⟨h.bounded, h.descending, h.published_le, h.nodup, h.closed, h.current, h.fresh⟩

/-- A publication goes on. -/
lemma goOn {s : State α β} {published : β} {waiting : List α}
    (h : Sound version s ((published, waiting) :: s.publications)) :
    Sound version (s.goOn published waiting) (s.goOn published waiting).publications := by
  induction waiting with
  | nil => exact h.done
  | cons listener waiting ih =>
      rw [State.goOn]
      split
      · exact h.call.withPending _
      · rename_i hgone
        exact ih (h.skip hgone)

omit [DecidableEq α] in
/-- A publication starts with everyone waiting. -/
lemma opened (h : Sound version s publications) {next : β}
    (hnew : version s.held < version next) :
    Sound version { s with held := next } ((next, s.listeners.items) :: publications) where
  bounded l b hb := (h.bounded l b hb).trans hnew.le
  descending := List.pairwise_cons.mpr
    ⟨fun p hp => lt_of_le_of_lt (h.published_le p hp) hnew, h.descending⟩
  published_le := List.forall_mem_cons.mpr
    ⟨le_rfl, fun p hp => (h.published_le p hp).trans hnew.le⟩
  nodup := List.forall_mem_cons.mpr ⟨s.listeners.nodup, h.nodup⟩
  closed := h.closed
  current _ hl := Or.inr ⟨_, List.mem_cons_self, rfl, hl⟩
  fresh := List.forall_mem_cons.mpr
    ⟨fun _ l _ _ b hb => lt_of_le_of_lt (h.bounded l b hb) hnew,
      fun p hp heq => absurd heq (lt_of_le_of_lt (h.published_le p hp) hnew).ne⟩

lemma publish (h : Sound version s s.publications) (next : β) :
    Sound version (s.publish version next) (s.publish version next).publications := by
  rw [State.publish]
  split
  · exact h
  · rename_i hnew
    exact (h.opened (not_le.mp hnew)).goOn

lemma subscribe (h : Sound version s s.publications) (listener : α) :
    Sound version (s.subscribe listener) (s.subscribe listener).publications := by
  rw [State.subscribe]
  split
  · exact h
  · rename_i hopen
    set joined : State α β :=
      { s with
        listeners := s.listeners.add listener
        stream := Function.update s.stream listener [] } with hjoined
    have hself : (joined.call listener).stream listener = [s.held] := by
      rw [State.call, hjoined]
      simp
    have hother : ∀ l, l ≠ listener → (joined.call listener).stream l = s.stream l := by
      intro l hl
      rw [State.call, hjoined]
      simp [hl]
    refine ⟨fun l b hb => ?_, h.descending, h.published_le, h.nodup,
      fun hclosed => absurd hclosed hopen, fun l hl => ?_, fun p hp heq l hl hhead => ?_⟩
    · by_cases hl : l = listener
      · subst hl
        rw [hself, List.mem_singleton] at hb
        exact le_of_eq (congrArg version hb)
      · rw [hother l hl] at hb
        exact h.bounded l b hb
    · by_cases heq : l = listener
      · subst heq
        rw [hself]
        exact Or.inl rfl
      · rw [hother l heq]
        exact h.current l ((OrderedSet.mem_add.mp hl).resolve_right heq)
    · by_cases hne : l = listener
      · subst hne
        rw [hself] at hhead
        exact absurd (hhead s.held rfl) (lt_irrefl _)
      · rw [hother l hne] at hhead ⊢
        exact h.fresh p hp heq l hl hhead

omit [DecidableEq α] in
lemma close (h : Sound version s s.publications) :
    Sound version s.close s.close.publications where
  bounded := h.bounded
  descending := h.descending
  published_le := h.published_le
  nodup := h.nodup
  closed _ := rfl
  current l hl := by simp [State.close] at hl
  fresh := h.fresh

lemma finish (h : Sound version s s.publications) (throws : Bool) :
    Sound version (s.finish throws) (s.finish throws).publications := by
  rw [State.finish]
  cases hpending : s.pending with
  | nil => exact h
  | cons top rest =>
      rw [State.publications, hpending] at h
      cases top with
      | subscription listener =>
          have hrest := h.withPending rest
          cases throws with
          | false => exact hrest
          | true => exact hrest.leave listener
      | publication published listener waiting =>
          have hrest := h.withPending rest
          cases throws with
          | false => exact hrest.goOn
          | true => exact (hrest.leave listener).goOn

omit [DecidableEq α] in
/-- **With nothing pending, everyone subscribed has heard the value held last.** -/
theorem at_rest (h : Sound version s s.publications) (hrest : s.pending = []) {listener : α}
    (hmem : listener ∈ s.listeners.items) : (s.stream listener).getLast? = some s.held := by
  rcases h.current listener hmem with hlast | ⟨p, hp, -⟩
  · exact hlast
  · rw [State.publications, hrest] at hp
    cases hp

end Sound

lemma sound_step (h : Sound version s s.publications) (move : Move α β) :
    Sound version (s.step version move) (s.step version move).publications := by
  cases move with
  | publish next => exact h.publish next
  | subscribe listener => exact h.subscribe listener
  | leave listener => exact h.leave listener
  | close => exact h.close
  | finish throws => exact h.finish throws

/-! ### Strictly increasing streams -/

/-- A call keeps the streams increasing if what the listener has heard is older. -/
lemma increasing_call (h : Increasing version s) (listener : α) :
    Increasing version (s.call listener) ↔
      ∀ b ∈ s.stream listener, version b < version s.held := by
  have hself : (s.call listener).stream listener = s.stream listener ++ [s.held] :=
    Function.update_self _ _ _
  constructor
  · intro hcalled b hb
    have hpair := hcalled listener
    rw [hself, List.pairwise_append] at hpair
    exact hpair.2.2 b hb s.held (List.mem_singleton_self _)
  · intro hold l
    by_cases hl : l = listener
    · subst hl
      rw [hself, List.pairwise_append]
      refine ⟨h l, List.pairwise_singleton _ _, fun b hb b' hb' => ?_⟩
      rw [List.mem_singleton.mp hb']
      exact hold b hb
    · rw [State.call]
      dsimp only
      rw [Function.update_of_ne hl]
      exact h l

/-- The call a publication goes on with, if there is one. -/
lemma stream_goOn (s : State α β) (published : β) (waiting : List α) :
    (s.goOn published waiting).stream =
      ((waiting.find? s.isThere).elim s fun listener => s.call listener).stream := by
  induction waiting with
  | nil => rfl
  | cons listener waiting ih =>
      rw [State.goOn]
      cases hthere : s.isThere listener with
      | true =>
          rw [if_pos rfl, List.find?_cons_of_pos hthere]
          rfl
      | false =>
          rw [if_neg (by simp), List.find?_cons_of_neg (by simp [hthere])]
          exact ih

/-- A publication that goes on keeps the streams increasing exactly when it is steady. -/
lemma increasing_goOn {published : β} {waiting : List α}
    (hs : Sound version s ((published, waiting) :: publications)) (h : Increasing version s) :
    Increasing version (s.goOn published waiting) ↔
      GoesOnSteadily version s published waiting := by
  have hstream := stream_goOn s published waiting
  cases hfind : waiting.find? s.isThere with
  | none =>
      rw [hfind] at hstream
      have hsame : Increasing version (s.goOn published waiting) := by
        intro l
        rw [hstream]
        exact h l
      exact iff_of_true hsame (by simp [GoesOnSteadily, hfind])
  | some listener =>
      rw [hfind] at hstream
      have hthere : listener ∈ s.listeners.items := hs.isThere_iff.mp (List.find?_some hfind)
      have hwaiting : listener ∈ waiting := List.mem_of_find?_eq_some hfind
      have hcall : Increasing version (s.goOn published waiting) ↔
          ∀ b ∈ s.stream listener, version b < version s.held := by
        rw [← increasing_call h listener, Increasing, hstream]
        rfl
      rw [hcall, GoesOnSteadily, hfind]
      simp only [Option.mem_def, Option.some.injEq, forall_eq']
      constructor
      · intro hold
        have hversion : version published = version s.held := by
          rcases hs.current listener hthere with hlast | ⟨p, hp, heq, -⟩
          · exact absurd (hold s.held (List.mem_of_getLast? hlast)) (lt_irrefl _)
          · rcases List.mem_cons.mp hp with rfl | hp
            · exact heq
            · exact absurd heq (hs.lt_of_mem rfl hp).ne
        refine ⟨hversion, fun b hb => ?_⟩
        rw [hversion]
        exact hold b (List.mem_of_head? hb)
      · rintro ⟨hversion, hhead⟩
        rw [hversion] at hhead
        exact (List.forall_mem_cons.mp hs.fresh).1 hversion listener hwaiting hhead

/-- **A step keeps the streams increasing exactly when it is steady.** -/
theorem increasing_step (hs : Sound version s s.publications) (h : Increasing version s)
    (move : Move α β) : Increasing version (s.step version move) ↔ Steady version s move := by
  cases move with
  | publish next =>
      refine iff_of_true ?_ trivial
      rw [State.step, State.publish]
      split
      · exact h
      · rename_i hnew
        have hlt : version s.held < version next := not_le.mp hnew
        rw [increasing_goOn (hs.opened hlt) h]
        -- a publication that starts is the latest, and everyone has joined before it
        exact fun l _ =>
          ⟨rfl, fun b hb => lt_of_le_of_lt (hs.bounded l b (List.mem_of_head? hb)) hlt⟩
  | subscribe listener =>
      refine iff_of_true ?_ trivial
      rw [State.step, State.subscribe]
      split
      · exact h
      · intro l
        by_cases hl : l = listener
        · subst hl
          simp [State.call]
        · simpa [State.call, hl] using h l
  | leave listener => exact iff_of_true h trivial
  | close => exact iff_of_true h trivial
  | finish throws =>
      rw [State.step, State.finish, Steady]
      cases hpending : s.pending with
      | nil => exact iff_of_true h trivial
      | cons top rest =>
          cases top with
          | subscription listener => cases throws <;> exact iff_of_true h trivial
          | publication published listener waiting =>
              rw [State.publications, hpending] at hs
              have hrest := hs.withPending rest
              cases throws with
              | false => exact increasing_goOn hrest h
              | true => exact increasing_goOn (hrest.leave listener) h

end

end Broadcast
