import Mathlib.Tactic

/-!
A channel for one item between a sender and a receiver that run side by side, on which the
sender keeps the newest item only.

The sender takes on items of increasing rank, one at a time. It offers an item to the channel;
when the channel is full it takes the item out that is there, unless the receiver was faster,
and then puts its own in. The receiver takes items whenever it likes.

* `Hand`, `Channel`, `Step`: where the sender is with its item, the channel, and the moves of
  either side.
* `Ordered`, `Ordered.step`: what has been received, is in the channel or in the hand is, in
  this order, a part of what was taken on.
* `Current`, `Current.step`: the newest of these is the newest item taken on, unless the sender
  has given one up.
* `Ordered.received`, `Ordered.free`, `Current.newest`: **items are received in order, the
  sender never finds the channel full when it puts its item in, and the newest item is not
  lost**.
-/

namespace NewestSlot

variable {α β : Type*}

/-- Where the sender is with an item: it offers it, it takes the item out that is in the way,
it puts its own in. -/
inductive Hand (α : Type*) where
  | idle
  | offering (item : α)
  | draining (item : α)
  | putting (item : α)

/-- The item in the hand. -/
def Hand.item : Hand α → Option α
  | .idle => none
  | .offering item | .draining item | .putting item => some item

/-- The two sides and the channel. `taken` are the items the sender has taken on. -/
structure Channel (α : Type*) where
  hand : Hand α
  held : Option α
  received : List α
  taken : List α

/-- All that has not been thrown away: received, in the channel, in the hand. -/
def Channel.kept (c : Channel α) : List α := c.received ++ c.held.toList ++ c.hand.item.toList

/-- Nothing has happened. -/
def Channel.empty : Channel α := ⟨.idle, none, [], []⟩

variable [LinearOrder β] (rank : α → β) (base : β)

/-- A move of one of the two sides. -/
inductive Step : Channel α → Channel α → Prop
  | taken (item : α) (c : Channel α) (idle : c.hand = .idle) (above : base < rank item)
      (newer : ∀ x ∈ c.taken, rank x < rank item) :
      Step c { c with hand := .offering item, taken := c.taken ++ [item] }
  | sent (item : α) (c : Channel α) (hand : c.hand = .offering item) (empty : c.held = none) :
      Step c { c with hand := .idle, held := some item }
  | full (item : α) (c : Channel α) (hand : c.hand = .offering item) :
      Step c { c with hand := .draining item }
  | drained (item : α) (c : Channel α) (hand : c.hand = .draining item) :
      Step c { c with hand := .putting item, held := none }
  | put (item : α) (c : Channel α) (hand : c.hand = .putting item) (empty : c.held = none) :
      Step c { c with hand := .idle, held := some item }
  | received (item : α) (c : Channel α) (held : c.held = some item) :
      Step c { c with held := none, received := c.received ++ [item] }
  /-- The sender gives its item up. -/
  | dropped (item : α) (c : Channel α) (hand : c.hand = .putting item) :
      Step c { c with hand := .idle }

/-- What is kept comes in the order in which it was taken on. -/
structure Ordered (c : Channel α) : Prop where
  kept : c.kept.Sublist c.taken
  increasing : c.taken.Pairwise fun x y => rank x < rank y
  above : ∀ x ∈ c.taken, base < rank x
  free : ∀ item, c.hand = .putting item → c.held = none

/-- The newest item taken on is the last one kept. -/
def Current (c : Channel α) : Prop := c.kept.getLast? = c.taken.getLast?

variable {rank base} {c c' : Channel α}

lemma Ordered.empty : Ordered rank base (Channel.empty : Channel α) :=
  ⟨List.Sublist.refl _, List.Pairwise.nil, by simp [Channel.empty], by rintro item ⟨⟩⟩

lemma Current.empty : Current (Channel.empty : Channel α) := rfl

/-- **Every move keeps the order.** -/
theorem Ordered.step (h : Ordered rank base c) (hstep : Step rank base c c') :
    Ordered rank base c' := by
  obtain ⟨hkept, hincreasing, habove, hfree⟩ := h
  rw [Channel.kept] at hkept
  cases hstep with
  | taken item _ hidle hbase hnewer =>
      rw [hidle] at hkept
      refine ⟨?_, ?_, ?_, by rintro item ⟨⟩⟩
      · exact List.Sublist.append (by simpa [Hand.item] using hkept) (List.Sublist.refl [item])
      · exact List.pairwise_append.mpr ⟨hincreasing, List.pairwise_singleton _ _,
          fun x hx y hy => List.mem_singleton.mp hy ▸ hnewer x hx⟩
      · intro x hx
        rcases List.mem_append.mp hx with hx | hx
        · exact habove x hx
        · exact List.mem_singleton.mp hx ▸ hbase
  | sent item _ hhand hnone =>
      rw [hhand, hnone] at hkept
      refine ⟨?_, hincreasing, habove, by rintro item ⟨⟩⟩
      simpa [Channel.kept, Hand.item] using hkept
  | full item _ hhand =>
      rw [hhand] at hkept
      exact ⟨hkept, hincreasing, habove, by rintro item ⟨⟩⟩
  | drained item _ hhand =>
      rw [hhand] at hkept
      refine ⟨List.Sublist.trans ?_ hkept, hincreasing, habove, fun _ _ => rfl⟩
      exact List.Sublist.append (by simp) (List.Sublist.refl _)
  | put item _ hhand hnone =>
      rw [hhand, hnone] at hkept
      refine ⟨?_, hincreasing, habove, by rintro item ⟨⟩⟩
      simpa [Channel.kept, Hand.item] using hkept
  | received item _ hheld =>
      rw [hheld] at hkept
      exact ⟨by simpa [Channel.kept] using hkept, hincreasing, habove, fun _ _ => rfl⟩
  | dropped item _ hhand =>
      refine ⟨List.Sublist.trans ?_ hkept, hincreasing, habove, by rintro item ⟨⟩⟩
      simp [Channel.kept, Hand.item]

/-- **Every move keeps the newest item**, unless the sender gives its item up. -/
theorem Current.step (h : Current c) (hstep : Step rank base c c')
    (hkeeps : ∀ item, c.hand = .putting item → c'.hand = .idle → c'.held = some item) :
    Current c' := by
  rw [Current, Channel.kept] at h ⊢
  cases hstep with
  | taken item _ hidle hbase hnewer => simp [Hand.item]
  | sent item _ hhand hnone =>
      rw [hhand, hnone] at h
      simpa [Hand.item] using h
  | full item _ hhand =>
      rw [hhand] at h
      simpa [Hand.item] using h
  | drained item _ hhand =>
      rw [hhand] at h
      simpa [Hand.item] using h
  | put item _ hhand hnone =>
      rw [hhand, hnone] at h
      simpa [Hand.item] using h
  | received item _ hheld =>
      rw [hheld] at h
      simpa using h
  | dropped item _ hhand =>
      rw [hhand] at h
      have hheld : c.held = some item := hkeeps item hhand rfl
      simpa [hheld, Hand.item] using h

/-- Items are received in order, each of them above the base. -/
lemma Ordered.received (h : Ordered rank base c) :
    c.received.Pairwise (fun x y => rank x < rank y) ∧ ∀ x ∈ c.received, base < rank x := by
  have hsub : c.received.Sublist c.taken := by
    refine List.Sublist.trans ?_ h.kept
    rw [Channel.kept, List.append_assoc]
    exact List.sublist_append_left _ _
  exact ⟨h.increasing.sublist hsub, fun x hx => h.above x (hsub.subset hx)⟩

/-- The newest item is the last one received, the one in the channel or the one in the hand. -/
lemma Current.newest (h : Current c) {item : α} (hitem : c.taken.getLast? = some item) :
    c.received.getLast? = some item ∨ c.held = some item ∨ c.hand.item = some item := by
  rw [Current, hitem, Channel.kept, List.getLast?_append, List.getLast?_append] at h
  cases hhand : c.hand.item with
  | some x =>
      rw [hhand] at h
      exact Or.inr (Or.inr (by simpa using h))
  | none =>
      cases hheld : c.held with
      | some x =>
          rw [hhand, hheld] at h
          exact Or.inr (Or.inl (by simpa using h))
      | none =>
          rw [hhand, hheld] at h
          exact Or.inl (by simpa using h)

end NewestSlot
