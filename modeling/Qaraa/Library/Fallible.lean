import Mathlib.Tactic

/-!
Fallible computations in `Except`: how a successful run comes apart.

* `bind_eq_ok`, `failIf_eq_ok`: a sequence succeeds exactly when both parts do, a
  guard exactly when its condition is false.
* `result`: the result of a run known to succeed.
* `mapM_eq_ok`: a fallible map succeeds exactly when it does so item by item.
* `foldlM_induction`: what holds before a fallible loop and is kept by each of its
  successful rounds holds after the loop; the invariant may mention the items
  already visited.
* `foldlM_total`: a loop each of whose rounds succeeds under the invariant succeeds.
* `foldlM_simulates`: a loop none of whose rounds fails is a plain loop.
-/

namespace Fallible

universe u v

variable {ε : Type v} {α β σ : Type u}

/-- Fails with `e` when the condition holds. -/
def failIf (bad : Prop) [Decidable bad] (e : ε) : Except ε Unit :=
  if bad then .error e else .ok ()

@[simp] lemma failIf_eq_ok {bad : Prop} [Decidable bad] {e : ε} {u : Unit} :
    failIf bad e = .ok u ↔ ¬bad := by
  by_cases h : bad <;> simp [failIf, h]

@[simp] lemma bind_eq_ok {x : Except ε α} {f : α → Except ε β} {b : β} :
    (x >>= f) = .ok b ↔ ∃ a, x = .ok a ∧ f a = .ok b := by
  cases x with
  | error e => simp [bind, Except.bind]
  | ok a => simp [bind, Except.bind]

@[simp] lemma pure_eq_ok {a b : α} : (pure a : Except ε α) = .ok b ↔ a = b := by
  simp [pure, Except.pure]

@[simp] lemma ok_bind (a : α) (f : α → Except ε β) : (Except.ok a >>= f) = f a := rfl

/-- The result of a run known to succeed. -/
def result (x : Except ε α) (h : x.toOption.isSome = true) : α := x.toOption.get h

lemma eq_ok_result {x : Except ε α} (h : x.toOption.isSome = true) : x = .ok (result x h) := by
  cases x with
  | error e => simp [Except.toOption] at h
  | ok a => rfl

/-- A fallible map succeeds exactly when it does so item by item. -/
lemma mapM_eq_ok {f : α → Except ε β} {l : List α} {l' : List β} :
    l.mapM f = .ok l' ↔ List.Forall₂ (fun a b => f a = .ok b) l l' := by
  induction l generalizing l' with
  | nil => rw [List.mapM_nil, pure_eq_ok, List.forall₂_nil_left_iff, eq_comm]
  | cons a l ih =>
      rw [List.mapM_cons, bind_eq_ok]
      constructor
      · rintro ⟨b, hb, hl⟩
        rw [bind_eq_ok] at hl
        obtain ⟨bs, hbs, hpure⟩ := hl
        rw [← pure_eq_ok.mp hpure]
        exact .cons hb (ih.mp hbs)
      · intro h
        cases h with
        | cons hb hbs => exact ⟨_, hb, bind_eq_ok.mpr ⟨_, ih.mpr hbs, rfl⟩⟩

/-- Every item of a successful map's result is the result of some item. -/
lemma exists_of_mem_mapM {f : α → Except ε β} {l : List α} {l' : List β}
    (h : l.mapM f = .ok l') {b : β} (hb : b ∈ l') : ∃ a ∈ l, f a = .ok b := by
  have hall := mapM_eq_ok.mp h
  clear h
  induction hall with
  | nil => simp at hb
  | cons hab _ ih =>
      rcases List.mem_cons.mp hb with rfl | hb'
      · exact ⟨_, by simp, hab⟩
      · obtain ⟨a, ha, hfa⟩ := ih hb'
        exact ⟨a, by simp [ha], hfa⟩

/-- A successful map succeeds on every item. -/
lemma mapM_mem_ok {f : α → Except ε β} {l : List α} {l' : List β} (h : l.mapM f = .ok l')
    {a : α} (ha : a ∈ l) : ∃ b, f a = .ok b := by
  have hall := mapM_eq_ok.mp h
  clear h
  induction hall with
  | nil => simp at ha
  | cons hab _ ih =>
      rcases List.mem_cons.mp ha with rfl | ha'
      · exact ⟨_, hab⟩
      · exact ih ha'

/-- A successful fallible loop succeeds on every item, from some state. -/
lemma foldlM_mem_ok {f : σ → α → Except ε σ} {l : List α} {s t : σ} (h : l.foldlM f s = .ok t)
    {a : α} (ha : a ∈ l) : ∃ x y, f x a = .ok y := by
  induction l generalizing s with
  | nil => simp at ha
  | cons b l ih =>
      rw [List.foldlM_cons, bind_eq_ok] at h
      obtain ⟨x, hx, hl⟩ := h
      rcases List.mem_cons.mp ha with rfl | ha'
      · exact ⟨s, x, hx⟩
      · exact ih hl ha'

/-- The invariant rule of a fallible loop. -/
lemma foldlM_induction {f : σ → α → Except ε σ} {P : List α → σ → Prop} {l : List α}
    {s t : σ} (hrun : l.foldlM f s = .ok t) (hinit : P [] s)
    (hstep : ∀ pre a x y, P pre x → f x a = .ok y → P (pre ++ [a]) y) : P l t := by
  have key : ∀ (l pre : List α) (s : σ), P pre s → l.foldlM f s = .ok t → P (pre ++ l) t := by
    intro l
    induction l with
    | nil =>
        intro pre s hs h
        simp only [List.foldlM_nil, pure_eq_ok] at h
        simpa [← h] using hs
    | cons a l ih =>
        intro pre s hs h
        rw [List.foldlM_cons, bind_eq_ok] at h
        obtain ⟨x, hx, hl⟩ := h
        have := ih (pre ++ [a]) x (hstep pre a s x hs hx) hl
        simpa using this
  simpa using key l [] s hinit hrun

/-- A loop each of whose rounds succeeds, and keeps the invariant, succeeds. -/
lemma foldlM_total {f : σ → α → Except ε σ} {P : List α → σ → Prop} {l : List α} {s : σ}
    (hinit : P [] s)
    (hstep : ∀ pre a post x, l = pre ++ a :: post → P pre x →
      ∃ y, f x a = .ok y ∧ P (pre ++ [a]) y) : ∃ t, l.foldlM f s = .ok t ∧ P l t := by
  have key : ∀ (post pre : List α) (s : σ), l = pre ++ post → P pre s →
      ∃ t, post.foldlM f s = .ok t ∧ P (pre ++ post) t := by
    intro post
    induction post with
    | nil => exact fun pre s _ hs => ⟨s, rfl, by simpa using hs⟩
    | cons a post ih =>
        intro pre s hl hs
        obtain ⟨x, hx, hP⟩ := hstep pre a post s hl hs
        obtain ⟨t, ht, hPt⟩ := ih (pre ++ [a]) x (by simpa using hl) hP
        refine ⟨t, ?_, by simpa using hPt⟩
        rw [List.foldlM_cons, hx, ok_bind]
        exact ht
  simpa using key l [] s rfl hinit

/-- A fallible loop none of whose rounds fails runs along the plain loop it is related
to. -/
lemma foldlM_simulates {τ : Type u} {R : τ → σ → Prop} {f : σ → α → Except ε σ} {g : τ → α → τ}
    {l : List α} {t : τ} {s : σ} (hinit : R t s)
    (hstep : ∀ a ∈ l, ∀ t s, R t s → ∃ s', f s a = .ok s' ∧ R (g t a) s') :
    ∃ s', l.foldlM f s = .ok s' ∧ R (l.foldl g t) s' := by
  induction l generalizing t s with
  | nil => exact ⟨s, rfl, hinit⟩
  | cons a l ih =>
      obtain ⟨s', hs', hR⟩ := hstep a (by simp) t s hinit
      obtain ⟨s'', hs'', hR'⟩ := ih hR fun b hb => hstep b (by simp [hb])
      refine ⟨s'', ?_, hR'⟩
      rw [List.foldlM_cons, hs', ok_bind]
      exact hs''

end Fallible
