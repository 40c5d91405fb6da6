import Mathlib.Tactic
import Mathlib.Logic.Function.Basic

/-!
Calls that chain on a promise for each key. A call that joins runs after the tail of its key and
becomes the tail; one that watches runs after the tail and leaves it. Jobs run first in, first
out; a tail that is fulfilled puts its reactions among the jobs, and the first of them removes
it from the tails.

* `Program`, `Job`, `State`, `State.call`, `State.next`: the calls and the jobs.
* `Waits`: what the jobs of one key are; `Waits.append_free`, `Waits.append_tail`: what a call
  adds to them.
* `InOrder`: the calls of a key up to one have been performed, in the order they were made;
  `InOrder.call`, `InOrder.next`: **every call and every job keeps this.**
* `State.measure_next`: a job leaves less to do.
* `InOrder.outcome`, `InOrder.of_no_jobs`: the calls of a key come to what they come to one after
  the other.
-/

namespace PromiseChain

/-- What the calls are; `perform` is all that a call does to the value of its key. -/
structure Program (K C V O : Type*) where
  key : C → K
  joins : C → Bool
  initial : V
  perform : C → V → V × O

/-- The callbacks of a call. -/
inductive Stage where
  | perform
  | settle
  | forget
  deriving DecidableEq

/-- A job, with the call it is of; the ticket of a call is its position. -/
structure Job (C : Type*) where
  ticket : ℕ
  call : C
  stage : Stage

/-- The calls so far, the jobs, the promises of the joined calls, the tails, the values and what
the calls came to. -/
structure State (K C V O : Type*) where
  calls : List C
  jobs : List (Job C)
  reactions : ℕ → List (Job C)
  fulfilled : ℕ → Bool
  tails : K → Option ℕ
  values : K → V
  outcomes : ℕ → Option O

section

variable {K C V O : Type*}

/-- Nothing called yet. -/
def State.empty (program : Program K C V O) : State K C V O :=
  ⟨[], [], fun _ => [], fun _ => false, fun _ => none, fun _ => program.initial, fun _ => none⟩

/-- A reaction to a promise, or to one that is fulfilled from the start. -/
def State.react (s : State K C V O) (promise : Option ℕ) (job : Job C) : State K C V O :=
  match promise.filter fun t => !s.fulfilled t with
  | none => { s with jobs := s.jobs ++ [job] }
  | some t => { s with reactions := Function.update s.reactions t (s.reactions t ++ [job]) }

variable [DecidableEq K] (program : Program K C V O)

/-- A call: its job waits for the tail of its key, which it becomes. -/
def State.call (s : State K C V O) (c : C) : State K C V O :=
  let n := s.calls.length
  let reacting := s.react (s.tails (program.key c)) ⟨n, c, .perform⟩
  let called := { reacting with calls := s.calls ++ [c] }
  if program.joins c then
    { called with
      reactions := Function.update called.reactions n [⟨n, c, .forget⟩]
      tails := Function.update called.tails (program.key c) (some n) }
  else called

/-- The first job. -/
def State.next (s : State K C V O) : State K C V O :=
  match s.jobs with
  | [] => s
  | ⟨n, c, .perform⟩ :: rest =>
      let after := program.perform c (s.values (program.key c))
      { s with
        jobs := rest ++ if program.joins c then [⟨n, c, .settle⟩] else []
        values := Function.update s.values (program.key c) after.1
        outcomes := Function.update s.outcomes n (some after.2) }
  | ⟨n, _, .settle⟩ :: rest =>
      { s with
        jobs := rest ++ s.reactions n
        reactions := Function.update s.reactions n []
        fulfilled := Function.update s.fulfilled n true }
  | ⟨n, c, .forget⟩ :: rest =>
      { s with
        jobs := rest
        tails := if s.tails (program.key c) = some n then
          Function.update s.tails (program.key c) none else s.tails }

/-! ### The jobs of one key -/

/-- The calls of a key with their tickets, in the order they were made. -/
def State.callsOf (s : State K C V O) (k : K) : List (C × ℕ) :=
  s.calls.zipIdx.filter fun x => program.key x.1 = k

/-- The jobs of a key. -/
def State.queue (s : State K C V O) (k : K) : List (Job C) :=
  s.jobs.filter fun job => program.key job.call = k

/-- The tail of a key while it is not fulfilled. -/
def State.pendingTail (s : State K C V O) (k : K) : Option ℕ :=
  (s.tails k).filter fun t => !s.fulfilled t

/-- A call of the key and its ticket. -/
def State.Own (s : State K C V O) (k : K) (n : ℕ) (c : C) : Prop :=
  s.calls[n]? = some c ∧ program.key c = k

/-- The jobs of a key, with the calls they will perform in turn and the promise that is left at
the end. A call that joins and a promise to be settled are last: what comes after them reacts to
the promise, and is called later. -/
inductive Waits (reactions : ℕ → List (Job C)) (k : K) :
    (ℕ → C → Prop) → (ℕ → Prop) → List (Job C) → List (C × ℕ) → Option ℕ → Prop
  | nil {own : ℕ → C → Prop} {past : ℕ → Prop} : Waits reactions k own past [] [] none
  | watch {own : ℕ → C → Prop} {past : ℕ → Prop} {n : ℕ} {c : C} {jobs : List (Job C)}
      {waiting : List (C × ℕ)} {last : Option ℕ} (hown : own n c) (hc : program.joins c = false)
      (h : Waits reactions k own past jobs waiting last) :
      Waits reactions k own past (⟨n, c, .perform⟩ :: jobs) ((c, n) :: waiting) last
  | forget {own : ℕ → C → Prop} {past : ℕ → Prop} {n : ℕ} {c : C} {jobs : List (Job C)}
      {waiting : List (C × ℕ)} {last : Option ℕ} (hkey : program.key c = k) (hpast : past n)
      (h : Waits reactions k own past jobs waiting last) :
      Waits reactions k own past (⟨n, c, .forget⟩ :: jobs) waiting last
  | join {own : ℕ → C → Prop} {past : ℕ → Prop} {n : ℕ} {c : C} {waiting : List (C × ℕ)}
      {last : Option ℕ} (hown : own n c) (hc : program.joins c = true)
      (h : Waits reactions k (fun m d => own m d ∧ n < m) (· = n) (reactions n) waiting last) :
      Waits reactions k own past [⟨n, c, .perform⟩] ((c, n) :: waiting) (last.or (some n))
  | settle {own : ℕ → C → Prop} {past : ℕ → Prop} {n : ℕ} {c : C} {waiting : List (C × ℕ)}
      {last : Option ℕ} (hown : own n c)
      (h : Waits reactions k (fun m d => own m d ∧ n < m) (· = n) (reactions n) waiting last) :
      Waits reactions k own past [⟨n, c, .settle⟩] waiting (last.or (some n))

namespace Waits

variable {program} {reactions reactions' : ℕ → List (Job C)} {k : K} {own own' : ℕ → C → Prop}
  {past past' : ℕ → Prop} {jobs jobs' : List (Job C)} {waiting waiting' : List (C × ℕ)}
  {last last' : Option ℕ}

omit [DecidableEq K] in
/-- Only the reactions to the promises of the key's own calls matter. -/
lemma mono (h : Waits program reactions k own past jobs waiting last)
    (hown : ∀ n c, own n c → own' n c) (hpast : ∀ n, past n → past' n)
    (hreactions : ∀ n c, own n c → reactions' n = reactions n) :
    Waits program reactions' k own' past' jobs waiting last := by
  induction h generalizing own' past' with
  | nil => exact .nil
  | watch hn hc _ ih => exact .watch (hown _ _ hn) hc (ih hown hpast hreactions)
  | forget hkey hn _ ih => exact .forget hkey (hpast _ hn) (ih hown hpast hreactions)
  | @join own past n c waiting last hn hc h ih =>
      refine .join (hown _ _ hn) hc ?_
      rw [hreactions n c hn]
      exact ih (fun m d hm => ⟨hown m d hm.1, hm.2⟩) (fun _ hm => hm)
        fun m d hm => hreactions m d hm.1
  | @settle own past n c waiting last hn h ih =>
      refine .settle (hown _ _ hn) ?_
      rw [hreactions n c hn]
      exact ih (fun m d hm => ⟨hown m d hm.1, hm.2⟩) (fun _ hm => hm)
        fun m d hm => hreactions m d hm.1

omit [DecidableEq K] in
lemma key (h : Waits program reactions k own past jobs waiting last)
    (hown : ∀ n c, own n c → program.key c = k) : ∀ job ∈ jobs, program.key job.call = k := by
  induction h with
  | nil => exact fun job hjob => absurd hjob List.not_mem_nil
  | watch hn _ _ ih => exact List.forall_mem_cons.mpr ⟨hown _ _ hn, ih hown⟩
  | forget hkey _ _ ih => exact List.forall_mem_cons.mpr ⟨hkey, ih hown⟩
  | join hn _ _ _ => exact List.forall_mem_singleton.mpr (hown _ _ hn)
  | settle hn _ _ => exact List.forall_mem_singleton.mpr (hown _ _ hn)

omit [DecidableEq K] in
/-- The promise that is left is of one of the calls. -/
lemma own_last (h : Waits program reactions k own past jobs waiting last) {t : ℕ}
    (ht : last = some t) : ∃ c, own t c := by
  induction h with
  | nil => cases ht
  | watch _ _ _ ih => exact ih ht
  | forget _ _ _ ih => exact ih ht
  | join hn _ _ ih =>
      rcases Option.or_eq_some_iff.mp ht with hlast | ⟨-, hlast⟩
      · exact (ih hlast).imp fun _ => And.left
      · cases hlast
        exact ⟨_, hn⟩
  | settle hn _ ih =>
      rcases Option.or_eq_some_iff.mp ht with hlast | ⟨-, hlast⟩
      · exact (ih hlast).imp fun _ => And.left
      · cases hlast
        exact ⟨_, hn⟩

omit [DecidableEq K] in
/-- Where no promise is left, jobs are added at the end. -/
lemma append_free (h : Waits program reactions k own past jobs waiting last) (hlast : last = none)
    (h' : Waits program reactions k own past jobs' waiting' last') :
    Waits program reactions k own past (jobs ++ jobs') (waiting ++ waiting') last' := by
  induction h with
  | nil => exact h'
  | watch hn hc _ ih => exact .watch hn hc (ih hlast h')
  | forget hkey hn _ ih => exact .forget hkey hn (ih hlast h')
  | join _ _ _ _ => exact absurd (Option.or_eq_none_iff.mp hlast).2 (Option.some_ne_none _)
  | settle _ _ _ => exact absurd (Option.or_eq_none_iff.mp hlast).2 (Option.some_ne_none _)

omit [DecidableEq K] in
/-- What the reactions to a promise become when one is added to the promise that is left, which
is this one or one behind its reactions. -/
lemma append_inside {n t : ℕ} {c : C} (hn : own n c) (hown : ∀ m d, own m d → own' m d)
    (hreactions : ∀ m d, own m d → m ≠ t → reactions' m = reactions m)
    (ht : reactions' t = reactions t ++ jobs')
    (h' : Waits program reactions' k (fun m d => own' m d ∧ t < m) (· = t) jobs' waiting' last')
    (h : Waits program reactions k (fun m d => own m d ∧ n < m) (· = n) (reactions n) waiting last)
    (ih : last = some t →
      Waits program reactions' k (fun m d => (own' m d ∧ n < m) ∧ t < m) (· = t) jobs' waiting'
        last' →
      Waits program reactions' k (fun m d => own' m d ∧ n < m) (· = n) (reactions n)
        (waiting ++ waiting') (last'.or (some t)))
    (hlast : last.or (some n) = some t) :
    ∃ inner, inner.or (some n) = last'.or (some t) ∧
      Waits program reactions' k (fun m d => own' m d ∧ n < m) (· = n) (reactions' n)
        (waiting ++ waiting') inner := by
  rcases Option.or_eq_some_iff.mp hlast with hlast | ⟨hnone, hlast⟩
  · obtain ⟨d, -, hlt⟩ := h.own_last hlast
    refine ⟨last'.or (some t), by rw [Option.or_assoc, Option.some_or], ?_⟩
    rw [hreactions n c hn (by omega)]
    refine ih hlast (h'.mono (fun m d hm => ⟨⟨hm.1, ?_⟩, hm.2⟩) (fun _ hm => hm) fun _ _ _ => rfl)
    exact hlt.trans hm.2
  · cases hlast
    refine ⟨last', rfl, ?_⟩
    rw [ht]
    refine append_free (h.mono (fun m d hm => ⟨hown m d hm.1, hm.2⟩) (fun _ hm => hm)
      fun m d hm => hreactions m d hm.1 ?_) hnone h'
    exact Nat.ne_of_gt hm.2

omit [DecidableEq K] in
/-- A call reacts to the promise that is left: it comes after all that waits. -/
lemma append_tail {t : ℕ} (h : Waits program reactions k own past jobs waiting last)
    (hlast : last = some t) (hown : ∀ n c, own n c → own' n c)
    (hreactions : ∀ n c, own n c → n ≠ t → reactions' n = reactions n)
    (ht : reactions' t = reactions t ++ jobs')
    (h' : Waits program reactions' k (fun m d => own' m d ∧ t < m) (· = t) jobs' waiting' last') :
    Waits program reactions' k own' past jobs (waiting ++ waiting') (last'.or (some t)) := by
  induction h generalizing own' with
  | nil => cases hlast
  | watch hn hc _ ih => exact .watch (hown _ _ hn) hc (ih hlast hown hreactions h')
  | forget hkey hn _ ih => exact .forget hkey hn (ih hlast hown hreactions h')
  | join hn hc h ih =>
      obtain ⟨inner, heq, hinner⟩ := append_inside hn hown hreactions ht h' h
        (fun hlast => ih hlast (fun m d hm => ⟨hown m d hm.1, hm.2⟩)
          fun m d hm => hreactions m d hm.1) hlast
      rw [← heq]
      exact .join (hown _ _ hn) hc hinner
  | settle hn h ih =>
      obtain ⟨inner, heq, hinner⟩ := append_inside hn hown hreactions ht h' h
        (fun hlast => ih hlast (fun m d hm => ⟨hown m d hm.1, hm.2⟩)
          fun m d hm => hreactions m d hm.1) hlast
      rw [← heq]
      exact .settle (hown _ _ hn) hinner

omit [DecidableEq K] in
/-- A call that has just been made. -/
lemma called {n : ℕ} {c : C} (hn : own n c) (hkey : program.key c = k)
    (hreactions : program.joins c = true → reactions n = [⟨n, c, .forget⟩]) :
    Waits program reactions k own past [⟨n, c, .perform⟩] [(c, n)]
      (if program.joins c then some n else none) := by
  cases hc : program.joins c with
  | false =>
      rw [if_neg Bool.false_ne_true]
      exact .watch hn hc .nil
  | true =>
      rw [if_pos rfl]
      have hforget : Waits program reactions k (fun m d => own m d ∧ n < m) (· = n) (reactions n)
          [] none := by
        rw [hreactions hc]
        exact .forget hkey rfl .nil
      exact .join hn hc hforget

end Waits

/-! ### One call after the other -/

/-- The calls in turn: the value they leave and what they come to. -/
def Program.performAll (calls : List C) : V × List O :=
  calls.foldl (fun acc c =>
    let after := program.perform c acc.1
    (after.1, acc.2 ++ [after.2])) (program.initial, [])

omit [DecidableEq K] in
lemma Program.performAll_concat (calls : List C) (c : C) :
    program.performAll (calls ++ [c]) =
      ((program.perform c (program.performAll calls).1).1,
        (program.performAll calls).2 ++ [(program.perform c (program.performAll calls).1).2]) := by
  rw [performAll, List.foldl_append]
  rfl

omit [DecidableEq K] in
lemma Program.length_performAll (calls : List C) :
    (program.performAll calls).2.length = calls.length := by
  induction calls using List.reverseRecOn with
  | nil => rfl
  | append_singleton calls c ih => rw [performAll_concat, List.length_append, ih]; simp

/-- The calls of a key that have been performed, and the others with the jobs they wait for. -/
structure KeyInOrder (s : State K C V O) (k : K) (performed waiting : List (C × ℕ)) : Prop where
  calls : s.callsOf program k = performed ++ waiting
  waits : Waits program s.reactions k (s.Own program k) (fun n => s.fulfilled n = true)
    (s.queue program k) waiting (s.pendingTail k)
  value : s.values k = (program.performAll (performed.map Prod.fst)).1
  outcomes : performed.map (fun x => s.outcomes x.2)
    = (program.performAll (performed.map Prod.fst)).2.map some
  waiting : ∀ x ∈ waiting, s.outcomes x.2 = none

/-- The calls of each key are performed in the order they were made. -/
structure InOrder (s : State K C V O) : Prop where
  fresh : ∀ n ≥ s.calls.length, s.fulfilled n = false ∧ s.outcomes n = none
  keys : ∀ k, ∃ performed waiting, KeyInOrder program s k performed waiting

variable {program} {s : State K C V O} {k : K}

lemma State.mem_callsOf {c : C} {n : ℕ} :
    (c, n) ∈ s.callsOf program k ↔ s.Own program k n c := by
  simp [State.callsOf, State.Own, List.mem_zipIdx_iff_getElem?]

lemma State.nodup_callsOf : ((s.callsOf program k).map Prod.snd).Nodup := by
  have hsub : ((s.callsOf program k).map Prod.snd).Sublist (s.calls.zipIdx.map Prod.snd) :=
    List.Sublist.map _ List.filter_sublist
  refine hsub.nodup ?_
  rw [List.zipIdx_map_snd]
  exact List.nodup_range'

omit [DecidableEq K] in
lemma State.Own.lt {n : ℕ} {c : C} (h : s.Own program k n c) : n < s.calls.length :=
  (List.getElem?_eq_some_iff.mp h.1).1

omit [DecidableEq K] in
/-- A ticket is of one key. -/
lemma State.Own.unique {k' : K} {n : ℕ} {c c' : C} (h : s.Own program k n c)
    (h' : s.Own program k' n c') : k = k' := by
  obtain ⟨hc, rfl⟩ := h
  obtain ⟨hc', rfl⟩ := h'
  rw [hc] at hc'
  cases hc'
  rfl

lemma InOrder.empty : InOrder program (State.empty program) := by
  refine ⟨fun n _ => ⟨rfl, rfl⟩, fun k => ⟨[], [], ⟨rfl, .nil, rfl, rfl, ?_⟩⟩⟩
  exact fun x hx => absurd hx List.not_mem_nil

/-- What does not concern a key does not change its order. -/
lemma KeyInOrder.congr {s' : State K C V O} {performed waiting : List (C × ℕ)}
    (h : KeyInOrder program s k performed waiting)
    (hcalls : s'.callsOf program k = s.callsOf program k)
    (hqueue : s'.queue program k = s.queue program k)
    (hreactions : ∀ n c, s.Own program k n c → s'.reactions n = s.reactions n)
    (hfulfilled : ∀ n, s.fulfilled n = true → s'.fulfilled n = true)
    (htail : s'.pendingTail k = s.pendingTail k) (hvalue : s'.values k = s.values k)
    (houtcomes : ∀ n c, s.Own program k n c → s'.outcomes n = s.outcomes n) :
    KeyInOrder program s' k performed waiting := by
  have hown : ∀ n c, s.Own program k n c → s'.Own program k n c := by
    intro n c hn
    rw [← State.mem_callsOf, hcalls]
    exact State.mem_callsOf.mpr hn
  have hsame : ∀ x ∈ performed ++ waiting, s'.outcomes x.2 = s.outcomes x.2 := by
    intro x hx
    rw [← h.calls] at hx
    exact houtcomes x.2 x.1 (State.mem_callsOf.mp hx)
  refine ⟨hcalls.trans h.calls, ?_, hvalue.trans h.value, ?_, fun x hx => ?_⟩
  · rw [hqueue, htail]
    exact h.waits.mono hown hfulfilled hreactions
  · rw [← h.outcomes]
    exact List.map_congr_left fun x hx => hsame x (List.mem_append_left _ hx)
  · rw [hsame x (List.mem_append_right _ hx)]
    exact h.waiting x hx

/-! ### A call -/

section

variable (c : C)

lemma State.calls_call : (s.call program c).calls = s.calls ++ [c] := by
  rw [State.call]
  split <;> rfl

lemma State.fulfilled_call : (s.call program c).fulfilled = s.fulfilled := by
  rw [State.call, State.react]
  split <;> split <;> rfl

lemma State.values_call : (s.call program c).values = s.values := by
  rw [State.call, State.react]
  split <;> split <;> rfl

lemma State.outcomes_call : (s.call program c).outcomes = s.outcomes := by
  rw [State.call, State.react]
  split <;> split <;> rfl

lemma State.jobs_call_free (h : s.pendingTail (program.key c) = none) :
    (s.call program c).jobs = s.jobs ++ [⟨s.calls.length, c, .perform⟩] := by
  rw [State.pendingTail] at h
  rw [State.call, State.react, h]
  split <;> rfl

lemma State.jobs_call_tail {t : ℕ} (h : s.pendingTail (program.key c) = some t) :
    (s.call program c).jobs = s.jobs := by
  rw [State.pendingTail] at h
  rw [State.call, State.react, h]
  split <;> rfl

lemma State.queue_call_free (h : s.pendingTail (program.key c) = none) :
    (s.call program c).queue program k = s.queue program k ++
      if program.key c = k then [⟨s.calls.length, c, .perform⟩] else [] := by
  rw [State.queue, State.jobs_call_free c h, List.filter_append]
  simp only [List.filter_singleton, State.queue, Bool.cond_decide]

lemma State.queue_call_tail {t : ℕ} (h : s.pendingTail (program.key c) = some t) :
    (s.call program c).queue program k = s.queue program k := by
  rw [State.queue, State.jobs_call_tail c h, State.queue]

lemma State.reactions_call_of_ne {m : ℕ} (hm : m ≠ s.calls.length)
    (h : s.pendingTail (program.key c) ≠ some m) :
    (s.call program c).reactions m = s.reactions m := by
  rw [State.pendingTail] at h
  have hreact : ∀ job, (s.react (s.tails (program.key c)) job).reactions m = s.reactions m := by
    intro job
    rw [State.react]
    split
    · rfl
    · rename_i t ht
      refine Function.update_of_ne ?_ _ _
      rintro rfl
      exact h ht
  rw [State.call]
  split
  · exact (Function.update_of_ne hm _ _).trans (hreact _)
  · exact hreact _

lemma State.reactions_call_tail {t : ℕ} (h : s.pendingTail (program.key c) = some t)
    (ht : t ≠ s.calls.length) :
    (s.call program c).reactions t = s.reactions t ++ [⟨s.calls.length, c, .perform⟩] := by
  rw [State.pendingTail] at h
  rw [State.call, State.react, h]
  split
  · exact (Function.update_of_ne ht _ _).trans (Function.update_self _ _ _)
  · exact Function.update_self _ _ _

lemma State.reactions_call_joined (hc : program.joins c = true) :
    (s.call program c).reactions s.calls.length = [⟨s.calls.length, c, .forget⟩] := by
  rw [State.call, if_pos hc]
  exact Function.update_self _ _ _

lemma State.tails_call : (s.call program c).tails =
    if program.joins c then Function.update s.tails (program.key c) (some s.calls.length)
    else s.tails := by
  rw [State.call, State.react]
  split <;> split <;> rfl

lemma State.pendingTail_call_of_ne (hk : k ≠ program.key c) :
    (s.call program c).pendingTail k = s.pendingTail k := by
  rw [State.pendingTail, State.fulfilled_call, State.tails_call]
  split
  · rw [Function.update_of_ne hk]
    rfl
  · rfl

/-- A call that joins is the tail. -/
lemma State.pendingTail_call_self (hfresh : s.fulfilled s.calls.length = false) :
    (s.call program c).pendingTail (program.key c) =
      if program.joins c then some s.calls.length else s.pendingTail (program.key c) := by
  rw [State.pendingTail, State.fulfilled_call, State.tails_call]
  split
  · rw [Function.update_self, Option.filter_some, hfresh]
    rfl
  · rfl

lemma State.callsOf_call : (s.call program c).callsOf program k =
    s.callsOf program k ++ if program.key c = k then [(c, s.calls.length)] else [] := by
  rw [State.callsOf, State.calls_call, List.zipIdx_append, List.filter_append]
  simp only [List.zipIdx_singleton, zero_add, List.filter_singleton, State.callsOf,
    Bool.cond_decide]

lemma State.Own.call {n : ℕ} {d : C} (h : s.Own program k n d) :
    (s.call program c).Own program k n d := by
  refine ⟨?_, h.2⟩
  rw [State.calls_call, List.getElem?_append_left h.lt]
  exact h.1

lemma State.own_call : (s.call program c).Own program (program.key c) s.calls.length c := by
  refine ⟨?_, rfl⟩
  rw [State.calls_call, List.getElem?_append_right (le_refl _), Nat.sub_self]
  rfl

/-- Nothing changes for another key. -/
lemma KeyInOrder.call_of_ne {performed waiting : List (C × ℕ)}
    (h : KeyInOrder program s k performed waiting)
    (htail : ∀ t, s.pendingTail (program.key c) = some t → ∃ d, s.Own program (program.key c) t d)
    (hk : program.key c ≠ k) : KeyInOrder program (s.call program c) k performed waiting := by
  refine h.congr ?_ ?_ (fun n d hn => ?_) (fun n hn => ?_)
    (State.pendingTail_call_of_ne c (Ne.symm hk)) ?_ fun n d hn => ?_
  · rw [State.callsOf_call, if_neg hk, List.append_nil]
  · cases hpending : s.pendingTail (program.key c) with
    | none => rw [State.queue_call_free c hpending, if_neg hk, List.append_nil]
    | some t => exact State.queue_call_tail c hpending
  · refine State.reactions_call_of_ne c (by have := hn.lt; omega) fun hpending => ?_
    obtain ⟨d', hd'⟩ := htail n hpending
    exact hk (hd'.unique hn)
  · rw [State.fulfilled_call]
    exact hn
  · rw [State.values_call]
  · rw [State.outcomes_call]

/-- For its key the call is the last to wait. -/
lemma KeyInOrder.call_self {performed waiting : List (C × ℕ)}
    (h : KeyInOrder program s (program.key c) performed waiting)
    (hfresh : s.fulfilled s.calls.length = false ∧ s.outcomes s.calls.length = none) :
    KeyInOrder program (s.call program c) (program.key c) performed
      (waiting ++ [(c, s.calls.length)]) := by
  have hown : (s.call program c).Own program (program.key c) s.calls.length c := State.own_call c
  have hcalled : ∀ (own : ℕ → C → Prop) (past : ℕ → Prop), own s.calls.length c →
      Waits program (s.call program c).reactions (program.key c) own past
        [⟨s.calls.length, c, .perform⟩] [(c, s.calls.length)]
        (if program.joins c then some s.calls.length else none) :=
    fun own past hn => .called hn rfl (State.reactions_call_joined c)
  refine ⟨?_, ?_, ?_, ?_, ?_⟩
  · rw [State.callsOf_call, if_pos rfl, h.calls, List.append_assoc]
  · rw [State.pendingTail_call_self c hfresh.1, State.fulfilled_call]
    cases hpending : s.pendingTail (program.key c) with
    | none =>
        have hwaits : Waits program (s.call program c).reactions (program.key c)
            ((s.call program c).Own program (program.key c)) (fun n => s.fulfilled n = true)
            (s.queue program (program.key c)) waiting none := by
          rw [← hpending]
          refine h.waits.mono (fun n d => State.Own.call c) (fun _ hn => hn) fun n d hn => ?_
          refine State.reactions_call_of_ne c (by have := hn.lt; omega) ?_
          rw [hpending]
          exact (Option.some_ne_none n).symm
        rw [State.queue_call_free c hpending, if_pos rfl]
        exact hwaits.append_free rfl (hcalled _ _ hown)
    | some t =>
        obtain ⟨d, ht⟩ := h.waits.own_last hpending
        have hlt := ht.lt
        have hwaits := h.waits.append_tail hpending (fun n d => State.Own.call c)
          (fun n d hn hne => State.reactions_call_of_ne c (by have := hn.lt; omega) (by
            rw [hpending]
            exact fun heq => hne (Option.some.inj heq).symm))
          (State.reactions_call_tail c hpending (by omega))
          (hcalled (fun m d => (s.call program c).Own program (program.key c) m d ∧ t < m)
            (· = t) ⟨hown, hlt⟩)
        rw [State.queue_call_tail c hpending]
        cases hc : program.joins c with
        | false => simpa [hc] using hwaits
        | true => simpa [hc] using hwaits
  · rw [State.values_call]
    exact h.value
  · rw [State.outcomes_call]
    exact h.outcomes
  · rw [State.outcomes_call, List.forall_mem_append]
    exact ⟨h.waiting, List.forall_mem_singleton.mpr hfresh.2⟩

/-- **A call keeps the order.** -/
theorem InOrder.call (h : InOrder program s) : InOrder program (s.call program c) := by
  refine ⟨fun n hn => ?_, fun k => ?_⟩
  · rw [State.calls_call, List.length_append, List.length_singleton] at hn
    rw [State.fulfilled_call, State.outcomes_call]
    exact h.fresh n (by omega)
  · obtain ⟨performed, waiting, hkey⟩ := h.keys k
    by_cases hk : program.key c = k
    · subst hk
      exact ⟨performed, _, hkey.call_self c (h.fresh _ (le_refl _))⟩
    · obtain ⟨performed', waiting', hself⟩ := h.keys (program.key c)
      exact ⟨performed, waiting, hkey.call_of_ne c (fun t ht => hself.waits.own_last ht) hk⟩

end

/-! ### A job -/

section

variable {n : ℕ} {c : C} {stage : Stage} {rest : List (Job C)}

lemma State.queue_cons_self (hjobs : s.jobs = ⟨n, c, stage⟩ :: rest) :
    s.queue program (program.key c)
      = ⟨n, c, stage⟩ :: rest.filter fun job => program.key job.call = program.key c := by
  rw [State.queue, hjobs]
  exact List.filter_cons_of_pos (decide_eq_true rfl)

lemma State.queue_cons_of_ne (hjobs : s.jobs = ⟨n, c, stage⟩ :: rest) (hk : program.key c ≠ k) :
    s.queue program k = rest.filter fun job => program.key job.call = k := by
  rw [State.queue, hjobs]
  exact List.filter_cons_of_neg (by simpa using hk)

omit [DecidableEq K] in
/-- The first job of a key that performs a call performs the first that waits. -/
lemma Waits.perform {reactions : ℕ → List (Job C)} {own : ℕ → C → Prop} {past : ℕ → Prop}
    {waiting : List (C × ℕ)} {last : Option ℕ}
    (h : Waits program reactions k own past (⟨n, c, .perform⟩ :: rest) waiting last) :
    own n c ∧ ∃ waiting', waiting = (c, n) :: waiting' ∧
      Waits program reactions k own past
        (rest ++ if program.joins c then [⟨n, c, .settle⟩] else []) waiting' last := by
  cases h with
  | watch hown hc h =>
      refine ⟨hown, _, rfl, ?_⟩
      rw [hc, if_neg Bool.false_ne_true, List.append_nil]
      exact h
  | join hown hc h =>
      refine ⟨hown, _, rfl, ?_⟩
      rw [hc, if_pos rfl, List.nil_append]
      exact .settle hown h

lemma State.next_perform (hjobs : s.jobs = ⟨n, c, .perform⟩ :: rest) : s.next program =
    { s with
      jobs := rest ++ if program.joins c then [⟨n, c, .settle⟩] else []
      values := Function.update s.values (program.key c)
        (program.perform c (s.values (program.key c))).1
      outcomes := Function.update s.outcomes n
        (some (program.perform c (s.values (program.key c))).2) } := by
  simp only [State.next, hjobs]

variable (program) in
/-- The jobs of a key after one of a call: the promise of the call is to be settled. -/
lemma State.queue_perform (hjobs : s.jobs = ⟨n, c, .perform⟩ :: rest) :
    (s.next program).queue program k = (rest.filter fun job => program.key job.call = k) ++
      if program.key c = k then (if program.joins c then [⟨n, c, .settle⟩] else []) else [] := by
  rw [State.next_perform hjobs, State.queue, List.filter_append]
  congr 1
  split <;> simp [List.filter_singleton, Bool.cond_decide]

/-- The first call that waits is performed. -/
lemma KeyInOrder.perform_self {performed waiting : List (C × ℕ)}
    (h : KeyInOrder program s (program.key c) performed ((c, n) :: waiting))
    (hjobs : s.jobs = ⟨n, c, .perform⟩ :: rest)
    (hrest : Waits program s.reactions (program.key c) (s.Own program (program.key c))
      (fun m => s.fulfilled m = true)
      ((rest.filter fun job => program.key job.call = program.key c) ++
        if program.joins c then [⟨n, c, .settle⟩] else []) waiting
      (s.pendingTail (program.key c))) :
    KeyInOrder program (s.next program) (program.key c) (performed ++ [(c, n)]) waiting := by
  have hdistinct : ∀ x ∈ performed ++ waiting, x.2 ≠ n := by
    have hnodup : ((s.callsOf program (program.key c)).map Prod.snd).Nodup := State.nodup_callsOf
    rw [h.calls, List.map_append, List.map_cons, List.nodup_middle, ← List.map_append] at hnodup
    rintro x hx rfl
    exact (List.nodup_cons.mp hnodup).1 (List.mem_map.mpr ⟨x, hx, rfl⟩)
  have hqueue := State.queue_perform (k := program.key c) program hjobs
  rw [if_pos rfl] at hqueue
  refine ⟨?_, ?_, ?_, ?_, fun x hx => ?_⟩
  · rw [State.next_perform hjobs, List.append_assoc]
    exact h.calls
  · rw [hqueue, State.next_perform hjobs]
    exact hrest
  · rw [List.map_append, List.map_singleton, Program.performAll_concat, ← h.value,
      State.next_perform hjobs]
    exact Function.update_self _ _ _
  · rw [List.map_append, List.map_append, List.map_singleton, List.map_singleton,
      Program.performAll_concat, ← h.value, List.map_append, ← h.outcomes, List.map_singleton,
      State.next_perform hjobs]
    congr 1
    · refine List.map_congr_left fun x hx => Function.update_of_ne ?_ _ _
      exact hdistinct x (List.mem_append_left _ hx)
    · exact congrArg (fun o => [o]) (Function.update_self _ _ _)
  · rw [← h.waiting x (List.mem_cons_of_mem _ hx), State.next_perform hjobs]
    exact Function.update_of_ne (hdistinct x (List.mem_append_right _ hx)) _ _

lemma InOrder.perform (h : InOrder program s) (hjobs : s.jobs = ⟨n, c, .perform⟩ :: rest) :
    InOrder program (s.next program) := by
  obtain ⟨performed, waiting, hself⟩ := h.keys (program.key c)
  have hwaits := hself.waits
  rw [State.queue_cons_self hjobs] at hwaits
  obtain ⟨hown, waiting, rfl, hrest⟩ := hwaits.perform
  refine ⟨fun m hm => ?_, fun k => ?_⟩
  · rw [State.next_perform hjobs] at hm ⊢
    have hne : m ≠ n := fun heq => absurd hown.lt (Nat.not_lt.mpr (heq ▸ hm))
    exact ⟨(h.fresh m hm).1, (Function.update_of_ne hne _ _).trans (h.fresh m hm).2⟩
  · by_cases hk : program.key c = k
    · subst hk
      exact ⟨_, waiting, hself.perform_self hjobs hrest⟩
    · obtain ⟨performed', waiting', hkey⟩ := h.keys k
      have hqueue := State.queue_perform (k := k) program hjobs
      rw [if_neg hk, List.append_nil, ← State.queue_cons_of_ne hjobs hk] at hqueue
      rw [State.next_perform hjobs] at hqueue ⊢
      refine ⟨performed', waiting', hkey.congr rfl hqueue (fun _ _ _ => rfl) (fun _ hm => hm) rfl
        (Function.update_of_ne (Ne.symm hk) _ _) fun m d hm => Function.update_of_ne ?_ _ _⟩
      rintro rfl
      exact hk (hown.unique hm)

lemma State.next_settle (hjobs : s.jobs = ⟨n, c, .settle⟩ :: rest) : s.next program =
    { s with
      jobs := rest ++ s.reactions n
      reactions := Function.update s.reactions n []
      fulfilled := Function.update s.fulfilled n true } := by
  simp only [State.next, hjobs]

omit [DecidableEq K] in
/-- A promise that is to be settled is the last job of its key. -/
lemma Waits.settled {reactions : ℕ → List (Job C)} {own : ℕ → C → Prop} {past : ℕ → Prop}
    {waiting : List (C × ℕ)} {last : Option ℕ}
    (h : Waits program reactions k own past (⟨n, c, .settle⟩ :: rest) waiting last) :
    own n c ∧ rest = [] ∧ ∃ inner, last = inner.or (some n) ∧
      Waits program reactions k (fun m d => own m d ∧ n < m) (· = n) (reactions n) waiting
        inner := by
  cases h with
  | settle hown h => exact ⟨hown, rfl, _, rfl, h⟩

omit [DecidableEq K] in
lemma State.pendingTail_eq_some {t : ℕ} :
    s.pendingTail k = some t ↔ s.tails k = some t ∧ s.fulfilled t = false := by
  simp [State.pendingTail, Option.filter_eq_some_iff]

variable (program) in
/-- What is left after the promise is what its reactions leave. -/
lemma State.pendingTail_settle (hjobs : s.jobs = ⟨n, c, .settle⟩ :: rest) {inner : Option ℕ}
    (hlast : s.pendingTail k = inner.or (some n)) (hinner : inner ≠ some n) :
    (s.next program).pendingTail k = inner := by
  rw [State.next_settle hjobs]
  cases inner with
  | none =>
      obtain ⟨htail, -⟩ := State.pendingTail_eq_some.mp hlast
      simp [State.pendingTail, htail]
  | some t =>
      obtain ⟨htail, hpending⟩ := State.pendingTail_eq_some.mp hlast
      refine State.pendingTail_eq_some.mpr ⟨htail, ?_⟩
      exact (Function.update_of_ne (fun heq => hinner (congrArg some heq)) _ _).trans hpending

variable (program) in
lemma State.pendingTail_settle_of_ne (hjobs : s.jobs = ⟨n, c, .settle⟩ :: rest)
    (hn : s.pendingTail k ≠ some n) : (s.next program).pendingTail k = s.pendingTail k := by
  rw [State.next_settle hjobs]
  ext t
  rw [State.pendingTail_eq_some, State.pendingTail_eq_some]
  by_cases ht : t = n
  · subst ht
    rw [ne_eq, State.pendingTail_eq_some] at hn
    exact iff_of_false (by simp) hn
  · simp only [Function.update_of_ne ht]

lemma InOrder.settle (h : InOrder program s) (hjobs : s.jobs = ⟨n, c, .settle⟩ :: rest) :
    InOrder program (s.next program) := by
  obtain ⟨performed, waiting, hself⟩ := h.keys (program.key c)
  have hwaits := hself.waits
  rw [State.queue_cons_self hjobs] at hwaits
  obtain ⟨hown, hrest, inner, hlast, hinner⟩ := hwaits.settled
  have hreactions : ∀ job ∈ s.reactions n, program.key job.call = program.key c :=
    hinner.key fun m d hm => hm.1.2
  refine ⟨fun m hm => ?_, fun k => ?_⟩
  · rw [State.next_settle hjobs] at hm ⊢
    have hne : m ≠ n := fun heq => absurd hown.lt (Nat.not_lt.mpr (heq ▸ hm))
    exact ⟨(Function.update_of_ne hne _ _).trans (h.fresh m hm).1, (h.fresh m hm).2⟩
  -- the reactions of the call that settled become its key's queue; the other keys keep theirs
  · by_cases hk : program.key c = k
    · subst hk
      have hne : inner ≠ some n := by
        intro heq
        obtain ⟨d, -, hlt⟩ := hinner.own_last heq
        exact absurd hlt (lt_irrefl n)
      have htail := State.pendingTail_settle program hjobs hlast hne
      have hqueue : (s.next program).queue program (program.key c) = s.reactions n := by
        rw [State.next_settle hjobs, State.queue, List.filter_append, hrest, List.nil_append]
        exact List.filter_eq_self.mpr fun job hjob => decide_eq_true (hreactions job hjob)
      refine ⟨performed, waiting, ?_, ?_, ?_, ?_, ?_⟩
      · rw [State.next_settle hjobs]
        exact hself.calls
      · rw [htail, hqueue, State.next_settle hjobs]
        refine hinner.mono (fun m d hm => hm.1) (fun m hm => ?_) fun m d hm => ?_
        · rw [hm]
          exact Function.update_self _ _ _
        · exact Function.update_of_ne (Nat.ne_of_gt hm.2) _ _
      · rw [State.next_settle hjobs]
        exact hself.value
      · rw [State.next_settle hjobs]
        exact hself.outcomes
      · rw [State.next_settle hjobs]
        exact hself.waiting
    · obtain ⟨performed', waiting', hkey⟩ := h.keys k
      have htail : (s.next program).pendingTail k = s.pendingTail k := by
        refine State.pendingTail_settle_of_ne program hjobs fun hpending => ?_
        obtain ⟨d, hd⟩ := hkey.waits.own_last hpending
        exact hk (hown.unique hd)
      have hqueue : (s.next program).queue program k = s.queue program k := by
        rw [State.next_settle hjobs, State.queue, List.filter_append,
          State.queue_cons_of_ne hjobs hk]
        refine (congrArg _ (List.filter_eq_nil_iff.mpr fun job hjob => ?_)).trans
          (List.append_nil _)
        simpa [hreactions job hjob] using hk
      rw [State.next_settle hjobs] at htail hqueue ⊢
      refine ⟨performed', waiting', hkey.congr rfl hqueue (fun m d hm => ?_) (fun m hm => ?_) htail
        rfl fun _ _ _ => rfl⟩
      · refine Function.update_of_ne ?_ _ _
        rintro rfl
        exact hk (hown.unique hm)
      · by_cases hmn : m = n
        · rw [hmn]
          exact Function.update_self _ _ _
        · exact (Function.update_of_ne hmn _ _).trans hm

lemma State.next_forget (hjobs : s.jobs = ⟨n, c, .forget⟩ :: rest) : s.next program =
    { s with
      jobs := rest
      tails := if s.tails (program.key c) = some n then
        Function.update s.tails (program.key c) none else s.tails } := by
  simp only [State.next, hjobs]

omit [DecidableEq K] in
lemma Waits.forgotten {reactions : ℕ → List (Job C)} {own : ℕ → C → Prop} {past : ℕ → Prop}
    {waiting : List (C × ℕ)} {last : Option ℕ}
    (h : Waits program reactions k own past (⟨n, c, .forget⟩ :: rest) waiting last) :
    past n ∧ Waits program reactions k own past rest waiting last := by
  cases h with
  | forget _ hpast h => exact ⟨hpast, h⟩

variable (program) in
/-- Only a fulfilled tail is removed. -/
lemma State.pendingTail_forget (hjobs : s.jobs = ⟨n, c, .forget⟩ :: rest)
    (hn : s.fulfilled n = true) : (s.next program).pendingTail k = s.pendingTail k := by
  rw [State.next_forget hjobs]
  by_cases htail : s.tails (program.key c) = some n
  · by_cases hk : k = program.key c
    · subst hk
      simp [State.pendingTail, htail, Option.filter_some, hn]
    · simp [State.pendingTail, htail, Function.update_of_ne hk]
  · simp [State.pendingTail, htail]

lemma InOrder.forget (h : InOrder program s) (hjobs : s.jobs = ⟨n, c, .forget⟩ :: rest) :
    InOrder program (s.next program) := by
  obtain ⟨performed, waiting, hself⟩ := h.keys (program.key c)
  have hwaits := hself.waits
  rw [State.queue_cons_self hjobs] at hwaits
  obtain ⟨hpast, hrest⟩ := hwaits.forgotten
  refine ⟨fun m hm => ?_, fun k => ?_⟩
  · rw [State.next_forget hjobs] at hm ⊢
    exact h.fresh m hm
  · have htail := State.pendingTail_forget (k := k) program hjobs hpast
    obtain ⟨performed', waiting', hkey⟩ := h.keys k
    by_cases hk : program.key c = k
    · subst hk
      have hqueue : (s.next program).queue program (program.key c)
          = rest.filter fun job => program.key job.call = program.key c := by
        rw [State.next_forget hjobs, State.queue]
      rw [State.next_forget hjobs] at htail hqueue ⊢
      refine ⟨performed, waiting, hself.calls, ?_, hself.value, hself.outcomes, hself.waiting⟩
      rw [hqueue, htail]
      exact hrest
    · have hqueue : (s.next program).queue program k = s.queue program k := by
        rw [State.next_forget hjobs, State.queue, State.queue_cons_of_ne hjobs hk]
      rw [State.next_forget hjobs] at htail hqueue ⊢
      exact ⟨performed', waiting', hkey.congr rfl hqueue (fun _ _ _ => rfl) (fun _ hm => hm) htail
        rfl fun _ _ _ => rfl⟩

/-- **A job keeps the order.** -/
theorem InOrder.next (h : InOrder program s) : InOrder program (s.next program) := by
  cases hjobs : s.jobs with
  | nil =>
      have hnext : s.next program = s := by simp only [State.next, hjobs]
      rw [hnext]
      exact h
  | cons job rest =>
      obtain ⟨n, c, stage⟩ := job
      cases stage with
      | perform => exact h.perform hjobs
      | settle => exact h.settle hjobs
      | forget => exact h.forget hjobs

end

/-- A call that is about to be performed has not come to anything. -/
lemma InOrder.outcome_eq_none (h : InOrder program s) {n : ℕ} {c : C} {rest : List (Job C)}
    (hjobs : s.jobs = ⟨n, c, .perform⟩ :: rest) : s.outcomes n = none := by
  obtain ⟨performed, waiting, hself⟩ := h.keys (program.key c)
  have hwaits := hself.waits
  rw [State.queue_cons_self hjobs] at hwaits
  obtain ⟨-, waiting, rfl, -⟩ := hwaits.perform
  exact hself.waiting (c, n) List.mem_cons_self

/-! ### The jobs come to an end -/

/-- A call may still be followed by the settling of its promise. -/
def Job.weight (job : Job C) : ℕ :=
  match job.stage with
  | .perform => 2
  | _ => 1

/-- What is left to do when nothing more is called. -/
def State.measure (s : State K C V O) : ℕ :=
  (s.jobs.map Job.weight).sum +
    ∑ n ∈ Finset.range s.calls.length, ((s.reactions n).map Job.weight).sum

omit [DecidableEq K] in
/-- Its reactions are among the jobs when a promise is settled. -/
lemma sum_reactions_update (reactions : ℕ → List (Job C)) {bound n : ℕ} (hn : n < bound) :
    ∑ m ∈ Finset.range bound, ((Function.update reactions n [] m).map Job.weight).sum
      + ((reactions n).map Job.weight).sum
    = ∑ m ∈ Finset.range bound, ((reactions m).map Job.weight).sum := by
  have hmem : n ∈ Finset.range bound := Finset.mem_range.mpr hn
  rw [← Finset.sum_erase_add _ _ hmem, ← Finset.sum_erase_add _ _ hmem, Function.update_self]
  have hrest : ∑ m ∈ (Finset.range bound).erase n,
      ((Function.update reactions n [] m).map Job.weight).sum
      = ∑ m ∈ (Finset.range bound).erase n, ((reactions m).map Job.weight).sum := by
    refine Finset.sum_congr rfl fun m hm => ?_
    rw [Function.update_of_ne (Finset.ne_of_mem_erase hm)]
  rw [hrest]
  simp

/-- **A job leaves less to do.** -/
theorem State.measure_next (h : InOrder program s) (hjobs : s.jobs ≠ []) :
    (s.next program).measure < s.measure := by
  cases hcons : s.jobs with
  | nil => exact absurd hcons hjobs
  | cons job rest =>
      obtain ⟨n, c, stage⟩ := job
      have hbefore : s.measure = (Job.weight ⟨n, c, stage⟩ + (rest.map Job.weight).sum)
          + ∑ m ∈ Finset.range s.calls.length, ((s.reactions m).map Job.weight).sum := by
        rw [State.measure, hcons, List.map_cons, List.sum_cons]
      cases stage with
      | perform =>
          rw [hbefore, State.next_perform hcons, State.measure]
          split
          · simp [Job.weight]
            omega
          · simp [Job.weight]
      | forget =>
          rw [hbefore, State.next_forget hcons, State.measure]
          simp [Job.weight]
      | settle =>
          obtain ⟨performed, waiting, hself⟩ := h.keys (program.key c)
          have hwaits := hself.waits
          rw [State.queue_cons_self hcons] at hwaits
          have hsum := sum_reactions_update s.reactions hwaits.settled.1.lt
          rw [hbefore, State.next_settle hcons, State.measure]
          simp only [List.map_append, List.sum_append, Job.weight]
          omega

/-! ### What has been called has been performed -/

omit [DecidableEq K] in
lemma Waits.waiting_eq_nil {reactions : ℕ → List (Job C)} {own : ℕ → C → Prop}
    {past : ℕ → Prop} {jobs : List (Job C)} {waiting : List (C × ℕ)} {last : Option ℕ}
    (h : Waits program reactions k own past jobs waiting last) (hjobs : jobs = []) :
    waiting = [] := by
  cases h with
  | nil => rfl
  | _ => cases hjobs

/-- Without a job nothing waits: the calls of each key come to what they come to one after the
other. -/
theorem InOrder.of_no_jobs (h : InOrder program s) (hjobs : s.jobs = []) (k : K) :
    s.values k = (program.performAll ((s.callsOf program k).map Prod.fst)).1 ∧
      (s.callsOf program k).map (fun x => s.outcomes x.2)
        = (program.performAll ((s.callsOf program k).map Prod.fst)).2.map some := by
  obtain ⟨performed, waiting, hkey⟩ := h.keys k
  have hqueue : s.queue program k = [] := by
    rw [State.queue, hjobs, List.filter_nil]
  have hcalls := hkey.calls
  rw [hkey.waits.waiting_eq_nil hqueue, List.append_nil] at hcalls
  rw [hcalls]
  exact ⟨hkey.value, hkey.outcomes⟩

variable (program) in
omit [DecidableEq K] in
/-- What the first calls come to does not depend on those made later. -/
lemma Program.performAll_append (calls later : List C) :
    ∃ outcomes, (program.performAll (calls ++ later)).2
      = (program.performAll calls).2 ++ outcomes := by
  induction later using List.reverseRecOn with
  | nil => exact ⟨[], by rw [List.append_nil, List.append_nil]⟩
  | append_singleton later c ih =>
      obtain ⟨outcomes, h⟩ := ih
      rw [← List.append_assoc, performAll_concat, h, List.append_assoc]
      exact ⟨_, rfl⟩

variable (program) in
omit [DecidableEq K] in
/-- A call meets the value that the calls before it leave. -/
lemma Program.performAll_getElem? {calls : List C} {i : ℕ} {c : C} (hc : calls[i]? = some c) :
    (program.performAll calls).2[i]? = some (program.perform c (program.performAll
        (calls.take i)).1).2 ∧
      (program.performAll (calls.take (i + 1))).1
        = (program.perform c (program.performAll (calls.take i)).1).1 := by
  obtain ⟨hi, rfl⟩ := List.getElem?_eq_some_iff.mp hc
  have htake : calls.take (i + 1) = calls.take i ++ [calls[i]] := by
    rw [List.take_append_getElem]
  obtain ⟨outcomes, happend⟩ := program.performAll_append (calls.take (i + 1)) (calls.drop (i + 1))
  rw [List.take_append_drop, htake, performAll_concat, List.append_assoc] at happend
  have hlength := program.length_performAll (calls.take i)
  rw [List.length_take, Nat.min_eq_left hi.le] at hlength
  refine ⟨?_, ?_⟩
  · rw [happend, List.getElem?_append_right hlength.le, hlength, Nat.sub_self]
    rfl
  · rw [htake, performAll_concat]

/-- What has come of a call so far is what comes of it one after the other. -/
theorem InOrder.outcome (h : InOrder program s) {i n : ℕ} {c : C} {o : O}
    (hcall : (s.callsOf program k)[i]? = some (c, n)) (ho : s.outcomes n = some o) :
    (program.performAll ((s.callsOf program k).map Prod.fst)).2[i]? = some o := by
  obtain ⟨performed, waiting, hkey⟩ := h.keys k
  rw [hkey.calls] at hcall ⊢
  rcases Nat.lt_or_ge i performed.length with hi | hi
  · rw [List.getElem?_append_left hi] at hcall
    obtain ⟨outcomes, happend⟩ := Program.performAll_append program (performed.map Prod.fst)
      (waiting.map Prod.fst)
    have hlength := Program.length_performAll program (performed.map Prod.fst)
    rw [List.length_map] at hlength
    rw [List.map_append, happend, List.getElem?_append_left (by omega)]
    have hi' := congrArg (fun l : List (Option O) => l[i]?) hkey.outcomes
    simp only [List.getElem?_map, hcall, Option.map_some, ho] at hi'
    obtain ⟨o', ho', heq⟩ := Option.map_eq_some_iff.mp hi'.symm
    rw [ho', heq]
  · rw [List.getElem?_append_right hi] at hcall
    have hnone := hkey.waiting _ (List.mem_of_getElem? hcall)
    rw [ho] at hnone
    cases hnone

end

end PromiseChain
