import Qaraa.Library.Chronicle
import Qaraa.Sdk.PythonStream

/-!
The runs of the snapshot stream of the Python client.

* `Move`, `StreamStep`, `step_streamStep`: all that a step can do.
* `Follows`, `Informed`: the order of what is asked for and returned.
* `Iteration.Bounded`: the attempts of a call.
* `Sequential`, `Kept`, `Owned`: the sockets of a stream that is iterated by one call at a time.
* `snapshot_stream`: **snapshots come in order, calls give up, nothing comes after `aclose`, and a
  stream that is iterated by one call at a time loses no socket**.
-/

namespace Qaraa.Sdk.Python

open Chronicle

/-! ### Steps -/

variable {Body : Type}

/-- The snapshot that a call ends with. -/
def Ending.snapshot : Ending Body → Option (StreamSnapshot Body)
  | .returned snapshot => some snapshot
  | _ => none

namespace Place

/-- The call has not ended. -/
def isActive : Place Body → Bool
  | .ended _ => false
  | _ => true

/-- The snapshot that was returned. -/
def snapshot : Place Body → Option (StreamSnapshot Body)
  | .ended ending => ending.snapshot
  | _ => none

lemma snapshot_of_active {place : Place Body} (h : place.isActive = true) :
    place.snapshot = none := by
  cases place with
  | ended ending => cases h
  | _ => rfl

end Place

/-- What a call does when it goes on: the fields of the stream, and the call. -/
inductive Move (s : QaraaSnapshotStream Body) (call : Iteration Body) :
    QaraaSnapshotStream Body → Iteration Body → Prop
  | ended (ending : Ending Body) (nothing : ending.snapshot = none) :
      Move s call s { call with place := .ended ending }
  | asked (starting : call.place = .starting) (opened : s.isClosed = false)
      (free : s.socket = none) :
      Move s call { s with history := s.history ++ [.asked s.revision] }
        { call with
          attempts := call.attempts + 1
          place := .connecting s.generation }
  | reading (socket : ℕ) : Move s call s { call with place := .reading socket }
  | refused : Move s call { s with sockets := s.sockets ++ [true] } { call with place := .refusing }
  | connected (generation : ℕ) (connecting : call.place = .connecting generation)
      (opened : s.isClosed = false) :
      Move s call
        { s with
          socket := some s.sockets.length
          sockets := s.sockets ++ [false] }
        { call with place := .reading s.sockets.length }
  | returned (snapshot : StreamSnapshot Body) (opened : s.isClosed = false)
      (newer : s.revision < snapshot.revision) :
      Move s call
        { s with
          revision := snapshot.revision
          history := s.history ++ [.returned snapshot] }
        { call with place := .ended (.returned snapshot) }
  | dropping (socket : ℕ) (current : s.socket = some socket) :
      Move s call (s.closeSocket (some socket)) { call with place := .dropping }
  | discarding :
      Move s call ({ s with socket := none }.closeSocket s.socket)
        { call with place := .discarding }
  | freed (dropping : call.place = .dropping) :
      Move s call { s with socket := none } { call with place := .ended .raised }
  | dropped (dropping : call.place = .dropping) (inside : Bool)
      (fewer : call.failures < delays.length) :
      Move s call { s with socket := none } { call with place := .delaying inside }
  | delaying (inside : Bool) (fewer : call.failures < delays.length) :
      Move s call s { call with place := .delaying inside }
  | slept (inside : Bool) (delaying : call.place = .delaying inside) :
      Move s call s { call with failures := call.failures + 1, place := .starting }

/-- All that a step can do. -/
inductive StreamStep (s : QaraaSnapshotStream Body) :
    StreamAction Body → QaraaSnapshotStream Body → Prop
  | same (action : StreamAction Body) : StreamStep s action s
  | called : StreamStep s .anext { s with iterations := s.iterations ++ [⟨0, 0, .starting⟩] }
  | clientClosed : StreamStep s .closeClient { s with clientClosed := true }
  | closed (opened : s.closed = false) :
      StreamStep s .aclose
        ({ s with closed := true, generation := s.generation + 1, socket := none }.closeSocket
          s.socket)
  | resumed (i : ℕ) (event : Resumption Body) (call : Iteration Body)
      (after : QaraaSnapshotStream Body) (moved : Iteration Body)
      (here : s.iterations[i]? = some call) (active : call.place.isActive = true)
      (move : Move s call after moved) : StreamStep s (.resume i event) (after.put i moved)

namespace QaraaSnapshotStream

variable {options : StreamOptions} {s : QaraaSnapshotStream Body} {i : ℕ} {call : Iteration Body}
  {event : Resumption Body}

section

variable (here : s.iterations[i]? = some call) (active : call.place.isActive = true)
include here active

lemma streamStep_end {ending : Ending Body} (nothing : ending.snapshot = none) :
    StreamStep s (.resume i event) (s.goTo i call (.ended ending)) :=
  .resumed i _ call s _ here active (.ended ending nothing)

lemma streamStep_next (starting : call.place = .starting) :
    StreamStep s (.resume i event) (s.next i call) := by
  rw [next]
  split
  · exact streamStep_end here active rfl
  · rename_i hopen
    split
    · rename_i hfree
      exact .resumed i _ call _ _ here active (.asked starting (Bool.not_eq_true _ ▸ hopen) hfree)
    · exact .resumed i _ call _ _ here active (.reading _)

lemma streamStep_connected {generation : ℕ} (connecting : call.place = .connecting generation) :
    StreamStep s (.resume i event) (s.connected i call generation) := by
  rw [connected]
  split
  · exact .resumed i _ call _ _ here active .refused
  · rename_i hopen
    have hopened : s.isClosed = false := by
      simp only [Bool.or_eq_true, not_or, Bool.not_eq_true] at hopen
      exact hopen.1
    exact .resumed i _ call _ _ here active (.connected generation connecting hopened)

lemma streamStep_failed (inside : Bool) :
    StreamStep s (.resume i event) (s.failed i call inside) := by
  rw [failed]
  split
  · exact streamStep_end here active rfl
  · rename_i hfewer
    exact .resumed i _ call _ _ here active (.delaying inside (Nat.lt_of_not_le hfewer))

lemma streamStep_caught (error : Raised) :
    StreamStep s (.resume i event) (s.caught i call error) := by
  cases error with
  | stop => exact streamStep_end here active rfl
  | known => exact streamStep_end here active rfl
  | other =>
      rw [caught]
      split
      · exact streamStep_end here active rfl
      · exact .resumed i _ call _ _ here active .discarding

lemma streamStep_read (frame : StreamFrame Body) :
    StreamStep s (.resume i event) (s.read options i call frame) := by
  rw [read.eq_def]
  split
  · exact streamStep_end here active rfl
  · rename_i hopen
    split
    · exact streamStep_caught here active _
    · split
      · rename_i hnewer
        exact .resumed i _ call _ _ here active
          (.returned _ (Bool.not_eq_true _ ▸ hopen) hnewer.2)
      · exact .same _
    · exact .same _

lemma streamStep_exhausted : StreamStep s (.resume i event) (s.exhausted i call) := by
  rw [exhausted]
  split
  · exact streamStep_caught here active _
  · rename_i hsocket
    exact .resumed i _ call _ _ here active (.dropping _ hsocket)

lemma streamStep_slept {inside : Bool} (delaying : call.place = .delaying inside) :
    StreamStep s (.resume i event) (s.slept i call) := by
  rw [slept]
  split
  · exact streamStep_end here active rfl
  · exact .resumed i _ call _ _ here active (.slept inside delaying)

lemma streamStep_dropped (dropping : call.place = .dropping) :
    StreamStep s (.resume i event) ({ s with socket := none }.failed i call true) := by
  rw [failed]
  split
  · exact .resumed i _ call _ _ here active (.freed dropping)
  · rename_i hfewer
    exact .resumed i _ call _ _ here active (.dropped dropping true (Nat.lt_of_not_le hfewer))

end

lemma streamStep_resume (here : s.iterations[i]? = some call) (event : Resumption Body) :
    StreamStep s (.resume i event) (s.resume options i call event) := by
  by_cases hactive : call.place.isActive = true
  · rw [resume.eq_def]
    split
    · exact .same _
    · exact streamStep_end here hactive rfl
    · exact streamStep_next here hactive ‹_›
    · exact streamStep_connected here hactive ‹_›
    · exact streamStep_end here hactive rfl
    · exact streamStep_failed here hactive _
    · exact streamStep_end here hactive rfl
    · exact streamStep_end here hactive rfl
    · exact streamStep_read here hactive _
    · exact streamStep_exhausted here hactive
    · exact streamStep_caught here hactive _
    · exact streamStep_dropped here hactive ‹_›
    · exact streamStep_caught here hactive _
    · exact streamStep_failed here hactive _
    · exact streamStep_failed here hactive _
    · exact streamStep_slept here hactive ‹_›
    · exact streamStep_caught here hactive _
    · exact streamStep_end here hactive rfl
    · exact streamStep_end here hactive rfl
    · exact .same _
  · rw [resume.eq_def]
    cases hplace : call.place with
    | ended ending => exact .same _
    | _ => exact (hactive (by rw [hplace]; rfl)).elim

lemma step_streamStep (options : StreamOptions) (s : QaraaSnapshotStream Body)
    (action : StreamAction Body) : StreamStep s action (s.step options action) := by
  cases action with
  | anext => exact .called
  | aclose =>
      rw [step, aclose]
      split
      · exact .same _
      · rename_i hopen
        exact .closed (Bool.not_eq_true _ ▸ hopen)
  | closeClient => exact .clientClosed
  | resume i event =>
      rw [step]
      split
      · exact .same _
      · rename_i call hcall
        exact streamStep_resume hcall event

lemma run_concat (options : StreamOptions) (s : QaraaSnapshotStream Body)
    (actions : List (StreamAction Body)) (action : StreamAction Body) :
    s.run options (actions ++ [action]) = (s.run options actions).step options action :=
  List.foldl_concat _ _ _ _

end QaraaSnapshotStream

/-! ### The order of the snapshots -/

namespace StreamEvent

/-- The revision that is known after an event. -/
def known (revision : ℕ) : StreamEvent Body → ℕ
  | .asked _ => revision
  | .returned snapshot => snapshot.revision

/-- The event fits what is known before it: a connection is asked for what comes after it, and a
snapshot is newer. -/
def Fits (revision : ℕ) : StreamEvent Body → Prop
  | .asked last => last = revision
  | .returned snapshot => revision < snapshot.revision

/-- The snapshot that is returned. -/
def snapshot : StreamEvent Body → Option (StreamSnapshot Body)
  | .asked _ => none
  | .returned snapshot => some snapshot

end StreamEvent

/-- Each event fits what is known after those before it. -/
def Follows (revision : ℕ) : List (StreamEvent Body) → Prop
  | [] => True
  | event :: rest => event.Fits revision ∧ Follows (event.known revision) rest

/-- The revision of the last snapshot. -/
def lastRevision (revision : ℕ) (history : List (StreamEvent Body)) : ℕ :=
  history.foldl StreamEvent.known revision

lemma follows_concat {revision : ℕ} {history : List (StreamEvent Body)} {event : StreamEvent Body} :
    Follows revision (history ++ [event])
      ↔ Follows revision history ∧ event.Fits (lastRevision revision history) := by
  induction history generalizing revision with
  | nil => simp [Follows, lastRevision]
  | cons first rest ih =>
      rw [List.cons_append, Follows, Follows, ih, and_assoc]
      rfl

lemma lastRevision_concat (revision : ℕ) (history : List (StreamEvent Body))
    (event : StreamEvent Body) :
    lastRevision revision (history ++ [event]) = event.known (lastRevision revision history) :=
  List.foldl_concat _ _ _ _

/-- What a stream knows of its history, and what its calls have returned of it. -/
structure Informed (options : StreamOptions) (s : QaraaSnapshotStream Body) : Prop where
  revision : s.revision = lastRevision options.revision s.history
  follows : Follows options.revision s.history
  returned : (s.iterations.filterMap fun call => call.place.snapshot).Perm
    (s.history.filterMap StreamEvent.snapshot)

lemma filterMap_set_perm {α β : Type} {f : α → Option β} {l : List α} {i : ℕ} {a : α} (b : α)
    (h : l[i]? = some a) (hnone : f a = none) :
    ((l.set i b).filterMap f).Perm (l.filterMap f ++ (f b).toList) := by
  obtain ⟨hi, rfl⟩ := List.getElem?_eq_some_iff.mp h
  have hsplit : l.filterMap f = (l.take i).filterMap f ++ (l.drop (i + 1)).filterMap f := by
    conv_lhs => rw [← List.take_append_drop i l, List.drop_eq_getElem_cons hi]
    rw [List.filterMap_append, List.filterMap_cons, hnone]
  rw [hsplit, List.set_eq_take_append_cons_drop, if_pos hi, List.filterMap_append,
    List.filterMap_cons, List.append_assoc]
  refine List.Perm.append_left _ ?_
  cases f b with
  | none => simp
  | some x => exact @List.perm_append_comm _ [x] _

namespace Move

variable {options : StreamOptions} {s after : QaraaSnapshotStream Body}
  {call moved : Iteration Body}

lemma iterations (move : Move s call after moved) : after.iterations = s.iterations := by
  cases move <;> rfl

/-- A call that ends with a snapshot leaves it in the history. -/
lemma snapshots (move : Move s call after moved) :
    after.history.filterMap StreamEvent.snapshot
      = s.history.filterMap StreamEvent.snapshot ++ moved.place.snapshot.toList := by
  cases move with
  | asked => simp [StreamEvent.snapshot, Place.snapshot]
  | returned snapshot => simp [StreamEvent.snapshot, Place.snapshot, Ending.snapshot]
  | ended ending nothing => simp [Place.snapshot, nothing]
  | _ => simp [Place.snapshot, Ending.snapshot]

lemma follows {revision : ℕ} (move : Move s call after moved)
    (hrevision : s.revision = lastRevision revision s.history)
    (hfollows : Follows revision s.history) :
    after.revision = lastRevision revision after.history ∧ Follows revision after.history := by
  cases move with
  | asked starting opened free =>
      refine ⟨?_, follows_concat.mpr ⟨hfollows, hrevision⟩⟩
      rw [lastRevision_concat]
      exact hrevision
  | returned snapshot opened newer =>
      refine ⟨?_, follows_concat.mpr ⟨hfollows, ?_⟩⟩
      · rw [lastRevision_concat]
        rfl
      · rw [hrevision] at newer
        exact newer
  | _ => exact ⟨hrevision, hfollows⟩

end Move

namespace Informed

variable {options : StreamOptions} {s s' : QaraaSnapshotStream Body} {action : StreamAction Body}

lemma create (options : StreamOptions) :
    Informed options (QaraaSnapshotStream.create options : QaraaSnapshotStream Body) :=
  ⟨rfl, trivial, .nil⟩

lemma step (h : Informed options s) (hstep : StreamStep s action s') : Informed options s' := by
  cases hstep with
  | same _ => exact h
  | called =>
      refine ⟨h.revision, h.follows, ?_⟩
      rw [List.filterMap_append]
      simpa [Place.snapshot] using h.returned
  | clientClosed => exact ⟨h.revision, h.follows, h.returned⟩
  | closed opened => exact ⟨h.revision, h.follows, h.returned⟩
  | resumed i event call after moved here active move =>
      obtain ⟨hrevision, hfollows⟩ := move.follows h.revision h.follows
      refine ⟨hrevision, hfollows, ?_⟩
      rw [QaraaSnapshotStream.put_iterations, QaraaSnapshotStream.put_history, move.iterations,
        move.snapshots]
      exact (filterMap_set_perm moved here (Place.snapshot_of_active active)).trans
        (h.returned.append_right _)

lemma run (options : StreamOptions) (actions : List (StreamAction Body)) :
    Informed options ((QaraaSnapshotStream.create options).run options actions) := by
  induction actions using List.reverseRecOn with
  | nil => exact create options
  | append_singleton actions action ih =>
      rw [QaraaSnapshotStream.run_concat]
      exact ih.step (QaraaSnapshotStream.step_streamStep options _ action)

end Informed

/-- A closed stream asks for nothing more and returns nothing more. -/
lemma history_of_closed {s s' : QaraaSnapshotStream Body} {action : StreamAction Body}
    (hclosed : s.isClosed = true)
    (hstep : StreamStep s action s') : s'.isClosed = true ∧ s'.history = s.history := by
  cases hstep with
  | same _ => exact ⟨hclosed, rfl⟩
  | called => exact ⟨hclosed, rfl⟩
  | clientClosed => exact ⟨by simp [QaraaSnapshotStream.isClosed], rfl⟩
  | closed opened => exact ⟨by simp [QaraaSnapshotStream.isClosed], rfl⟩
  | resumed i event call after moved here active move =>
      cases move with
      | asked starting opened free =>
          rw [hclosed] at opened
          cases opened
      | returned snapshot opened newer =>
          rw [hclosed] at opened
          cases opened
      | _ => exact ⟨hclosed, rfl⟩

lemma history_of_closed_run {options : StreamOptions} {s : QaraaSnapshotStream Body}
    (hclosed : s.isClosed = true) (actions : List (StreamAction Body)) :
    (s.run options actions).isClosed = true ∧ (s.run options actions).history = s.history := by
  induction actions using List.reverseRecOn with
  | nil => exact ⟨hclosed, rfl⟩
  | append_singleton actions action ih =>
      rw [QaraaSnapshotStream.run_concat]
      obtain ⟨hstill, hsame⟩ := history_of_closed ih.1
        (QaraaSnapshotStream.step_streamStep options _ action)
      exact ⟨hstill, hsame.trans ih.2⟩

/-! ### The attempts of a call -/

/-- A call asks for one connection before each of its delays, and for one after the last. -/
structure Iteration.Bounded (call : Iteration Body) : Prop where
  failures : call.failures ≤ delays.length
  attempts : call.attempts ≤ call.failures + 1
  starting : call.place = .starting → call.attempts ≤ call.failures
  delaying : ∀ inside, call.place = .delaying inside → call.failures < delays.length

lemma Iteration.Bounded.move {s after : QaraaSnapshotStream Body} {call moved : Iteration Body}
    (h : call.Bounded) (move : Move s call after moved) : moved.Bounded := by
  cases move with
  | asked starting opened free =>
      exact ⟨h.failures, Nat.succ_le_succ (h.starting starting), by simp, by simp⟩
  | dropped dropping inside fewer => exact ⟨h.failures, h.attempts, by simp, fun _ _ => fewer⟩
  | delaying inside fewer => exact ⟨h.failures, h.attempts, by simp, fun _ _ => fewer⟩
  | slept inside delaying =>
      exact ⟨h.delaying inside delaying, Nat.le_succ_of_le h.attempts, fun _ => h.attempts, by simp⟩
  | _ => exact ⟨h.failures, h.attempts, by simp, by simp⟩

lemma bounded_run (options : StreamOptions) (actions : List (StreamAction Body)) :
    ∀ call ∈ ((QaraaSnapshotStream.create options).run options actions).iterations,
      call.Bounded := by
  induction actions using List.reverseRecOn with
  | nil => exact fun _ hmem => by cases hmem
  | append_singleton actions action ih =>
      rw [QaraaSnapshotStream.run_concat]
      generalize (QaraaSnapshotStream.create options).run options actions = s at ih
      have hstep := QaraaSnapshotStream.step_streamStep options s action
      generalize s.step options action = s' at hstep
      cases hstep with
      | called =>
          intro call hmem
          rcases List.mem_append.mp hmem with hold | hnew
          · exact ih call hold
          · rw [List.mem_singleton.mp hnew]
            exact ⟨Nat.zero_le _, Nat.zero_le _, fun _ => le_rfl, by simp⟩
      | resumed i event call after moved here active move =>
          intro other hmem
          rw [QaraaSnapshotStream.put_iterations, move.iterations] at hmem
          rcases List.mem_or_eq_of_mem_set hmem with hold | rfl
          · exact ih other hold
          · exact (ih call (List.mem_of_getElem? here)).move move
      | _ => exact ih

/-! ### The sockets -/

/-- Every call of `__anext__` begins when the ones before it have ended. -/
def Sequential (options : StreamOptions) (actions : List (StreamAction Body)) : Prop :=
  ∀ before after, actions = before ++ .anext :: after →
    ∀ call ∈ ((QaraaSnapshotStream.create options).run options before).iterations,
      call.place.isActive = false

instance (options : StreamOptions) (actions : List (StreamAction Body)) :
    Decidable (Sequential options actions) :=
  decidable_of_iff (Obeys (fun before action => action.isAnext = true →
      ∀ call ∈ ((QaraaSnapshotStream.create options).run options before).iterations,
        call.place.isActive = false) actions)
    ⟨fun h before after hactions => h before .anext after hactions rfl,
      fun h before action after hactions hanext => by
        cases action with
        | anext => exact h before after hactions
        | _ => cases hanext⟩

/-- The stream has every open socket, and none once it is closed. -/
structure Kept (s : QaraaSnapshotStream Body) : Prop where
  current : ∀ k, s.sockets[k]? = some false → s.socket = some k
  closed : s.closed = true → s.socket = none

/-- A call that connects does so without a socket, and one that drops a socket has closed it. -/
structure Safe (s : QaraaSnapshotStream Body) (place : Place Body) : Prop where
  connecting : ∀ generation, place = .connecting generation → s.socket = none
  dropping : place = .dropping → ∀ k, s.socket = some k → s.sockets[k]? ≠ some false

lemma Safe.of_inactive {s : QaraaSnapshotStream Body} {place : Place Body}
    (h : place.isActive = false) : Safe s place := by
  cases place with
  | ended ending => exact ⟨by simp, by simp⟩
  | _ => cases h

lemma Safe.of_none {s : QaraaSnapshotStream Body} {place : Place Body} (h : s.socket = none) :
    Safe s place :=
  ⟨fun _ _ => h, fun _ k hk => by
    rw [h] at hk
    cases hk⟩

/-- An open socket is not lost. -/
lemma Move.kept {s after : QaraaSnapshotStream Body} {call moved : Iteration Body}
    (move : Move s call after moved) (hkept : Kept s) (hsafe : Safe s call.place) :
    Kept after ∧ Safe after moved.place := by
  cases move with
  | asked starting opened free => exact ⟨⟨hkept.current, hkept.closed⟩, .of_none free⟩
  | refused =>
      refine ⟨⟨fun k hk => ?_, hkept.closed⟩, ⟨by simp, by simp⟩⟩
      change (s.sockets ++ [true])[k]? = some false at hk
      rcases Nat.lt_or_ge k s.sockets.length with hlt | hge
      · rw [List.getElem?_append_left hlt] at hk
        exact hkept.current k hk
      · rw [List.getElem?_append_right hge] at hk
        cases List.mem_singleton.mp (List.mem_of_getElem? hk)
  | connected generation connecting opened =>
      have hnone := hsafe.connecting generation connecting
      refine ⟨⟨fun k hk => ?_, fun hclosed => ?_⟩, ⟨by simp, by simp⟩⟩
      · change (s.sockets ++ [false])[k]? = some false at hk
        rcases Nat.lt_or_ge k s.sockets.length with hlt | hge
        · rw [List.getElem?_append_left hlt] at hk
          have hcurrent := hkept.current k hk
          rw [hnone] at hcurrent
          cases hcurrent
        · obtain ⟨hlt, -⟩ := List.getElem?_eq_some_iff.mp hk
          rw [List.length_append, List.length_singleton] at hlt
          exact congrArg some (Nat.le_antisymm hge (Nat.le_of_lt_succ hlt))
      · simp only [QaraaSnapshotStream.isClosed, Bool.or_eq_false_iff] at opened
        rw [opened.1] at hclosed
        cases hclosed
  | dropping socket current =>
      refine ⟨⟨fun k hk => hkept.current k (s.open_of_closeSocket _ hk).1, fun hclosed => ?_⟩,
        ⟨by simp, fun _ k hsocket hk => ?_⟩⟩
      · exact hkept.closed hclosed
      · exact (s.open_of_closeSocket _ hk).2 (current.symm.trans hsocket)
  | discarding =>
      refine ⟨⟨fun k hk => ?_, fun _ => rfl⟩, .of_none rfl⟩
      obtain ⟨hopen, hother⟩ := QaraaSnapshotStream.open_of_closeSocket _ _ hk
      exact (hother (hkept.current k hopen)).elim
  | freed dropping =>
      exact ⟨⟨fun k hk => (hsafe.dropping dropping k (hkept.current k hk) hk).elim, fun _ => rfl⟩,
        .of_none rfl⟩
  | dropped dropping inside fewer =>
      exact ⟨⟨fun k hk => (hsafe.dropping dropping k (hkept.current k hk) hk).elim, fun _ => rfl⟩,
        .of_none rfl⟩
  | returned snapshot opened newer =>
      exact ⟨⟨hkept.current, hkept.closed⟩, .of_inactive rfl⟩
  | ended ending nothing => exact ⟨hkept, .of_inactive rfl⟩
  | _ => exact ⟨hkept, ⟨by simp, by simp⟩⟩

/-- A stream that is iterated by one call at a time. -/
structure Owned (s : QaraaSnapshotStream Body) : Prop where
  alone : ∀ (i j : ℕ) (first second : Iteration Body), s.iterations[i]? = some first →
    s.iterations[j]? = some second → first.place.isActive = true →
      second.place.isActive = true → i = j
  kept : Kept s
  safe : ∀ call ∈ s.iterations, Safe s call.place

namespace Owned

variable {s s' : QaraaSnapshotStream Body}

lemma create (options : StreamOptions) :
    Owned (QaraaSnapshotStream.create options : QaraaSnapshotStream Body) where
  alone := by simp [QaraaSnapshotStream.create]
  kept := ⟨by simp [QaraaSnapshotStream.create], by simp [QaraaSnapshotStream.create]⟩
  safe := by simp [QaraaSnapshotStream.create]

/-- A call begins when no other is active. -/
lemma called (h : Owned s) (hidle : ∀ call ∈ s.iterations, call.place.isActive = false) :
    Owned { s with iterations := s.iterations ++ [⟨0, 0, .starting⟩] } := by
  have hlast : ∀ i call, (s.iterations ++ [⟨0, 0, .starting⟩])[i]? = some call →
      call.place.isActive = true → i = s.iterations.length := by
    intro i call hget hactive
    rcases Nat.lt_trichotomy i s.iterations.length with hlt | heq | hgt
    · rw [List.getElem?_append_left hlt] at hget
      rw [hidle call (List.mem_of_getElem? hget)] at hactive
      cases hactive
    · exact heq
    · rw [List.getElem?_eq_none (by simp; omega)] at hget
      cases hget
  refine ⟨fun i j first second hi hj hfirst hsecond => ?_, ⟨h.kept.current, h.kept.closed⟩,
    fun call hmem => ?_⟩
  · rw [hlast i first hi hfirst, hlast j second hj hsecond]
  · rcases List.mem_append.mp hmem with hold | hnew
    · exact .of_inactive (hidle call hold)
    · rw [List.mem_singleton.mp hnew]
      exact ⟨by simp, by simp⟩

/-- The only active call goes on. -/
lemma resumed (h : Owned s) {i : ℕ} {call moved : Iteration Body}
    {after : QaraaSnapshotStream Body} (here : s.iterations[i]? = some call)
    (active : call.place.isActive = true) (move : Move s call after moved) :
    Owned (after.put i moved) := by
  have hother : ∀ j other, (s.iterations.set i moved)[j]? = some other → j ≠ i →
      other.place.isActive = false := by
    intro j other hget hne
    rw [List.getElem?_set_ne hne.symm] at hget
    by_contra hactive
    exact hne (h.alone j i other call hget here (Bool.not_eq_false _ ▸ hactive) active)
  have halone : ∀ j other, (s.iterations.set i moved)[j]? = some other →
      other.place.isActive = true → j = i := by
    intro j other hget hactive
    by_contra hne
    rw [hother j other hget hne] at hactive
    cases hactive
  obtain ⟨hkept, hsafe⟩ := move.kept h.kept (h.safe call (List.mem_of_getElem? here))
  refine ⟨?_, ⟨hkept.current, hkept.closed⟩, fun other hmem => ?_⟩
  · intro j k first second hj hk hfirst hsecond
    rw [QaraaSnapshotStream.put_iterations, move.iterations] at hj hk
    rw [halone j first hj hfirst, halone k second hk hsecond]
  · rw [QaraaSnapshotStream.put_iterations, move.iterations] at hmem
    obtain ⟨j, hj⟩ := List.mem_iff_getElem?.mp hmem
    by_cases heq : j = i
    · rw [heq, List.getElem?_set_self (List.getElem?_eq_some_iff.mp here).1] at hj
      cases hj
      exact ⟨hsafe.connecting, hsafe.dropping⟩
    · exact .of_inactive (hother j other hj heq)

/-- `aclose` closes the socket of the stream. -/
lemma ofClosed (h : Owned s) :
    Owned ({ s with closed := true, generation := s.generation + 1, socket := none }.closeSocket
      s.socket) := by
  refine ⟨h.alone, ⟨fun k hk => ?_, fun _ => rfl⟩, fun _ _ => .of_none rfl⟩
  obtain ⟨hopen, hother⟩ := QaraaSnapshotStream.open_of_closeSocket _ _ hk
  exact (hother (h.kept.current k hopen)).elim

lemma run (options : StreamOptions) {actions : List (StreamAction Body)}
    (hsequential : Sequential options actions) :
    Owned ((QaraaSnapshotStream.create options).run options actions) := by
  induction actions using List.reverseRecOn with
  | nil => exact create options
  | append_singleton actions action ih =>
      have hbefore : Sequential options actions := by
        intro before after hactions
        exact hsequential before (after ++ [action]) (by simp [hactions])
      have howned := ih hbefore
      rw [QaraaSnapshotStream.run_concat]
      have hstep := QaraaSnapshotStream.step_streamStep options
        ((QaraaSnapshotStream.create options).run options actions) action
      generalize ((QaraaSnapshotStream.create options).run options actions).step options action
        = after at hstep
      cases hstep with
      | same _ => exact howned
      | called => exact howned.called (hsequential actions [] rfl)
      | clientClosed =>
          exact ⟨howned.alone, ⟨howned.kept.current, howned.kept.closed⟩, fun call hmem =>
            ⟨(howned.safe call hmem).connecting, (howned.safe call hmem).dropping⟩⟩
      | closed opened => exact howned.ofClosed
      | resumed i event call after moved here active move => exact howned.resumed here active move

end Owned

/-- **The snapshots of a stream.** In every run of a stream, whatever its connector, its sockets and
its delays do and whichever calls are cancelled, each connection is asked for what comes after the
last snapshot, each snapshot is newer than those before it, and the calls return these snapshots,
each once. A call gives up after five delays and six connections. Once the stream or its client is
closed nothing more is asked for or returned. If every call begins when the ones before it have
ended, then an open socket is always that of the stream, and after `aclose` all are closed. -/
theorem snapshot_stream (options : StreamOptions) (actions later : List (StreamAction Body)) :
    let s := (QaraaSnapshotStream.create options).run options actions
    Follows options.revision s.history ∧
      (s.iterations.filterMap fun call => call.place.snapshot).Perm
        (s.history.filterMap StreamEvent.snapshot) ∧
      (∀ call ∈ s.iterations, call.failures ≤ 5 ∧ call.attempts ≤ 6) ∧
      (s.isClosed = true → (s.run options later).history = s.history) ∧
      (Sequential options actions →
        (∀ k, s.sockets[k]? = some false → s.socket = some k) ∧
          (s.closed = true → ∀ socket ∈ s.sockets, socket = true)) := by
  intro s
  have hinformed := Informed.run options actions
  refine ⟨hinformed.follows, hinformed.returned, fun call hmem => ?_, fun hclosed =>
    (history_of_closed_run hclosed later).2, fun hsequential => ?_⟩
  · have hbounded := bounded_run options actions call hmem
    have hfailures : call.failures ≤ 5 := hbounded.failures
    exact ⟨hfailures, hbounded.attempts.trans (Nat.succ_le_succ hfailures)⟩
  · have hkept := (Owned.run options hsequential).kept
    refine ⟨hkept.current, fun hclosed socket hmem => ?_⟩
    obtain ⟨k, hk⟩ := List.mem_iff_getElem?.mp hmem
    cases socket with
    | true => rfl
    | false =>
        have hcurrent := hkept.current k hk
        rw [hkept.closed hclosed] at hcurrent
        cases hcurrent

/-- A stream of the session `A` from its beginning. -/
def sampleOptions : StreamOptions := ⟨"A", 0, Nat.zero_le _⟩

/-- Two calls one after the other, each of which returns a snapshot; then the stream is closed. -/
def oneAfterTheOther : List (StreamAction Unit) :=
  [.anext, .resume 0 .completed, .resume 0 .completed,
    .resume 0 (.frame (.updated "A" ⟨1, ()⟩)), .anext, .resume 1 .completed,
    .resume 1 (.frame (.updated "A" ⟨2, ()⟩)), .aclose]

/-- The socket that both calls have read is closed. -/
theorem snapshot_stream_sample :
    let s := (QaraaSnapshotStream.create sampleOptions).run sampleOptions oneAfterTheOther
    s.history = [.asked 0, .returned ⟨1, ()⟩, .returned ⟨2, ()⟩] ∧ s.sockets.length = 1 ∧
      ∀ socket ∈ s.sockets, socket = true := by
  intro s
  obtain ⟨-, -, -, -, hsockets⟩ := snapshot_stream sampleOptions oneAfterTheOther []
  exact ⟨by decide, by decide, (hsockets (by decide)).2 (by decide)⟩

/-- Two calls at once lose a socket. -/
example :
    let s := (QaraaSnapshotStream.create sampleOptions : QaraaSnapshotStream Unit).run
      sampleOptions [.anext, .anext, .resume 0 .completed, .resume 1 .completed,
        .resume 0 .completed, .resume 1 .completed]
    s.sockets = [false, false] ∧ s.socket = some 1 := by
  decide

end Qaraa.Sdk.Python
