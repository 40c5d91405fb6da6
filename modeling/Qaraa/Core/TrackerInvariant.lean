import Qaraa.Core.TrackerStep
import Mathlib.Data.List.DropRight

/-!
Whole runs of a tracker.

* `TrackerCommand`, `stepTracker`: a command that throws leaves the state as it was.
* `History`: what the outputs of a run show: the location of the last reset or creation,
  the observations accepted since, and whether one of them passed the position gate.
* `CommandStep`: the three ways a command goes.
* `TrackerInvariant`: what ties the variables to each other and to the history;
  `TrackerInvariant.step` keeps it through every command, `traceRun_invariant` **through
  every run**.
-/

namespace Qaraa

open Fallible Ordered

/-- The two commands of a tracker. -/
inductive TrackerCommand where
  | submit (observation : JsValue)
  | reset (location : Option QuranLocation)

/-- What a command returns. -/
def applyCommand (config : TrackerConfig) (state : TrackerState) :
    TrackerCommand → Except JsError (ReadingSnapshot × TrackerState)
  | .submit observation => submit config state observation
  | .reset location => reset config state location

/-- The state after a command; one that throws changes nothing. -/
def stepTracker (config : TrackerConfig) (state : TrackerState) (command : TrackerCommand) :
    TrackerState :=
  match applyCommand config state command with
  | .ok (_, next) => next
  | .error _ => state

/-- What a run has shown so far. -/
structure History where
  origin : QuranLocation
  accepted : List RecitationObservation
  positioned : Bool

/-- A command that changed the revision is recorded: a reset starts over, a submission was
accepted. -/
def History.record (config : TrackerConfig) (before after : TrackerState) (history : History) :
    TrackerCommand → History
  | .submit value =>
      match validateObservation value with
      | .error _ => history
      | .ok observation =>
          if after.snapshot.revision = before.snapshot.revision then history
          else
            { history with
              accepted := history.accepted ++ [observation]
              positioned := history.positioned
                || (after.snapshot.confidence.map passesPositionGate).getD false }
  | .reset location =>
      if after.snapshot.revision = before.snapshot.revision then history
      else ⟨location.getD config.defaultInitialLocation, [], false⟩

/-- A state with the history of the run that led to it. -/
structure Traced where
  state : TrackerState
  history : History

/-- A command, and what it brings. -/
def Traced.step (config : TrackerConfig) (traced : Traced) (command : TrackerCommand) : Traced :=
  let next := stepTracker config traced.state command
  ⟨next, traced.history.record config traced.state next command⟩

/-- A run from a created tracker. -/
def traceRun (config : TrackerConfig) (created : TrackerState) (commands : List TrackerCommand) :
    Traced :=
  commands.foldl (Traced.step config) ⟨created, ⟨config.defaultInitialLocation, [], false⟩⟩

/-! ### The window of remembered ids -/

/-- The remembered ids are the last accepted ones. -/
structure Remembers (state : TrackerState) (accepted : List String) : Prop where
  order : state.observationIdOrder = accepted.rtake OBSERVATION_ID_LIMIT
  ids : state.observationIds.items = state.observationIdOrder

lemma rtake_append_singleton {α : Type*} (l : List α) (x : α) (n : ℕ) :
    (l ++ [x]).rtake n
      = if n < (l.rtake n ++ [x]).length then (l.rtake n ++ [x]).tail else l.rtake n ++ [x] := by
  have hlen : (l.rtake n ++ [x]).length = l.length - (l.length - n) + 1 := by
    simp [List.rtake]
  rw [hlen, List.rtake, List.length_append, List.length_singleton]
  split
  · rename_i hfull
    have hdrop : l.length + 1 - n = (l.length - n) + 1 := by omega
    rw [hdrop, List.rtake, ← List.drop_append_of_le_length (by omega), List.tail_drop]
  · rename_i hfree
    have hdrop : l.length + 1 - n = l.length - n := by omega
    rw [hdrop, List.rtake, List.drop_append_of_le_length (by omega)]

/-- A new id is remembered, the oldest one goes when the window is full. -/
lemma Remembers.remember {state : TrackerState} {accepted : List String}
    (h : Remembers state accepted) {id : String} (hnew : state.observationIds.has id = false)
    {after : TrackerState}
    (hids : after.observationIds = (state.rememberObservationId id).observationIds)
    (horder : after.observationIdOrder = (state.rememberObservationId id).observationIdOrder) :
    Remembers after (accepted ++ [id]) := by
  have hfresh : id ∉ state.observationIds.items := by
    intro hmem
    rw [OrderedSet.has_iff.mpr hmem] at hnew
    cases hnew
  have hadd := OrderedSet.items_add_of_notMem hfresh
  have hwindow := rtake_append_singleton accepted id OBSERVATION_ID_LIMIT
  rw [← h.order] at hwindow
  constructor
  · rw [horder, hwindow, TrackerState.rememberObservationId]
    cases hcons : state.observationIdOrder ++ [id] with
    | nil => simp at hcons
    | cons oldest rest =>
        dsimp only
        split <;> rfl
  · rw [hids, horder, TrackerState.rememberObservationId]
    cases hcons : state.observationIdOrder ++ [id] with
    | nil => simp at hcons
    | cons oldest rest =>
        rw [h.ids, hcons] at hadd
        dsimp only
        split
        · dsimp only
          rw [OrderedSet.delete]
          dsimp only
          rw [hadd, List.erase_cons_head]
        · exact hadd

/-! ### The invariant -/

/-- What ties the variables of a tracker to each other and to its history. -/
structure TrackerInvariant (config : TrackerConfig) (traced : Traced) : Prop where
  origin : locationAt config.corpus traced.state.initialSymbol = .ok traced.history.origin
  completed : ∃ done, Completed config traced.state done
  cursor : locationAt config.corpus traced.state.cursorSymbol
    = .ok traced.state.snapshot.display.location
  commit : locationAt config.corpus traced.state.committedSymbol
    = .ok traced.state.snapshot.commit.location
  isReread : traced.state.snapshot.display.isReread
    = decide (traced.state.cursorSymbol < traced.state.committedSymbol)
  completedIds : traced.state.snapshot.commit.completedWordIds = traced.state.completedWordIds
  unpositioned : traced.history.positioned = false →
    traced.state.snapshot.display.activeWordId = none
  positioned : traced.history.positioned = true → ∃ w ∈ config.words,
    w.range.start ≤ traced.state.cursorSymbol ∧ traced.state.cursorSymbol < w.range.stop ∧
      traced.state.snapshot.display.activeWordId = some w.word.id
  remembers : Remembers traced.state (traced.history.accepted.map fun o => o.observationId)
  latest : traced.state.latestSourceRevision
    = (traced.history.accepted.getLast?.map fun o => (o.sourceRevision : ℤ)).getD (-1)
  revisions : traced.history.accepted.Pairwise fun o o' => o.sourceRevision ≤ o'.sourceRevision

/-- Right after a creation or a reset. -/
lemma invariant_initial {config : TrackerConfig} {i revision : ℕ} {location : QuranLocation}
    (h : locationAt config.corpus i = .ok location) :
    TrackerInvariant config ⟨TrackerState.initial i revision location, ⟨location, [], false⟩⟩ where
  origin := h
  completed := ⟨[], by simp, rfl, rfl, List.Pairwise.nil, (max_eq_left (Nat.zero_le i)).symm⟩
  cursor := h
  commit := h
  isReread := by simp [TrackerState.initial]
  completedIds := rfl
  unpositioned := fun _ => rfl
  positioned := fun hp => by cases hp
  remembers := ⟨by simp [TrackerState.initial, List.rtake], rfl⟩
  latest := rfl
  revisions := List.Pairwise.nil

/-- An accepted observation extends the completed words and never moves the committed
position back. -/
lemma Accepted.progress_le {config : TrackerConfig} (hvalid : ValidConfig config)
    {before after : TrackerState} {observation : RecitationObservation}
    {done : List OrderedWord} (hdone : Completed config before done)
    (h : Accepted config before observation after) :
    (∃ done', Completed config after done' ∧ done <+: done') ∧
      before.committedSymbol ≤ after.committedSymbol ∧
      after.initialSymbol = before.initialSymbol := by
  cases h.step with
  | unlocated _ held =>
      exact ⟨⟨done, held.commit.completed hdone, List.prefix_refl done⟩,
        le_of_eq held.commit.committedSymbol, held.commit.initialSymbol.symm⟩
  | held _ _ _ held =>
      exact ⟨⟨done, held.commit.completed hdone, List.prefix_refl done⟩,
        le_of_eq held.commit.committedSymbol, held.commit.initialSymbol.symm⟩
  | advanced candidate _ _ advanced =>
      have hloop := commitSupportedWords_spec hvalid hdone candidate observation
      obtain ⟨done', hdone', hpre⟩ := hloop.completed
      refine ⟨⟨done', advanced.commit.completed hdone', hpre⟩,
        le_of_le_of_eq hloop.committed_le advanced.commit.committedSymbol, ?_⟩
      have hinitial := advanced.commit.initialSymbol
      rw [commitSupportedWords_frame] at hinitial
      exact hinitial.symm

/-- An advanced position: the display never runs stale, because the commit loop stops at
the consumed positions, none of which is after the active one. -/
lemma Advanced.display_eq {config : TrackerConfig} (hvalid : ValidConfig config)
    {before : TrackerState} {observation : RecitationObservation} {progress : Progress}
    {candidate : AlignmentCandidate} {done : List OrderedWord}
    (hdone : Completed config before done)
    (hsound : SoundCandidate config.corpus (observationPhonemes observation)
      before.committedSymbol candidate)
    (h : Advanced config before observation candidate progress) :
    progress.display.isReread
        = decide (progress.state.cursorSymbol < progress.state.committedSymbol) ∧
      ∃ w ∈ config.words, w.range.start ≤ progress.state.cursorSymbol ∧
        progress.state.cursorSymbol < w.range.stop ∧
        progress.display.activeWordId = some w.word.id := by
  constructor
  · rw [h.isReread, ← h.commit.committedSymbol]
    have hloop := commitSupportedWords_spec hvalid hdone candidate observation
    have hle := hloop.committed_le
    rcases hloop.consumed with heq | hmem
    · rw [heq]
    · have hbound := (hsound.consumed_le hmem).1
      rw [← h.cursorSymbol] at hbound
      rw [decide_eq_decide]
      omega
  · have hlt := locationAt_lt h.location
    obtain ⟨w, hw, hstart, hstop⟩ := hvalid.partition.exists_mem (Nat.zero_le _) hlt
    refine ⟨w, hw, hstart, hstop, ?_⟩
    rw [h.activeWordId, hvalid.wordAt w hw _ hstart hstop]
    rfl

/-- The display after an accepted observation. -/
lemma Accepted.display {config : TrackerConfig} (hvalid : ValidConfig config) {traced : Traced}
    (hinv : TrackerInvariant config traced) {observation : RecitationObservation}
    {after : TrackerState} (h : Accepted config traced.state observation after) :
    locationAt config.corpus after.cursorSymbol = .ok after.snapshot.display.location ∧
      after.snapshot.display.isReread = decide (after.cursorSymbol < after.committedSymbol) ∧
      (((after.snapshot.confidence.map passesPositionGate).getD false = false ∧
          after.cursorSymbol = traced.state.cursorSymbol ∧
          after.snapshot.display = traced.state.snapshot.display) ∨
        ((after.snapshot.confidence.map passesPositionGate).getD false = true ∧
          ∃ w ∈ config.words, w.range.start ≤ after.cursorSymbol ∧
            after.cursorSymbol < w.range.stop ∧
            after.snapshot.display.activeWordId = some w.word.id)) := by
  obtain ⟨done, hdone⟩ := hinv.completed
  have hheld : Held traced.state after.progress →
      locationAt config.corpus after.cursorSymbol = .ok after.snapshot.display.location ∧
        after.snapshot.display.isReread
          = decide (after.cursorSymbol < after.committedSymbol) ∧
        after.cursorSymbol = traced.state.cursorSymbol ∧
        after.snapshot.display = traced.state.snapshot.display := by
    intro held
    have hcursor : after.cursorSymbol = traced.state.cursorSymbol := held.cursorSymbol
    have hdisplay : after.snapshot.display = traced.state.snapshot.display := held.display
    have hcommitted : traced.state.committedSymbol = after.committedSymbol :=
      held.commit.committedSymbol
    refine ⟨?_, ?_, hcursor, hdisplay⟩
    · rw [hcursor, hdisplay]
      exact hinv.cursor
    · rw [hcursor, hdisplay, ← hcommitted]
      exact hinv.isReread
  cases h.step with
  | unlocated _ held hconf =>
      obtain ⟨hloc, hreread, hsame⟩ := hheld held
      have hnone : after.snapshot.confidence = none := hconf
      exact ⟨hloc, hreread, Or.inl ⟨by rw [hnone]; rfl, hsame⟩⟩
  | held candidate _ gate held hconf =>
      obtain ⟨hloc, hreread, hsame⟩ := hheld held
      have hsome : after.snapshot.confidence = some _ := hconf
      exact ⟨hloc, hreread, Or.inl ⟨by rw [hsome]; exact gate, hsame⟩⟩
  | advanced candidate best gate advanced hconf =>
      obtain ⟨hreread, hword⟩ := advanced.display_eq hvalid hdone (locate_sound best)
      have hsome : after.snapshot.confidence = some _ := hconf
      exact ⟨advanced.location, hreread, Or.inr ⟨by rw [hsome]; exact gate, hword⟩⟩

/-- An accepted observation keeps the invariant. -/
lemma TrackerInvariant.accept {config : TrackerConfig} (hvalid : ValidConfig config)
    {traced : Traced} (hinv : TrackerInvariant config traced)
    {observation : RecitationObservation} (hnew : ¬Duplicate traced.state observation)
    {after : TrackerState} (h : Accepted config traced.state observation after) :
    TrackerInvariant config ⟨after,
      { traced.history with
        accepted := traced.history.accepted ++ [observation]
        positioned := traced.history.positioned
          || (after.snapshot.confidence.map passesPositionGate).getD false }⟩ := by
  obtain ⟨done, hdone⟩ := hinv.completed
  obtain ⟨⟨done', hdone', -⟩, -, hinitial⟩ := h.progress_le hvalid hdone
  obtain ⟨hcursor, hreread, hactive⟩ := h.display hvalid hinv
  rw [Duplicate, not_or, Bool.not_eq_true, not_lt] at hnew
  refine ⟨?_, ⟨done', hdone'⟩, hcursor, h.commit, hreread, h.completed, ?_, ?_, ?_, ?_, ?_⟩
  · rw [hinitial]
    exact hinv.origin
  · intro hpos
    rw [Bool.or_eq_false_iff] at hpos
    rcases hactive with ⟨-, -, hdisplay⟩ | ⟨hgate, -⟩
    · rw [hdisplay]
      exact hinv.unpositioned hpos.1
    · rw [hgate] at hpos
      exact absurd hpos.2 (by decide)
  · intro hpos
    rcases hactive with ⟨hgate, hsame, hdisplay⟩ | ⟨-, hword⟩
    · rw [hgate, Bool.or_false] at hpos
      rw [hsame, hdisplay]
      exact hinv.positioned hpos
    · exact hword
  · rw [List.map_append, List.map_singleton]
    exact hinv.remembers.remember hnew.1 h.observationIds h.observationIdOrder
  · rw [h.latest, List.getLast?_concat]
    rfl
  · refine List.pairwise_append.mpr ⟨hinv.revisions, List.pairwise_singleton _ _, ?_⟩
    intro o ho o' ho'
    rw [List.mem_singleton.mp ho']
    have hlast := hnew.2
    rw [hinv.latest] at hlast
    rcases List.eq_nil_or_concat traced.history.accepted with hnil | ⟨init, last, hconcat⟩
    · rw [hnil] at ho
      simp at ho
    · have hrev := hinv.revisions
      rw [hconcat, List.concat_eq_append] at ho hlast hrev
      rw [List.getLast?_concat, Option.map_some, Option.getD_some] at hlast
      rcases List.mem_append.mp ho with hmem | hmem
      · have hle := (List.pairwise_append.mp hrev).2.2 o hmem last (by simp)
        omega
      · rw [List.mem_singleton.mp hmem]
        omega

/-- The two outcomes of a checked submission. -/
lemma TrackerInvariant.submit_cases {config : TrackerConfig} (hvalid : ValidConfig config)
    {traced : Traced} (hinv : TrackerInvariant config traced) {value : JsValue}
    {observation : RecitationObservation} (hcheck : validateObservation value = .ok observation) :
    (Duplicate traced.state observation ∧
        submit config traced.state value = .ok (traced.state.snapshot, traced.state)) ∨
      (¬Duplicate traced.state observation ∧ ∃ after,
        submit config traced.state value = .ok (after.snapshot, after) ∧
          Accepted config traced.state observation after) := by
  obtain ⟨done, hdone⟩ := hinv.completed
  by_cases hdup : Duplicate traced.state observation
  · exact Or.inl ⟨hdup, submit_duplicate hcheck hdup⟩
  · exact Or.inr ⟨hdup, submit_accepted hvalid hdone (locationAt_lt hinv.commit) hcheck hdup⟩

/-- The ways a command goes. -/
inductive CommandStep (config : TrackerConfig) (traced : Traced) (command : TrackerCommand) :
    Prop where
  | unchanged (next : traced.step config command = traced)
  | restarted (location : Option QuranLocation) (i : ℕ) (isReset : command = .reset location)
      (found : symbolIndexAt config.corpus (location.getD config.defaultInitialLocation) = .ok i)
      (next : traced.step config command
        = ⟨TrackerState.initial i (traced.state.snapshot.revision + 1)
            (location.getD config.defaultInitialLocation),
          ⟨location.getD config.defaultInitialLocation, [], false⟩⟩)
  | accepted (value : JsValue) (observation : RecitationObservation) (after : TrackerState)
      (isSubmit : command = .submit value) (checked : validateObservation value = .ok observation)
      (new : ¬Duplicate traced.state observation)
      (acceptance : Accepted config traced.state observation after)
      (next : traced.step config command = ⟨after,
        { traced.history with
          accepted := traced.history.accepted ++ [observation]
          positioned := traced.history.positioned
            || (after.snapshot.confidence.map passesPositionGate).getD false }⟩)

/-- A command changes nothing, starts over, or is an accepted submission. -/
lemma TrackerInvariant.commandStep {config : TrackerConfig} (hvalid : ValidConfig config)
    {traced : Traced} (hinv : TrackerInvariant config traced) (command : TrackerCommand) :
    CommandStep config traced command := by
  cases command with
  | reset location =>
      cases hindex : symbolIndexAt config.corpus
          (location.getD config.defaultInitialLocation) with
      | error e =>
          have hstep : stepTracker config traced.state (.reset location) = traced.state := by
            rw [stepTracker, applyCommand, reset]
            simp only [hindex]
            rfl
          refine .unchanged ?_
          rw [Traced.step, hstep]
          simp only [History.record, if_true]
      | ok i =>
          have hstep : stepTracker config traced.state (.reset location)
              = TrackerState.initial i (traced.state.snapshot.revision + 1)
                (location.getD config.defaultInitialLocation) := by
            rw [stepTracker, applyCommand, reset]
            simp only [hindex]
            rfl
          refine .restarted location i rfl hindex ?_
          have hrev : ¬(TrackerState.initial i (traced.state.snapshot.revision + 1)
              (location.getD config.defaultInitialLocation)).snapshot.revision
              = traced.state.snapshot.revision := by
            show ¬(traced.state.snapshot.revision + 1 = traced.state.snapshot.revision)
            omega
          rw [Traced.step, hstep]
          simp only [History.record, if_neg hrev]
  | submit value =>
      cases hcheck : validateObservation value with
      | error e =>
          have hstep : stepTracker config traced.state (.submit value) = traced.state := by
            rw [stepTracker, applyCommand, submit, hcheck]
            rfl
          refine .unchanged ?_
          rw [Traced.step, hstep]
          simp only [History.record, hcheck]
      | ok observation =>
          rcases hinv.submit_cases hvalid hcheck with ⟨-, hsubmit⟩ | ⟨hnew, after, hsubmit, hacc⟩
          · have hstep : stepTracker config traced.state (.submit value) = traced.state := by
              rw [stepTracker, applyCommand, hsubmit]
            refine .unchanged ?_
            rw [Traced.step, hstep]
            simp only [History.record, hcheck, if_true]
          · have hstep : stepTracker config traced.state (.submit value) = after := by
              rw [stepTracker, applyCommand, hsubmit]
            have hrev : ¬after.snapshot.revision = traced.state.snapshot.revision := by
              have := hacc.revision
              omega
            refine .accepted value observation after rfl hcheck hnew hacc ?_
            rw [Traced.step, hstep]
            simp only [History.record, hcheck, if_neg hrev]

/-- Every command keeps the invariant. -/
lemma TrackerInvariant.step {config : TrackerConfig} (hvalid : ValidConfig config)
    {traced : Traced} (hinv : TrackerInvariant config traced) (command : TrackerCommand) :
    TrackerInvariant config (traced.step config command) := by
  cases hinv.commandStep hvalid command with
  | unchanged hnext =>
      rw [hnext]
      exact hinv
  | restarted location i _ hindex hnext =>
      rw [hnext]
      exact invariant_initial (locationAt_of_symbolIndexAt hindex)
  | accepted value observation after _ _ hnew hacc hnext =>
      rw [hnext]
      exact hinv.accept hvalid hnew hacc

/-- **The invariant holds through every run of a created tracker.** -/
theorem traceRun_invariant {options : ReadingTrackerOptions} {config : TrackerConfig}
    {created : TrackerState} (hindex : ValidIndex options.corpus)
    (hcreate : createReadingTracker options = .ok (config, created))
    (commands : List TrackerCommand) :
    TrackerInvariant config (traceRun config created commands) := by
  have hvalid := createReadingTracker_valid hindex hcreate
  obtain ⟨-, -, -, -, i, hi, rfl⟩ := createReadingTracker_ok hcreate
  exact Loop.foldl_induction (P := fun _ => TrackerInvariant config)
    (invariant_initial (locationAt_of_symbolIndexAt hi)) fun _ command _ _ hx =>
      hx.step hvalid command

end Qaraa
