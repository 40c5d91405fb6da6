import Qaraa.Core.TrackerInvariant

/-!
Display and commit over whole runs of a tracker.

* `CreatedTracker`: a tracker created for an accepted corpus.
* `completedWords_of_run`: the completed words come in corpus order, grow between resets,
  and the last of them or the origin is committed.
* `display_of_run`: display and commit point into the corpus and never contradict each
  other.
-/

namespace Qaraa

open Fallible Ordered

/-- A tracker created for a corpus that passed the boundary validation. -/
structure CreatedTracker where
  corpus : JsValue
  index : IndexedCorpus
  initialLocation : Option QuranLocation
  findingMode : Option String
  config : TrackerConfig
  created : TrackerState
  indexed : indexCorpus corpus = .ok index
  creation : createReadingTracker ⟨index, initialLocation, findingMode⟩ = .ok (config, created)

namespace CreatedTracker

variable (tracker : CreatedTracker)

/-- The run of a list of commands. -/
def run (commands : List TrackerCommand) : Traced :=
  traceRun tracker.config tracker.created commands

/-- The snapshot after a list of commands. -/
def snapshotAfter (commands : List TrackerCommand) : ReadingSnapshot :=
  (tracker.run commands).state.snapshot

lemma config_corpus : tracker.config.corpus = tracker.index :=
  (createReadingTracker_ok tracker.creation).2.1

lemma valid : ValidConfig tracker.config :=
  createReadingTracker_valid (indexCorpus_valid tracker.indexed) tracker.creation

lemma invariant (commands : List TrackerCommand) :
    TrackerInvariant tracker.config (tracker.run commands) :=
  traceRun_invariant (indexCorpus_valid tracker.indexed) tracker.creation commands

lemma run_concat (commands : List TrackerCommand) (command : TrackerCommand) :
    tracker.run (commands ++ [command]) = (tracker.run commands).step tracker.config command := by
  rw [run, traceRun, List.foldl_append]
  rfl

/-- The position of a location a run shows. -/
lemma symbolIndexAt_eq {k : ℕ} {location : QuranLocation}
    (h : locationAt tracker.config.corpus k = .ok location) :
    symbolIndexAt tracker.index location = .ok k := by
  rw [← tracker.config_corpus]
  exact tracker.valid.symbolIndexAt_eq_ok_iff.mpr h

end CreatedTracker

/-! ### Completed words -/

/-- The ids name words of the index, each wholly before the next. -/
def InCorpusOrder (index : IndexedCorpus) (ids : List String) : Prop :=
  (∀ id ∈ ids, ∃ range, index.wordSymbolRanges.get id = some range) ∧
    ids.Pairwise fun a b => ∃ ra rb, index.wordSymbolRanges.get a = some ra ∧
      index.wordSymbolRanges.get b = some rb ∧ ra.start < rb.start ∧ ra.stop ≤ rb.start

/-- The last position of the last word, `0` when there is none. -/
def lastPosition (index : IndexedCorpus) (ids : List String) : ℕ :=
  ((ids.getLast?.bind index.wordSymbolRanges.get).map fun range => range.stop - 1).getD 0

lemma Completed.inCorpusOrder {config : TrackerConfig} (hvalid : ValidConfig config)
    {state : TrackerState} {done : List OrderedWord} (h : Completed config state done) :
    state.completedWordIds.Nodup ∧ InCorpusOrder config.corpus state.completedWordIds := by
  have hget : ∀ w ∈ done, config.corpus.wordSymbolRanges.get w.word.id = some w.range :=
    fun w hw => (hvalid.range_iff _ _).mpr ⟨w, h.words w hw, rfl, rfl⟩
  refine ⟨h.set ▸ state.completedWordIdSet.nodup, ?_, ?_⟩
  · intro id hid
    rw [h.ids] at hid
    obtain ⟨w, hw, rfl⟩ := List.mem_map.mp hid
    exact ⟨w.range, hget w hw⟩
  · rw [h.ids, List.pairwise_map]
    refine h.increasing.imp_of_mem fun {v w} hv hw hvw => ?_
    have hbounds := (hvalid.partition.mem_bounds (h.words v hv)).2.1
    exact ⟨v.range, w.range, hget v hv, hget w hw, by omega, hvw⟩

lemma Completed.committed_eq {config : TrackerConfig} (hvalid : ValidConfig config)
    {state : TrackerState} {done : List OrderedWord} (h : Completed config state done) :
    state.committedSymbol
      = max state.initialSymbol (lastPosition config.corpus state.completedWordIds) := by
  rw [h.committed, lastPosition, h.ids, List.getLast?_map]
  cases hlast : done.getLast? with
  | none => rfl
  | some w =>
      have hget : config.corpus.wordSymbolRanges.get w.word.id = some w.range :=
        (hvalid.range_iff _ _).mpr ⟨w, h.words w (List.mem_of_getLast? hlast), rfl, rfl⟩
      simp [hget]

/-- A submission extends the completed words and never moves the committed position
back. -/
lemma TrackerInvariant.submit_progress {config : TrackerConfig} (hvalid : ValidConfig config)
    {traced : Traced} (hinv : TrackerInvariant config traced) (value : JsValue) :
    traced.state.completedWordIds
        <+: (traced.step config (.submit value)).state.completedWordIds ∧
      traced.state.committedSymbol
        ≤ (traced.step config (.submit value)).state.committedSymbol := by
  cases hinv.commandStep hvalid (.submit value) with
  | unchanged hnext =>
      rw [hnext]
      exact ⟨List.prefix_refl _, le_rfl⟩
  | restarted location i hreset => cases hreset
  | accepted value observation after _ _ _ hacc hnext =>
      obtain ⟨done, hdone⟩ := hinv.completed
      obtain ⟨⟨done', hdone', hpre⟩, hle, -⟩ := hacc.progress_le hvalid hdone
      rw [hnext, hdone.ids, hdone'.ids]
      exact ⟨hpre.map _, hle⟩

/-- **The completed words over any run**: without repetition and in corpus order; between
two resets each list is a prefix of the next and the committed position never moves back;
and the committed position is the later of the origin and the last completed word's end. -/
theorem completedWords_of_run (tracker : CreatedTracker) (commands : List TrackerCommand) :
    ((tracker.snapshotAfter commands).commit.completedWordIds.Nodup ∧
      InCorpusOrder tracker.index (tracker.snapshotAfter commands).commit.completedWordIds) ∧
    (∀ observation, (tracker.snapshotAfter commands).commit.completedWordIds
        <+: (tracker.snapshotAfter (commands ++ [.submit observation])).commit.completedWordIds ∧
      ∃ before after,
        symbolIndexAt tracker.index (tracker.snapshotAfter commands).commit.location
          = .ok before ∧
        symbolIndexAt tracker.index
          (tracker.snapshotAfter (commands ++ [.submit observation])).commit.location
          = .ok after ∧ before ≤ after) ∧
    ∃ origin, symbolIndexAt tracker.index (tracker.run commands).history.origin = .ok origin ∧
      symbolIndexAt tracker.index (tracker.snapshotAfter commands).commit.location
        = .ok (max origin (lastPosition tracker.index
          (tracker.snapshotAfter commands).commit.completedWordIds)) := by
  have hinv := tracker.invariant commands
  obtain ⟨done, hdone⟩ := hinv.completed
  have hids : (tracker.snapshotAfter commands).commit.completedWordIds
      = (tracker.run commands).state.completedWordIds := hinv.completedIds
  rw [hids, ← tracker.config_corpus]
  refine ⟨hdone.inCorpusOrder tracker.valid, fun observation => ?_, ?_⟩
  · have hnext := tracker.invariant (commands ++ [.submit observation])
    obtain ⟨hpre, hle⟩ := hinv.submit_progress tracker.valid observation
    rw [← tracker.run_concat] at hpre hle
    refine ⟨?_, _, _, ?_, ?_, hle⟩
    · rw [CreatedTracker.snapshotAfter, hnext.completedIds]
      exact hpre
    · exact tracker.config_corpus ▸ tracker.symbolIndexAt_eq hinv.commit
    · exact tracker.config_corpus ▸ tracker.symbolIndexAt_eq hnext.commit
  · refine ⟨_, tracker.config_corpus ▸ tracker.symbolIndexAt_eq hinv.origin, ?_⟩
    rw [← hdone.committed_eq tracker.valid]
    exact tracker.config_corpus ▸ tracker.symbolIndexAt_eq hinv.commit

/-! ### Display -/

/-- The word of an id has a symbol at a position. -/
def HoldsSymbol (index : IndexedCorpus) (id : String) (position : ℕ) : Prop :=
  ∃ range, index.wordSymbolRanges.get id = some range ∧
    range.start ≤ position ∧ position < range.stop

/-- **Display and commit over any run**: both are locations of corpus symbols; the display
is a reread exactly when it is behind the commit; and a word is active exactly when an
accepted observation has passed the position gate since the last reset, namely the one
word that holds the display symbol. -/
theorem display_of_run (tracker : CreatedTracker) (commands : List TrackerCommand) :
    ∃ display commit,
      symbolIndexAt tracker.index (tracker.snapshotAfter commands).display.location
        = .ok display ∧
      symbolIndexAt tracker.index (tracker.snapshotAfter commands).commit.location = .ok commit ∧
      ((tracker.snapshotAfter commands).display.isReread = true ↔ display < commit) ∧
      ((tracker.snapshotAfter commands).display.activeWordId = none ↔
        (tracker.run commands).history.positioned = false) ∧
      ((tracker.run commands).history.positioned = true → ∃ id,
        (tracker.snapshotAfter commands).display.activeWordId = some id ∧
        HoldsSymbol tracker.index id display ∧
        ∀ other, HoldsSymbol tracker.index other display → other = id) := by
  have hinv := tracker.invariant commands
  have hvalid := tracker.valid
  refine ⟨_, _, tracker.symbolIndexAt_eq hinv.cursor, tracker.symbolIndexAt_eq hinv.commit,
    ?_, ?_, fun hpos => ?_⟩
  · rw [CreatedTracker.snapshotAfter, hinv.isReread, decide_eq_true_eq]
  · refine ⟨fun hnone => ?_, hinv.unpositioned⟩
    by_contra hpos
    obtain ⟨w, -, -, -, hactive⟩ := hinv.positioned (Bool.not_eq_false _ ▸ hpos)
    rw [CreatedTracker.snapshotAfter, hactive] at hnone
    cases hnone
  · obtain ⟨w, hw, hstart, hstop, hactive⟩ := hinv.positioned hpos
    rw [← tracker.config_corpus]
    refine ⟨w.word.id, hactive, ⟨w.range, (hvalid.range_iff _ _).mpr ⟨w, hw, rfl, rfl⟩, hstart,
      hstop⟩, ?_⟩
    rintro other ⟨range, hrange, hin⟩
    obtain ⟨v, hv, rfl, rfl⟩ := (hvalid.range_iff _ _).mp hrange
    rw [hvalid.partition.eq_of_mem hv hw hin ⟨hstart, hstop⟩]

end Qaraa
