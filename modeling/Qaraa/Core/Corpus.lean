import Qaraa.Core.Value

/-!
`packages/core/src/corpus/types.ts` and `packages/core/src/observation/types.ts`: the
corpus address model and the producer-neutral observation.

A value of these types has already passed the shape checks of `Validate`: address fields
are natural numbers and timestamps are finite.
-/

namespace Qaraa

/-- The address of one symbol. -/
structure QuranLocation where
  surah : ℕ
  ayah : ℕ
  word : ℕ
  symbol : ℕ
  deriving DecidableEq, Repr

/-- The address of one word, `Omit<QuranLocation, 'symbol'>`. -/
structure WordLocation where
  surah : ℕ
  ayah : ℕ
  word : ℕ
  deriving DecidableEq, Repr

/-- The word a symbol address lies in. -/
def QuranLocation.toWord (location : QuranLocation) : WordLocation :=
  ⟨location.surah, location.ayah, location.word⟩

/-- `QuranSymbol`, as a checked corpus holds it. -/
structure QuranSymbol where
  id : String
  text : String
  phoneme : String
  location : QuranLocation
  deriving DecidableEq, Repr

/-- `QuranWord`, as a checked corpus holds it. -/
structure QuranWord where
  id : String
  text : String
  symbolIds : List String
  location : WordLocation
  deriving DecidableEq, Repr

/-- `QuranCorpus`, once it is checked. -/
structure QuranCorpus where
  corpusId : String
  revision : String
  symbols : List QuranSymbol
  words : List QuranWord
  deriving DecidableEq, Repr

/-- Zero-based, end-exclusive positions in `symbols`. -/
structure CorpusRange where
  start : ℕ
  stop : ℕ
  deriving DecidableEq, Repr

/-- `ObservationToken`, as a checked observation holds it. -/
structure ObservationToken where
  id : String
  text : String
  phonemes : List String
  startMs : Option ℚ
  endMs : Option ℚ
  confidence : Option ℚ
  deriving DecidableEq

/-- `RecitationObservation`, once it is checked. -/
structure RecitationObservation where
  observationId : String
  sourceRevision : ℕ
  isFinal : Bool
  receivedAtMs : ℚ
  tokens : List ObservationToken
  deriving DecidableEq

end Qaraa
