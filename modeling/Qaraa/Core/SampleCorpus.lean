import Qaraa.Core.ReadingProgress

/-!
A small corpus to run the tracker on: one ayah of `n` words of one symbol each, all
phonemes different.

* `sampleCorpus`, `sampleObservation`: the values a caller would pass;
  `heardObservation_accepted`: one of the observations is accepted.
* `sampleTracker`: a tracker created for five symbols.
-/

namespace Qaraa

/-- A number, as a caller passes it. -/
def numberValue (n : ℕ) : JsValue := .number (.finite n)

/-- The address of a word of the first surah. -/
def wordAddress (ayah word : ℕ) : List (String × JsValue) :=
  [("surah", numberValue 1), ("ayah", numberValue ayah), ("word", numberValue word)]

/-- The phoneme of the symbol `i`. -/
def samplePhoneme (i : ℕ) : String := "p" ++ toString i

/-- The only symbol of a word. -/
def symbolAt (address : List (String × JsValue)) (i : ℕ) : JsValue :=
  .object [("id", .string ("s" ++ toString i)), ("text", .string "a"),
    ("phoneme", .string (samplePhoneme i)),
    ("location", .object (address ++ [("symbol", numberValue 1)]))]

/-- A word of one symbol. -/
def wordAt (address : List (String × JsValue)) (i : ℕ) : JsValue :=
  .object [("id", .string ("w" ++ toString i)), ("text", .string "a"),
    ("symbolIds", .array [.string ("s" ++ toString i)]), ("location", .object address)]

/-- A corpus of `n` words of one symbol each, at the given addresses. -/
def corpusAt (address : ℕ → List (String × JsValue)) (n : ℕ) : JsValue :=
  .object [("corpusId", .string "sample"), ("revision", .string "1"),
    ("symbols", .array ((List.range n).map fun i => symbolAt (address i) i)),
    ("words", .array ((List.range n).map fun i => wordAt (address i) i))]

/-- The symbol `i` of the sample. -/
def sampleSymbol (i : ℕ) : JsValue := symbolAt (wordAddress 1 (i + 1)) i

/-- The word `i` of the sample. -/
def sampleWord (i : ℕ) : JsValue := wordAt (wordAddress 1 (i + 1)) i

/-- One ayah of `n` words of one symbol each. -/
def sampleCorpus (n : ℕ) : JsValue := corpusAt (fun i => wordAddress 1 (i + 1)) n

/-- One token with the given phonemes, heard with full confidence. -/
def sampleObservation (id : String) (sourceRevision : ℕ) (isFinal : Bool)
    (phonemes : List String) : JsValue :=
  .object [("observationId", .string id), ("sourceRevision", numberValue sourceRevision),
    ("isFinal", .bool isFinal), ("receivedAtMs", numberValue 0),
    ("tokens", .array [.object [("id", .string "t"), ("text", .string "t"),
      ("phonemes", .array (phonemes.map .string)), ("confidence", numberValue 1)]])]

lemma heardObservation_accepted :
    (validateObservation (sampleObservation "heard" 1 true ["p1", "p2"])).toOption.isSome
      = true := by
  decide +kernel

lemma sampleCorpus_indexed : (indexCorpus (sampleCorpus 5)).toOption.isSome = true := by
  decide +kernel

/-- The index of five symbols. -/
def sampleIndex : IndexedCorpus := Fallible.result _ sampleCorpus_indexed

lemma sampleIndex_created :
    (createReadingTracker ⟨sampleIndex, none, none⟩).toOption.isSome = true := by
  decide +kernel

/-- What a tracker created at the first of five symbols captures. -/
def sampleCreation : TrackerConfig × TrackerState := Fallible.result _ sampleIndex_created

/-- The tracker of five symbols, created at the first. -/
def sampleTracker : CreatedTracker where
  corpus := sampleCorpus 5
  index := sampleIndex
  initialLocation := none
  findingMode := none
  config := sampleCreation.1
  created := sampleCreation.2
  indexed := Fallible.eq_ok_result sampleCorpus_indexed
  creation := Fallible.eq_ok_result sampleIndex_created

end Qaraa
