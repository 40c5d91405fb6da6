import Qaraa.Protocol.Schemas
import Qaraa.Core.Idempotence

/-!
`packages/server/src/session-service.ts`: the boundary checks of a session service.

* `Pattern`, `Pattern.test`: the regular expressions the known domain errors are listed by.
* `assertDomainCorpus`, `assertDomainObservation`: the domain checks, a known error
  answered as invalid payload.
* `admitObservation`: the checks of a submission before it is queued.
* `corpusFor`, `indexedCorpusFor`: the corpus a session is created on.
* `admitObservation_ok`: what is accepted by `assertValidCommand` is admitted.
-/

namespace Qaraa.SessionService

open Fallible

/-! ### Known error messages -/

/-- A piece of a pattern; a pattern is anchored at both ends. -/
inductive Piece where
  | text (text : String)
  | oneOf (texts : List String)
  /-- `\d+`. -/
  | digits
  /-- `.+`. -/
  | anything

/-- A regular expression from `^` to `$`, piece by piece. -/
abbrev Pattern := List Piece

/-- Whether the first `n` of the characters are some and as `p` says. -/
def takes (p : Char → Bool) (n : ℕ) (chars : List Char) : Bool :=
  decide (n < chars.length) && (chars.take (n + 1)).all p

/-- The characters `.` does not match. -/
def isLineTerminator (c : Char) : Bool :=
  c.toNat == 10 || c.toNat == 13 || c.toNat == 0x2028 || c.toNat == 0x2029

/-- Whether a text matches. -/
def Pattern.matches : Pattern → List Char → Bool
  | [], chars => chars.isEmpty
  | .text text :: rest, chars =>
      text.toList.isPrefixOf chars && Pattern.matches rest (chars.drop text.toList.length)
  | .oneOf texts :: rest, chars => texts.any fun text =>
      text.toList.isPrefixOf chars && Pattern.matches rest (chars.drop text.toList.length)
  | .digits :: rest, chars => (List.range chars.length).any fun n =>
      takes Char.isDigit n chars && Pattern.matches rest (chars.drop (n + 1))
  | .anything :: rest, chars => (List.range chars.length).any fun n =>
      takes (fun c => !isLineTerminator c) n chars && Pattern.matches rest (chars.drop (n + 1))

/-- `pattern.test(message)`. -/
def Pattern.test (pattern : Pattern) (message : String) : Bool := pattern.matches message.toList

/-- The messages of a corpus that is refused. -/
def CORPUS_VALIDATION_MESSAGES : List Pattern :=
  [[.text "corpus must be an object"],
    [.text "corpus ", .oneOf ["id", "revision"], .text " must be a non-empty string"],
    [.text "corpus symbols and words must be arrays"],
    [.text "symbol must be an object"],
    [.text "symbol ", .oneOf ["id", "phoneme"], .text " must be a non-empty string"],
    [.text "symbol text must be a string"],
    [.text "symbol location", .oneOf ["", ".surah", ".ayah", ".word", ".symbol"],
      .text " must be ", .oneOf ["an address", "a positive integer"]],
    [.text "duplicate symbol id"],
    [.text "symbol locations must be strictly monotonic"],
    [.text "word must be an object"],
    [.text "word id must be a non-empty string"],
    [.text "word text must be a string"],
    [.text "word must reference at least one symbol"],
    [.text "word symbol id must be a non-empty string"],
    [.text "word location", .oneOf ["", ".surah", ".ayah", ".word"], .text " must be ",
      .oneOf ["an address", "a positive integer"]],
    [.text "duplicate word id"],
    [.text "word locations must be strictly monotonic"],
    [.text "word references missing symbol: ", .anything],
    [.text "word symbols must not span multiple ayat"],
    [.text "word symbols must match the word location"],
    [.text "word symbol IDs must be strictly ordered"],
    [.text "symbol is referenced by multiple words"],
    [.text "symbol is missing from its word"]]

/-- The messages of an observation that is refused. -/
def OBSERVATION_VALIDATION_MESSAGES : List Pattern :=
  [[.text "observation must be an object"],
    [.text "observation id must be a non-empty string"],
    [.text "source revision must be a non-negative integer"],
    [.text "observation isFinal must be a boolean"],
    [.text "observation receivedAtMs must be a non-negative finite timestamp"],
    [.text "observation tokens must be an array"],
    [.text "partial observation must contain at least one token"],
    [.text "observation token must be an object"],
    [.text "observation token id must be a non-empty string"],
    [.text "observation token text must be a string"],
    [.text "observation token phonemes must be strings"],
    [.text "observation token ", .oneOf ["startMs", "endMs"],
      .text " must be a non-negative finite timestamp"],
    [.text "observation token timestamps must not decrease"],
    [.text "observation token confidence must be finite and between 0 and 1"],
    [.text "duplicate token id"],
    [.text "observation must contain at most ", .digits, .text " tokens"],
    [.text "observation must contain at most ", .digits, .text " phonemes"],
    [.text "observation id must contain at most ", .digits, .text " UTF-16 code units"],
    [.text "observation token ", .oneOf ["id", "text", "phoneme"],
      .text " must contain at most ", .digits, .text " UTF-16 code units"]]

/-- `isKnownDomainError`. -/
def isKnownDomainError (error : JsError) (messages : List Pattern) : Bool :=
  match error with
  | .typeError message => messages.any fun pattern => pattern.test message
  | .rangeError _ => false

/-! ### Checks -/

/-- What a failed domain check is answered with. -/
def domainFailure (error : JsError) (messages : List Pattern) (known : QaraaProtocolError) :
    ServiceError :=
  if isKnownDomainError error messages then .protocol known else .js error

/-- The corpus is the checked value. -/
def assertDomainCorpus (corpus : JsValue) : Except ServiceError QuranCorpus :=
  match validateCorpus corpus with
  | .error error =>
      .error (domainFailure error CORPUS_VALIDATION_MESSAGES (invalidCorpus .domainValidation))
  | .ok checked =>
      if checked.symbols.length = 0 then .error (.protocol (invalidCorpus .domainValidation))
      else .ok checked

/-- `assertDomainObservation`. -/
def assertDomainObservation (observation : JsValue) : Except ServiceError CheckedObservation :=
  match h : validateObservation observation with
  | .error error => .error (domainFailure error OBSERVATION_VALIDATION_MESSAGES
      (invalidObservation .domainValidation))
  | .ok checked => .ok ⟨observation, checked, h⟩

/-- The checks of a submission, made before it is queued. -/
def admitObservation (command : ObservationSubmitCommand) :
    Except ServiceError CheckedObservation := do
  let _ ← assertValidObservation command.observation
  assertDomainObservation command.observation

/-- A submission whose observation passes both checks is admitted. -/
lemma admitObservation_of_checked {command : ObservationSubmitCommand}
    {observation : RecitationObservation}
    (hvalid : assertValidObservation command.observation = .ok observation)
    (hchecked : validateObservation command.observation = .ok observation) :
    ∃ o : CheckedObservation, admitObservation command = .ok o ∧ o.value = command.observation := by
  refine ⟨⟨command.observation, observation, hchecked⟩, ?_, rfl⟩
  rw [admitObservation, hvalid, ok_bind, assertDomainObservation]
  split
  · rename_i error herror
    rw [hchecked] at herror
    cases herror
  · rename_i checked hok
    rw [hchecked] at hok
    cases hok
    rfl

/-- A submission that `assertValidCommand` accepts is admitted. -/
lemma admitObservation_ok {command : ObservationSubmitCommand}
    (h : assertValidCommand command.toJson = .ok ()) :
    ∃ o : CheckedObservation, admitObservation command = .ok o ∧ o.value = command.observation := by
  obtain ⟨observation, hvalid, hchecked⟩ := observation_of_command h
  exact admitObservation_of_checked hvalid hchecked

/-! ### Corpora -/

/-- `Corpus was not found` and `Resolved corpus identifier does not match the request`. -/
def corpusError (message corpusId : String) : ServiceError :=
  .protocol ⟨.invalidCorpus, message, false, .corpusId corpusId⟩

/-- What the corpus resolver answers, were it asked. -/
inductive ResolverAnswer where
  | rejected
  | resolved (corpus : Option JsValue)

/-- The corpus of an id: the fixed one when it has this id, else what the resolver
answers. -/
def corpusFor (fixedCorpus : Option JsValue) (resolver : Option ResolverAnswer)
    (corpusId : String) : Except ServiceError JsValue := do
  let fixed := fixedCorpus.filter fun corpus => (corpus.field "corpusId").text? == some corpusId
  let corpus ←
    match fixed, resolver with
    | some corpus, _ => Except.ok (some corpus)
    | none, none => .ok none
    | none, some .rejected => .error .rejected
    | none, some (.resolved corpus) => .ok corpus
  match corpus with
  | none => .error (corpusError "Corpus was not found" corpusId)
  | some corpus => do
      (assertValidCorpus corpus).mapError .protocol
      let checked ← assertDomainCorpus corpus
      failIf (checked.corpusId ≠ corpusId)
        (corpusError "Resolved corpus identifier does not match the request" corpusId)
      return corpus

/-- The corpus of a new session, resolved, checked and indexed. -/
def indexedCorpusFor (fixedCorpus : Option JsValue) (resolver : Option ResolverAnswer)
    (corpusId : String) : Except ServiceError IndexedCorpus := do
  let corpus ← corpusFor fixedCorpus resolver corpusId
  (indexCorpus corpus).mapError .js

/-- The location is one of the corpus. -/
def hasLocation (corpus : IndexedCorpus) (location : QuranLocation) : Bool :=
  corpus.symbols.any fun symbol => symbol.location == location

end Qaraa.SessionService
