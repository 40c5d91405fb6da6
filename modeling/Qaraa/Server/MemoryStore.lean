import Qaraa.Library.Ordered
import Qaraa.Library.PromiseChain
import Qaraa.Server.SessionService

/-!
`MemorySessionStore` of `packages/server/src/memory-store.ts`, job by job.

* `Call`, `operation`: the calls of the store and what each does to the records.
* `MemoryStore`, `enqueue`, `get`, `invoke`, `microtask`: the tails, their reactions and the
  microtasks, first in, first out; a mutation may call the store while it runs.
* `perform`, `atomically`: a call, and a list of calls, as single steps on one record.
* `view_invoke`, `view_microtask`: **the store is a chain of promises for each session**
  (`PromiseChain`).
* `linearizable`: the calls of a session come to what they come to one after the other, in the
  order they were made.
-/

namespace Qaraa.MemorySessionStore

open Ordered SessionService

/-! ### The store -/

/-- What a call is rejected with; `mutation` is what a mutation throws. -/
inductive StoreError (E : Type*) where
  | recordExists (sessionId : String)
  | recordNotFound (sessionId : String)
  | mutation (thrown : E)

/-- What a promise of the store brings. -/
inductive Reply where
  | created
  | found (record : Option SessionRecord)
  | updated (record : SessionRecord)
  | deleted (existed : Bool)

/-- How a promise settles. -/
abbrev Outcome (E : Type*) := Except (StoreError E) Reply

/-- The calls of the store. -/
inductive Call (E : Type*) where
  | create (record : SessionRecord)
  | get (sessionId : String)
  | update (sessionId : String) (mutate : SessionRecord → Except E SessionRecord)
  | delete (sessionId : String)

/-- A microtask; `answer` is the rest of `create`. -/
inductive Job (E : Type*) where
  | operate (ticket : ℕ) (call : Call E)
  | read (ticket : ℕ) (sessionId : String)
  | settleTail (ticket : ℕ) (call : Call E)
  | forgetTail (ticket : ℕ) (call : Call E)
  | answer (ticket : ℕ) (outcome : Outcome E)

section

variable {E : Type*}

/-- The session a call is about. -/
def Call.sessionId : Call E → String
  | .create record => record.sessionId
  | .get sessionId => sessionId
  | .update sessionId _ => sessionId
  | .delete sessionId => sessionId

/-- What runs when a call has its turn. -/
def operation (records : OrderedMap String SessionRecord) :
    Call E → OrderedMap String SessionRecord × Outcome E
  | .create record =>
      if records.has record.sessionId then (records, .error (.recordExists record.sessionId))
      else (records.set record.sessionId record, .ok .created)
  | .get sessionId => (records, .ok (.found (records.get sessionId)))
  | .update sessionId mutate =>
      match records.get sessionId with
      | none => (records, .error (.recordNotFound sessionId))
      | some current =>
          match mutate current with
          | .error thrown => (records, .error (.mutation thrown))
          | .ok updated => (records.set sessionId updated, .ok (.updated updated))
  | .delete sessionId => (records.delete sessionId, .ok (.deleted (records.has sessionId)))

end

/-- The records and the tails with the promises and microtasks. A tail is named by the ticket of
its call; `results` are the settled results of the queued operations and of the reads, `answers`
how the promises given to the callers settled. -/
structure MemoryStore (E : Type*) where
  records : OrderedMap String SessionRecord
  tails : OrderedMap String ℕ
  jobs : List (Job E)
  reactions : ℕ → List (Job E)
  fulfilled : ℕ → Bool
  calls : List (Call E)
  results : ℕ → Option (Outcome E)
  answers : ℕ → Option (Outcome E)

section

variable {E : Type*}

/-- A new store. -/
def MemoryStore.empty : MemoryStore E :=
  ⟨.empty, .empty, [], fun _ => [], fun _ => false, [], fun _ => none, fun _ => none⟩

/-- `previous.then`: a reaction to a tail, or to `Promise.resolve()` where there is none. -/
def MemoryStore.promiseThen (store : MemoryStore E) (previous : Option ℕ) (job : Job E) :
    MemoryStore E :=
  match previous with
  | none => { store with jobs := store.jobs ++ [job] }
  | some tail =>
      if store.fulfilled tail then { store with jobs := store.jobs ++ [job] }
      else
        { store with
          reactions := Function.update store.reactions tail (store.reactions tail ++ [job]) }

/-- `#enqueue`: the result reacts to the tail, the new tail to the result, and the tail's own
removal is the first reaction to it. -/
def enqueue (store : MemoryStore E) (call : Call E) : MemoryStore E :=
  let tail := store.calls.length
  let chained := store.promiseThen (store.tails.get call.sessionId) (.operate tail call)
  { chained with
    calls := store.calls ++ [call]
    reactions := Function.update chained.reactions tail [.forgetTail tail call]
    tails := chained.tails.set call.sessionId tail }

/-- `get` up to its `await`: it reacts to the tail and leaves it the tail. -/
def get (store : MemoryStore E) (sessionId : String) : MemoryStore E :=
  let waiting := store.promiseThen (store.tails.get sessionId) (.read store.calls.length sessionId)
  { waiting with calls := store.calls ++ [.get sessionId] }

/-- The part of a call that runs at once. -/
def invoke (store : MemoryStore E) : Call E → MemoryStore E
  | .get sessionId => get store sessionId
  | call => enqueue store call

/-- The reactions to a settled result: the tail's, and the rest of `create`. -/
def resultReactions (ticket : ℕ) (call : Call E) (outcome : Outcome E) : List (Job E) :=
  match call with
  | .create _ => [.settleTail ticket call, .answer ticket outcome]
  | _ => [.settleTail ticket call]

/-- `create` settles one microtask after its operation; the others give out the result itself. -/
def answerAfter (answers : ℕ → Option (Outcome E)) (ticket : ℕ) (call : Call E)
    (outcome : Outcome E) : ℕ → Option (Outcome E) :=
  match call with
  | .create _ => answers
  | _ => Function.update answers ticket (some outcome)

/-- Whether a mutation runs in the operation of a call. -/
def Call.mutates (records : OrderedMap String SessionRecord) : Call E → Bool
  | .update sessionId _ => records.has sessionId
  | _ => false

/-- The operation of a call, and its result. -/
def operate (store : MemoryStore E) (ticket : ℕ) (call : Call E) : MemoryStore E :=
  let after := operation store.records call
  { store with
    records := after.1
    jobs := store.jobs ++ resultReactions ticket call after.2
    results := Function.update store.results ticket (some after.2)
    answers := answerAfter store.answers ticket call after.2 }

/-- The first microtask; `nested` are the calls that its mutation makes, if one runs. -/
def microtask (store : MemoryStore E) (nested : List (Call E)) : MemoryStore E :=
  match store.jobs with
  | [] => store
  | .operate ticket call :: rest =>
      let running := { store with jobs := rest }
      let called := if call.mutates store.records then nested.foldl invoke running else running
      operate called ticket call
  | .read ticket sessionId :: rest =>
      let outcome := .ok (.found (store.records.get sessionId))
      { store with
        jobs := rest
        results := Function.update store.results ticket (some outcome)
        answers := Function.update store.answers ticket (some outcome) }
  | .settleTail ticket _ :: rest =>
      { store with
        jobs := rest ++ store.reactions ticket
        reactions := Function.update store.reactions ticket []
        fulfilled := Function.update store.fulfilled ticket true }
  | .forgetTail ticket call :: rest =>
      { store with
        jobs := rest
        tails :=
          if store.tails.get call.sessionId = some ticket then store.tails.delete call.sessionId
          else store.tails }
  | .answer ticket outcome :: rest =>
      { store with
        jobs := rest
        answers := Function.update store.answers ticket (some outcome) }

/-- A call from outside, or the first microtask with the calls of its mutation. -/
inductive Action (E : Type*) where
  | invoke (call : Call E)
  | microtask (nested : List (Call E))

/-- What happens next. -/
def step (store : MemoryStore E) : Action E → MemoryStore E
  | .invoke call => invoke store call
  | .microtask nested => microtask store nested

/-- A run of the store. -/
def run (actions : List (Action E)) : MemoryStore E := actions.foldl step .empty

/-! ### Calls as single steps -/

/-- A call as a single step on the record of its session. -/
def perform : Call E → Option SessionRecord → Option SessionRecord × Outcome E
  | .create record, none => (some record, .ok .created)
  | .create record, some existing => (some existing, .error (.recordExists record.sessionId))
  | .get _, record => (record, .ok (.found record))
  | .update sessionId _, none => (none, .error (.recordNotFound sessionId))
  | .update _ mutate, some current =>
      match mutate current with
      | .error thrown => (some current, .error (.mutation thrown))
      | .ok updated => (some updated, .ok (.updated updated))
  | .delete _, record => (none, .ok (.deleted record.isSome))

/-- All but `get` join the queue of their session. -/
def Call.joins : Call E → Bool
  | .get _ => false
  | _ => true

/-- The calls of the sessions. -/
def program : PromiseChain.Program String (Call E) (Option SessionRecord) (Outcome E) where
  key := Call.sessionId
  joins := Call.joins
  initial := none
  perform := perform

/-- Calls of one session one after the other: the record they leave and how they settle. -/
def atomically (calls : List (Call E)) : Option SessionRecord × List (Outcome E) :=
  program.performAll calls

/-! ### The chain of each session -/

/-- A microtask as a job of the chain; the rest of `create` is none. -/
def Job.view : Job E → Option (PromiseChain.Job (Call E))
  | .operate ticket call => some ⟨ticket, call, .perform⟩
  | .read ticket sessionId => some ⟨ticket, .get sessionId, .perform⟩
  | .settleTail ticket call => some ⟨ticket, call, .settle⟩
  | .forgetTail ticket call => some ⟨ticket, call, .forget⟩
  | .answer _ _ => none

/-- The store as a chain of promises for each session. -/
def MemoryStore.view (store : MemoryStore E) :
    PromiseChain.State String (Call E) (Option SessionRecord) (Outcome E) where
  calls := store.calls
  jobs := store.jobs.filterMap Job.view
  reactions ticket := (store.reactions ticket).filterMap Job.view
  fulfilled := store.fulfilled
  tails := store.tails.get
  values := store.records.get
  outcomes := store.results

/-- The calls of a session with their tickets, in the order they were made. -/
def MemoryStore.callsOf (store : MemoryStore E) (sessionId : String) : List (Call E × ℕ) :=
  store.calls.zipIdx.filter fun call => call.1.sessionId = sessionId

lemma get_set_eq_update {κ ν : Type*} [DecidableEq κ] (m : OrderedMap κ ν) (k : κ) (v : ν) :
    (m.set k v).get = Function.update m.get k (some v) := by
  funext k'
  by_cases hk : k' = k
  · subst hk
    rw [OrderedMap.get_set_self, Function.update_self]
  · rw [OrderedMap.get_set_of_ne m hk, Function.update_of_ne hk]

lemma get_delete_eq_update {κ ν : Type*} [DecidableEq κ] (m : OrderedMap κ ν) (k : κ) :
    (m.delete k).get = Function.update m.get k none := by
  funext k'
  by_cases hk : k' = k
  · subst hk
    rw [OrderedMap.get_delete_self, Function.update_self]
  · rw [OrderedMap.get_delete_of_ne m hk, Function.update_of_ne hk]

lemma filterMap_update {A B : Type*} (f : A → Option B) (reactions : ℕ → List A) (ticket : ℕ)
    (jobs : List A) :
    (fun n => (Function.update reactions ticket jobs n).filterMap f)
      = Function.update (fun n => (reactions n).filterMap f) ticket (jobs.filterMap f) := by
  funext n
  by_cases hn : n = ticket
  · subst hn
    rw [Function.update_self, Function.update_self]
  · rw [Function.update_of_ne hn, Function.update_of_ne hn]

/-- The operation of a call changes the record of its session as the single step does. -/
lemma operation_eq (records : OrderedMap String SessionRecord) (call : Call E) :
    (operation records call).1.get = Function.update records.get call.sessionId
        (perform call (records.get call.sessionId)).1 ∧
      (operation records call).2 = (perform call (records.get call.sessionId)).2 := by
  have hkept : ∀ sessionId record, records.get sessionId = record →
      records.get = Function.update records.get sessionId record := by
    rintro sessionId record rfl
    exact (Function.update_eq_self sessionId records.get).symm
  cases call with
  | create record =>
      cases hget : records.get record.sessionId with
      | none =>
          simp only [operation, OrderedMap.has, Call.sessionId, hget, perform]
          exact ⟨get_set_eq_update _ _ _, rfl⟩
      | some existing =>
          simp only [operation, OrderedMap.has, Call.sessionId, hget, perform]
          exact ⟨hkept _ _ hget, rfl⟩
  | get sessionId => exact ⟨hkept _ _ rfl, rfl⟩
  | update sessionId mutate =>
      cases hget : records.get sessionId with
      | none =>
          simp only [operation, Call.sessionId, hget, perform]
          exact ⟨hkept _ _ hget, trivial⟩
      | some current =>
          cases hmutate : mutate current with
          | error thrown =>
              simp only [operation, Call.sessionId, hget, perform, hmutate]
              exact ⟨hkept _ _ hget, trivial⟩
          | ok updated =>
              simp only [operation, Call.sessionId, hget, perform, hmutate]
              exact ⟨get_set_eq_update _ _ _, trivial⟩
  | delete sessionId => exact ⟨get_delete_eq_update records sessionId, rfl⟩

lemma view_promiseThen (store : MemoryStore E) (previous : Option ℕ) {job : Job E}
    {chained : PromiseChain.Job (Call E)} (hjob : job.view = some chained) :
    (store.promiseThen previous job).view = store.view.react previous chained := by
  rw [PromiseChain.State.react]
  cases previous with
  | none => simp [MemoryStore.promiseThen, MemoryStore.view, hjob]
  | some tail =>
      cases hfulfilled : store.fulfilled tail with
      | true =>
          simp [MemoryStore.promiseThen, MemoryStore.view, hjob, Option.filter_some, hfulfilled]
      | false =>
          simp [MemoryStore.promiseThen, MemoryStore.view, hjob, Option.filter_some, hfulfilled,
            filterMap_update]

lemma view_enqueue (store : MemoryStore E) {call : Call E} (hjoins : call.joins = true) :
    (enqueue store call).view = store.view.call program call := by
  have hprogram : program.joins call = true := hjoins
  have hreact : (store.promiseThen (store.tails.get call.sessionId)
      (.operate store.calls.length call)).view
      = store.view.react (store.view.tails (program.key call))
        ⟨store.view.calls.length, call, .perform⟩ := view_promiseThen store _ rfl
  rw [PromiseChain.State.call, if_pos hprogram, ← hreact]
  simp only [enqueue, MemoryStore.view, filterMap_update, get_set_eq_update]
  rfl

/-- **A call is a call on the chain.** -/
theorem view_invoke (store : MemoryStore E) (call : Call E) :
    (invoke store call).view = store.view.call program call := by
  cases call with
  | create record => exact view_enqueue store rfl
  | update sessionId mutate => exact view_enqueue store rfl
  | delete sessionId => exact view_enqueue store rfl
  | get sessionId =>
      have hprogram : ¬program.joins (.get sessionId : Call E) = true := Bool.false_ne_true
      have hreact : (store.promiseThen (store.tails.get sessionId)
          (.read store.calls.length sessionId)).view
          = store.view.react (store.view.tails (program.key (.get sessionId : Call E)))
            ⟨store.view.calls.length, .get sessionId, .perform⟩ := view_promiseThen store _ rfl
      rw [PromiseChain.State.call, if_neg hprogram, ← hreact]
      rfl

/-- The store with one more microtask before the others. -/
def MemoryStore.prepend (store : MemoryStore E) (job : Job E) : MemoryStore E :=
  { store with jobs := job :: store.jobs }

lemma eq_prepend {store : MemoryStore E} {job : Job E} {rest : List (Job E)}
    (hjobs : store.jobs = job :: rest) : store = { store with jobs := rest }.prepend job := by
  rw [MemoryStore.prepend, ← hjobs]

lemma invoke_prepend (store : MemoryStore E) (job : Job E) (call : Call E) :
    invoke (store.prepend job) call = (invoke store call).prepend job := by
  have hthen : ∀ previous other, (store.prepend job).promiseThen previous other
      = (store.promiseThen previous other).prepend job := by
    intro previous other
    cases previous with
    | none => rfl
    | some tail => cases hfulfilled : store.fulfilled tail <;>
        simp [MemoryStore.promiseThen, MemoryStore.prepend, hfulfilled]
  have htails : (store.prepend job).tails = store.tails := rfl
  cases call <;> simp only [invoke, enqueue, get, htails, hthen] <;> rfl

lemma foldl_invoke_prepend (store : MemoryStore E) (job : Job E) (calls : List (Call E)) :
    calls.foldl invoke (store.prepend job) = (calls.foldl invoke store).prepend job := by
  induction calls generalizing store with
  | nil => rfl
  | cons call calls ih => rw [List.foldl_cons, List.foldl_cons, invoke_prepend, ih]

lemma microtask_operate (store : MemoryStore E) (ticket : ℕ) (call : Call E) :
    microtask (store.prepend (.operate ticket call)) [] = operate store ticket call := by
  cases hmutates : call.mutates store.records <;> simp [microtask, MemoryStore.prepend, hmutates]

/-- The calls that a mutation makes are as if made before it runs. -/
lemma microtask_nested (store : MemoryStore E) (nested : List (Call E)) :
    ∃ calls : List (Call E), microtask store nested = microtask (calls.foldl invoke store) [] := by
  cases hjobs : store.jobs with
  | nil => exact ⟨[], by simp only [microtask, hjobs, List.foldl_nil]⟩
  | cons job rest =>
      cases job with
      | operate ticket call =>
          cases hmutates : call.mutates store.records with
          | false =>
              refine ⟨[], ?_⟩
              simp only [microtask, hjobs, hmutates, Bool.false_eq_true, if_false, List.foldl_nil]
          | true =>
              refine ⟨nested, ?_⟩
              conv_rhs => rw [eq_prepend hjobs, foldl_invoke_prepend, microtask_operate]
              simp only [microtask, hjobs, hmutates, if_true]
      | _ =>
          refine ⟨[], ?_⟩
          rw [List.foldl_nil, microtask, microtask, hjobs]

/-- The tail is to be settled after an operation that joined. -/
lemma view_resultReactions (ticket : ℕ) {call : Call E} (outcome : Outcome E)
    (hjoins : call.joins = true) :
    (resultReactions ticket call outcome).filterMap Job.view = [⟨ticket, call, .settle⟩] := by
  cases call with
  | get sessionId => cases hjoins
  | _ => rfl

/-- A queued operation is of a call that joins. -/
def Job.Joined : Job E → Prop
  | .operate _ call => call.joins = true
  | _ => True

/-- **A microtask is a job of the chain**; the rest of `create` is none. -/
theorem view_microtask (store : MemoryStore E) {job : Job E} (hjoined : job.Joined) :
    (microtask (store.prepend job) []).view =
      if job.view.isSome then (store.prepend job).view.next program
      else (store.prepend job).view := by
  cases job with
  | answer ticket outcome => rfl
  | operate ticket call =>
      obtain ⟨hrecords, houtcome⟩ := operation_eq store.records call
      have hjobs : (store.prepend (.operate ticket call)).view.jobs
          = ⟨ticket, call, .perform⟩ :: store.view.jobs := rfl
      have hprogram : program.joins call = true := hjoined
      rw [microtask_operate, Job.view, Option.isSome_some, if_pos rfl,
        PromiseChain.State.next_perform hjobs, if_pos hprogram]
      simp only [operate, MemoryStore.view, MemoryStore.prepend, List.filterMap_append,
        view_resultReactions ticket _ hjoined, hrecords, houtcome]
      rfl
  | read ticket sessionId =>
      have hjobs : (store.prepend (.read ticket sessionId)).view.jobs
          = ⟨ticket, .get sessionId, .perform⟩ :: store.view.jobs := rfl
      have hprogram : ¬program.joins (.get sessionId : Call E) = true := Bool.false_ne_true
      have hkept : Function.update store.records.get sessionId (store.records.get sessionId)
          = store.records.get := Function.update_eq_self sessionId store.records.get
      rw [Job.view, Option.isSome_some, if_pos rfl, PromiseChain.State.next_perform hjobs,
        if_neg hprogram, List.append_nil]
      simp only [microtask, MemoryStore.prepend, MemoryStore.view, program, perform,
        Call.sessionId, hkept]
  | settleTail ticket call =>
      have hjobs : (store.prepend (.settleTail ticket call)).view.jobs
          = ⟨ticket, call, .settle⟩ :: store.view.jobs := rfl
      rw [Job.view, Option.isSome_some, if_pos rfl, PromiseChain.State.next_settle hjobs]
      simp only [microtask, MemoryStore.prepend, MemoryStore.view, List.filterMap_append,
        filterMap_update, List.filterMap_nil]
  | forgetTail ticket call =>
      have hjobs : (store.prepend (.forgetTail ticket call)).view.jobs
          = ⟨ticket, call, .forget⟩ :: store.view.jobs := rfl
      rw [Job.view, Option.isSome_some, if_pos rfl, PromiseChain.State.next_forget hjobs]
      by_cases htail : store.tails.get call.sessionId = some ticket
      · simp [microtask, MemoryStore.prepend, MemoryStore.view, program, htail,
          get_delete_eq_update]
      · simp [microtask, MemoryStore.prepend, MemoryStore.view, program, htail]

/-! ### Every call is answered -/

/-- The answers are the results; a result that is not yet an answer has the rest of `create`
among the microtasks. -/
structure Relays (jobs : List (Job E)) (results answers : ℕ → Option (Outcome E)) : Prop where
  answered : ∀ ticket outcome, answers ticket = some outcome → results ticket = some outcome
  answering : ∀ ticket outcome, .answer ticket outcome ∈ jobs → results ticket = some outcome
  reaches : ∀ ticket outcome, results ticket = some outcome →
    answers ticket = some outcome ∨ .answer ticket outcome ∈ jobs

namespace Relays

variable {jobs : List (Job E)} {results answers : ℕ → Option (Outcome E)} {ticket : ℕ}
  {outcome : Outcome E}

lemma append (h : Relays jobs results answers) {more : List (Job E)}
    (hmore : ∀ job ∈ more, job.view.isSome) : Relays (jobs ++ more) results answers := by
  refine ⟨h.answered, fun other o hmem => ?_, fun other o hresult => ?_⟩
  · rcases List.mem_append.mp hmem with hmem | hmem
    · exact h.answering other o hmem
    · exact absurd (hmore _ hmem) Bool.false_ne_true
  · rcases h.reaches other o hresult with hanswer | hmem
    · exact Or.inl hanswer
    · exact Or.inr (List.mem_append_left _ hmem)

lemma tail {job : Job E} (h : Relays (job :: jobs) results answers) (hjob : job.view.isSome) :
    Relays jobs results answers := by
  refine ⟨h.answered, fun other o hmem => h.answering other o (List.mem_cons_of_mem _ hmem),
    fun other o hresult => ?_⟩
  rcases h.reaches other o hresult with hanswer | hmem
  · exact Or.inl hanswer
  · rcases List.mem_cons.mp hmem with rfl | hmem
    · exact absurd hjob Bool.false_ne_true
    · exact Or.inr hmem

/-- A first result, given out at once. -/
lemma settle (h : Relays jobs results answers) (hfirst : results ticket = none) :
    Relays jobs (Function.update results ticket (some outcome))
      (Function.update answers ticket (some outcome)) := by
  refine ⟨fun other o ho => ?_, fun other o ho => ?_, fun other o ho => ?_⟩
  all_goals by_cases hother : other = ticket
  · subst hother
    rw [Function.update_self] at ho ⊢
    exact ho
  · rw [Function.update_of_ne hother] at ho ⊢
    exact h.answered other o ho
  · subst hother
    have hresult := h.answering other o ho
    rw [hfirst] at hresult
    cases hresult
  · rw [Function.update_of_ne hother]
    exact h.answering other o ho
  · subst hother
    rw [Function.update_self] at ho ⊢
    exact Or.inl ho
  · rw [Function.update_of_ne hother] at ho ⊢
    exact h.reaches other o ho

/-- A first result, to be given out by the rest of `create`. -/
lemma defer (h : Relays jobs results answers) (hfirst : results ticket = none) :
    Relays (jobs ++ [.answer ticket outcome]) (Function.update results ticket (some outcome))
      answers := by
  refine ⟨fun other o ho => ?_, fun other o ho => ?_, fun other o ho => ?_⟩
  · have hresult := h.answered other o ho
    have hother : other ≠ ticket := by
      rintro rfl
      rw [hfirst] at hresult
      cases hresult
    rw [Function.update_of_ne hother]
    exact hresult
  · rcases List.mem_append.mp ho with ho | ho
    · have hresult := h.answering other o ho
      have hother : other ≠ ticket := by
        rintro rfl
        rw [hfirst] at hresult
        cases hresult
      rw [Function.update_of_ne hother]
      exact hresult
    · cases List.mem_singleton.mp ho
      exact Function.update_self _ _ _
  · by_cases hother : other = ticket
    · subst hother
      rw [Function.update_self] at ho
      cases ho
      exact Or.inr (List.mem_append_right _ List.mem_cons_self)
    · rw [Function.update_of_ne hother] at ho
      rcases h.reaches other o ho with hanswer | hmem
      · exact Or.inl hanswer
      · exact Or.inr (List.mem_append_left _ hmem)

/-- The rest of `create` gives the result out. -/
lemma answer (h : Relays (.answer ticket outcome :: jobs) results answers) :
    Relays jobs results (Function.update answers ticket (some outcome)) := by
  have hresult := h.answering ticket outcome List.mem_cons_self
  refine ⟨fun other o ho => ?_, fun other o ho => ?_, fun other o ho => ?_⟩
  · by_cases hother : other = ticket
    · subst hother
      rw [Function.update_self] at ho
      cases ho
      exact hresult
    · rw [Function.update_of_ne hother] at ho
      exact h.answered other o ho
  · exact h.answering other o (List.mem_cons_of_mem _ ho)
  · by_cases hother : other = ticket
    · subst hother
      rw [hresult] at ho
      cases ho
      exact Or.inl (Function.update_self _ _ _)
    · rw [Function.update_of_ne hother]
      rcases h.reaches other o ho with hanswer | hmem
      · exact Or.inl hanswer
      · rcases List.mem_cons.mp hmem with heq | hmem
        · cases heq
          exact absurd rfl hother
        · exact Or.inr hmem

end Relays

/-- What can be said of the microtasks and the answers at any time. -/
structure Answering (store : MemoryStore E) : Prop where
  joined : ∀ job ∈ store.jobs, job.Joined
  chained : ∀ ticket, ∀ job ∈ store.reactions ticket, job.Joined ∧ job.view.isSome
  relays : Relays store.jobs store.results store.answers

lemma forall_mem_update {reactions : ℕ → List (Job E)} {P : Job E → Prop}
    (h : ∀ ticket, ∀ job ∈ reactions ticket, P job) {ticket : ℕ} {jobs : List (Job E)}
    (hjobs : ∀ job ∈ jobs, P job) :
    ∀ other, ∀ job ∈ Function.update reactions ticket jobs other, P job := by
  intro other
  by_cases hother : other = ticket
  · subst hother
    rw [Function.update_self]
    exact hjobs
  · rw [Function.update_of_ne hother]
    exact h other

lemma Answering.promiseThen {store : MemoryStore E} (h : Answering store) (previous : Option ℕ)
    {job : Job E} (hjob : job.Joined ∧ job.view.isSome) :
    Answering (store.promiseThen previous job) := by
  have hsingle : ∀ other ∈ [job], other.Joined ∧ other.view.isSome :=
    List.forall_mem_singleton.mpr hjob
  have happend : Answering { store with jobs := store.jobs ++ [job] } :=
    ⟨List.forall_mem_append.mpr ⟨h.joined, fun other ho => (hsingle other ho).1⟩, h.chained,
      h.relays.append fun other ho => (hsingle other ho).2⟩
  cases previous with
  | none => exact happend
  | some tail =>
      cases hfulfilled : store.fulfilled tail with
      | true =>
          simp only [MemoryStore.promiseThen, hfulfilled, if_true]
          exact happend
      | false =>
          simp only [MemoryStore.promiseThen, hfulfilled, Bool.false_eq_true, if_false]
          exact ⟨h.joined, forall_mem_update h.chained
            (List.forall_mem_append.mpr ⟨h.chained tail, hsingle⟩), h.relays⟩

lemma Answering.enqueue {store : MemoryStore E} (h : Answering store) {call : Call E}
    (hjoins : call.joins = true) : Answering (enqueue store call) := by
  have hthen : Answering (store.promiseThen (store.tails.get call.sessionId)
      (.operate store.calls.length call)) := h.promiseThen _ ⟨hjoins, rfl⟩
  exact ⟨hthen.joined, forall_mem_update hthen.chained
    (List.forall_mem_singleton.mpr ⟨trivial, rfl⟩), hthen.relays⟩

lemma Answering.invoke {store : MemoryStore E} (h : Answering store) (call : Call E) :
    Answering (invoke store call) := by
  cases call with
  | get sessionId =>
      have hthen : Answering (store.promiseThen (store.tails.get sessionId)
          (.read store.calls.length sessionId)) := h.promiseThen _ ⟨trivial, rfl⟩
      exact ⟨hthen.joined, hthen.chained, hthen.relays⟩
  | create record => exact h.enqueue rfl
  | update sessionId mutate => exact h.enqueue rfl
  | delete sessionId => exact h.enqueue rfl

/-- A microtask keeps the answers; an operation or a read has had no result before. -/
lemma Answering.microtask {store : MemoryStore E} {job : Job E}
    (h : Answering (store.prepend job))
    (horder : PromiseChain.InOrder program (store.prepend job).view) :
    Answering (microtask (store.prepend job) []) := by
  have hrest : ∀ other ∈ store.jobs, other.Joined :=
    fun other ho => h.joined other (List.mem_cons_of_mem _ ho)
  cases job with
  | operate ticket call =>
      have hfirst : store.results ticket = none := horder.outcome_eq_none rfl
      have hrelays : Relays (store.jobs ++ [.settleTail ticket call]) store.results store.answers :=
        (h.relays.tail rfl).append (List.forall_mem_singleton.mpr rfl)
      have hjobs : ∀ other ∈ store.jobs ++ [.settleTail ticket call], other.Joined :=
        List.forall_mem_append.mpr ⟨hrest, List.forall_mem_singleton.mpr trivial⟩
      rw [microtask_operate]
      cases call with
      | create record =>
          have hdefer : Relays (store.jobs ++ [.settleTail ticket (.create record)] ++
              [.answer ticket (operation store.records (.create record)).2]) _ store.answers :=
            hrelays.defer hfirst
          rw [List.append_assoc] at hdefer
          refine ⟨?_, h.chained, hdefer⟩
          refine List.forall_mem_append.mpr ⟨hrest, ?_⟩
          exact List.forall_mem_cons.mpr ⟨trivial, List.forall_mem_singleton.mpr trivial⟩
      | _ => exact ⟨hjobs, h.chained, hrelays.settle hfirst⟩
  | read ticket sessionId =>
      exact ⟨hrest, h.chained, (h.relays.tail rfl).settle (horder.outcome_eq_none rfl)⟩
  | settleTail ticket call =>
      refine ⟨?_, forall_mem_update h.chained fun job hjob => absurd hjob List.not_mem_nil, ?_⟩
      · exact List.forall_mem_append.mpr ⟨hrest, fun other ho => (h.chained ticket other ho).1⟩
      · exact (h.relays.tail rfl).append fun other ho => (h.chained ticket other ho).2
  | forgetTail ticket call => exact ⟨hrest, h.chained, h.relays.tail rfl⟩
  | answer ticket outcome => exact ⟨hrest, h.chained, h.relays.answer⟩

/-! ### Whole runs -/

lemma run_concat (actions : List (Action E)) (action : Action E) :
    run (actions ++ [action]) = step (run actions) action := by
  rw [run, List.foldl_append]
  rfl

/-- The store at any time: the calls of each session are in order, and so are the answers. -/
structure Serving (store : MemoryStore E) : Prop where
  order : PromiseChain.InOrder program store.view
  answering : Answering store

lemma Serving.empty : Serving (.empty : MemoryStore E) := by
  have hview : (MemoryStore.empty : MemoryStore E).view = .empty program := rfl
  refine ⟨hview ▸ PromiseChain.InOrder.empty, fun job hjob => absurd hjob List.not_mem_nil,
    fun _ job hjob => absurd hjob List.not_mem_nil, ⟨?_, ?_, ?_⟩⟩
  · exact fun _ _ h => absurd h (Option.some_ne_none _).symm
  · exact fun _ _ h => absurd h List.not_mem_nil
  · exact fun _ _ h => absurd h (Option.some_ne_none _).symm

lemma Serving.invoke {store : MemoryStore E} (h : Serving store) (call : Call E) :
    Serving (invoke store call) := by
  refine ⟨?_, h.answering.invoke call⟩
  rw [view_invoke]
  exact h.order.call call

lemma Serving.foldl_invoke {store : MemoryStore E} (h : Serving store) (calls : List (Call E)) :
    Serving (calls.foldl MemorySessionStore.invoke store) := by
  induction calls generalizing store with
  | nil => exact h
  | cons call calls ih => exact ih (h.invoke call)

lemma Serving.microtask {store : MemoryStore E} (h : Serving store) :
    Serving (microtask store []) := by
  cases hjobs : store.jobs with
  | nil =>
      have hsame : MemorySessionStore.microtask store [] = store := by
        simp only [MemorySessionStore.microtask, hjobs]
      rw [hsame]
      exact h
  | cons job rest =>
      rw [eq_prepend hjobs] at h ⊢
      refine ⟨?_, h.answering.microtask h.order⟩
      rw [view_microtask _ (h.answering.joined job List.mem_cons_self)]
      split
      · exact h.order.next
      · exact h.order

lemma Serving.step {store : MemoryStore E} (h : Serving store) (action : Action E) :
    Serving (step store action) := by
  cases action with
  | invoke call => exact h.invoke call
  | microtask nested =>
      obtain ⟨calls, heq⟩ := microtask_nested store nested
      rw [MemorySessionStore.step, heq]
      exact (h.foldl_invoke calls).microtask

/-- **Every run.** -/
theorem serving_run (actions : List (Action E)) : Serving (run actions) := by
  induction actions using List.reverseRecOn with
  | nil => exact .empty
  | append_singleton actions action ih =>
      rw [run_concat]
      exact ih.step action

/-! ### The microtasks come to an end -/

/-- Whether a microtask is the rest of `create`. -/
def Job.isAnswer (job : Job E) : Bool := job.view.isNone

/-- What is left to run when nothing more is called: an operation may be followed by the rest of
`create`. -/
def MemoryStore.measure (store : MemoryStore E) : ℕ :=
  2 * store.view.measure + store.jobs.countP Job.isAnswer

/-- A job of the chain adds the rest of one `create` at most. -/
lemma countP_microtask {store : MemoryStore E} {job : Job E}
    (h : Answering (store.prepend job)) (hjob : job.view.isSome) :
    (microtask (store.prepend job) []).jobs.countP Job.isAnswer
      ≤ store.jobs.countP Job.isAnswer + 1 := by
  cases job with
  | answer ticket outcome => cases hjob
  | operate ticket call =>
      rw [microtask_operate]
      simp only [operate, List.countP_append]
      cases call <;> simp [resultReactions, Job.isAnswer, Job.view]
  | read ticket sessionId => exact Nat.le_succ _
  | forgetTail ticket call => exact Nat.le_succ _
  | settleTail ticket call =>
      have hnone : (store.reactions ticket).countP Job.isAnswer = 0 := by
        refine List.countP_eq_zero.mpr fun job hmem => ?_
        have hsome := (h.chained ticket job hmem).2
        simpa [Job.isAnswer, Option.isSome_iff_ne_none] using hsome
      simp only [microtask, MemoryStore.prepend, List.countP_append, hnone]
      omega

/-- A microtask leaves less to run. -/
lemma measure_microtask {store : MemoryStore E} {job : Job E} (h : Serving (store.prepend job)) :
    (microtask (store.prepend job) []).measure < (store.prepend job).measure := by
  have hview := view_microtask store (h.answering.joined job List.mem_cons_self)
  rw [MemoryStore.measure, MemoryStore.measure, hview]
  cases hjob : job.view with
  | some chained =>
      have hsome : job.view.isSome := by rw [hjob]; rfl
      have hne : (store.prepend job).view.jobs ≠ [] := by
        simp [MemoryStore.prepend, MemoryStore.view, hjob]
      have hless := PromiseChain.State.measure_next h.order hne
      have hcount := countP_microtask h.answering hsome
      have hcount' : (store.prepend job).jobs.countP Job.isAnswer
          = store.jobs.countP Job.isAnswer := by
        simp [MemoryStore.prepend, Job.isAnswer, hjob]
      rw [Option.isSome_some, if_pos rfl, hcount']
      omega
  | none =>
      rw [Option.isSome_none, if_neg Bool.false_ne_true]
      refine Nat.add_lt_add_left ?_ _
      cases job with
      | answer ticket outcome =>
          have hcount : (store.prepend (.answer ticket outcome)).jobs.countP Job.isAnswer
              = store.jobs.countP Job.isAnswer + 1 := List.countP_cons_of_pos rfl
          rw [hcount]
          exact Nat.lt_succ_self _
      | _ => cases hjob

lemma calls_microtask (store : MemoryStore E) : (microtask store []).calls = store.calls := by
  cases hjobs : store.jobs with
  | nil => simp only [microtask, hjobs]
  | cons job rest =>
      cases job with
      | operate ticket call =>
          conv_lhs => rw [eq_prepend hjobs, microtask_operate]
          rfl
      | _ => simp only [microtask, hjobs]

/-- When nothing more is called, the microtasks come to an end. -/
lemma exists_drained (actions : List (Action E)) :
    ∃ steps, (run (actions ++ List.replicate steps (.microtask []))).jobs = [] ∧
      (run (actions ++ List.replicate steps (.microtask []))).calls = (run actions).calls := by
  induction hmeasure : (run actions).measure using Nat.strong_induction_on
    generalizing actions with
  | _ measure ih =>
      by_cases hjobs : (run actions).jobs = []
      · refine ⟨0, ?_⟩
        rw [List.replicate_zero, List.append_nil]
        exact ⟨hjobs, rfl⟩
      · obtain ⟨job, rest, hcons⟩ := List.exists_cons_of_ne_nil hjobs
        have hnext : run (actions ++ [.microtask []]) = microtask (run actions) [] :=
          run_concat actions _
        have hserving := serving_run actions
        have hless : (run (actions ++ [.microtask []])).measure < measure := by
          rw [hnext, ← hmeasure]
          rw [eq_prepend hcons] at hserving ⊢
          exact measure_microtask hserving
        obtain ⟨steps, hdrained, hcalls⟩ := ih _ hless _ rfl
        rw [hnext, calls_microtask] at hcalls
        refine ⟨steps + 1, ?_⟩
        rw [List.replicate_succ, List.append_cons]
        exact ⟨hdrained, hcalls⟩

/-- The calls that are rejected on a record, and what with. -/
inductive Rejected : Call E → Option SessionRecord → StoreError E → Prop
  | existing (record existing : SessionRecord) :
      Rejected (.create record) (some existing) (.recordExists record.sessionId)
  | missing (sessionId : String) (mutate : SessionRecord → Except E SessionRecord) :
      Rejected (.update sessionId mutate) none (.recordNotFound sessionId)
  | thrown (sessionId : String) {mutate : SessionRecord → Except E SessionRecord}
      {current : SessionRecord} {thrown : E} (h : mutate current = .error thrown) :
      Rejected (.update sessionId mutate) (some current) (.mutation thrown)

/-- A rejected call leaves the record as it is, and only these calls are rejected. -/
lemma perform_eq_error_iff (call : Call E) (record : Option SessionRecord) (error : StoreError E) :
    (perform call record).2 = .error error ↔ Rejected call record error := by
  constructor
  · intro h
    cases call with
    | create new =>
        cases record with
        | none => cases h
        | some existing =>
            cases h
            exact .existing new existing
    | get sessionId => cases h
    | delete sessionId => cases h
    | update sessionId mutate =>
        cases record with
        | none =>
            cases h
            exact .missing sessionId mutate
        | some current =>
            cases hmutate : mutate current with
            | error thrown =>
                simp only [perform, hmutate] at h
                cases h
                exact .thrown sessionId hmutate
            | ok updated =>
                simp only [perform, hmutate] at h
                cases h
  · intro h
    cases h with
    | existing new existing => rfl
    | missing sessionId mutate => rfl
    | thrown sessionId hmutate => simp only [perform, hmutate]

lemma Rejected.kept {call : Call E} {record : Option SessionRecord} {error : StoreError E}
    (h : Rejected call record error) : (perform call record).1 = record := by
  cases h with
  | existing new existing => rfl
  | missing sessionId mutate => rfl
  | thrown sessionId hmutate => simp only [perform, hmutate]

/-- **The store is linearizable in call order.** In every run, for the calls of a session in the
order they were made: an answer is what the call comes to after the calls made before it, one
after the other; a `get` is answered with the record that these leave; the record is the one that
the first of the calls leave, as many as have been performed; when no microtask is left all calls
are answered and performed, and with nothing more called that comes about; and a call is rejected
exactly when it is on the record it meets, which it leaves as it is. -/
theorem linearizable (actions : List (Action E)) (sessionId : String) :
    let store := run actions
    let calls := (store.callsOf sessionId).map Prod.fst
    let tickets := (store.callsOf sessionId).map Prod.snd
    let before := fun i => (atomically (calls.take i)).1
    (∀ (i ticket : ℕ) (outcome : Outcome E), tickets[i]? = some ticket →
      store.answers ticket = some outcome → (atomically calls).2[i]? = some outcome) ∧
    (∀ (i ticket : ℕ) (outcome : Outcome E), tickets[i]? = some ticket →
      calls[i]? = some (.get sessionId) → store.answers ticket = some outcome →
      outcome = .ok (.found (before i))) ∧
    (∃ performed, store.records.get sessionId = before performed) ∧
    (store.jobs = [] → store.records.get sessionId = (atomically calls).1 ∧
      tickets.map store.answers = (atomically calls).2.map some) ∧
    (∃ steps, let last := run (actions ++ List.replicate steps (.microtask []))
      last.jobs = [] ∧ last.calls = store.calls) ∧
    (∀ (i : ℕ) (call : Call E) (error : StoreError E), calls[i]? = some call →
      ((atomically calls).2[i]? = some (.error error) ↔ Rejected call (before i) error) ∧
      (Rejected call (before i) error → before (i + 1) = before i)) := by
  intro store calls tickets before
  have hserving : Serving store := serving_run actions
  have hcallsOf : store.view.callsOf program sessionId = store.callsOf sessionId := rfl
  have hanswer : ∀ (i ticket : ℕ) (outcome : Outcome E), tickets[i]? = some ticket →
      store.answers ticket = some outcome → (atomically calls).2[i]? = some outcome := by
    intro i ticket outcome hticket houtcome
    rw [List.getElem?_map, Option.map_eq_some_iff] at hticket
    obtain ⟨⟨call, _⟩, hcall, rfl⟩ := hticket
    exact hserving.order.outcome hcall (hserving.answering.relays.answered _ _ houtcome)
  have hat : ∀ (i : ℕ) (call : Call E), calls[i]? = some call →
      (atomically calls).2[i]? = some (perform call (before i)).2 ∧
        before (i + 1) = (perform call (before i)).1 :=
    fun i call hcall => program.performAll_getElem? hcall
  refine ⟨hanswer, fun i ticket outcome hticket hcall houtcome => ?_, ?_, fun hjobs => ?_,
    exists_drained actions, fun i call error hcall => ⟨?_, fun hrejected => ?_⟩⟩
  · have hsettled := hanswer i ticket outcome hticket houtcome
    rw [(hat i _ hcall).1] at hsettled
    exact (Option.some.inj hsettled).symm
  · obtain ⟨performed, waiting, hkey⟩ := hserving.order.keys sessionId
    refine ⟨performed.length, hkey.value.trans ?_⟩
    have htake : calls.take performed.length = performed.map Prod.fst := by
      rw [← List.map_take, ← hcallsOf, hkey.calls, List.take_left]
    rw [← htake]
    rfl
  · have hview : store.view.jobs = [] := by
      rw [MemoryStore.view, hjobs, List.filterMap_nil]
    obtain ⟨hrecord, hresults⟩ := hserving.order.of_no_jobs hview sessionId
    refine ⟨hrecord, ?_⟩
    have hsame : tickets.map store.answers = tickets.map store.results := by
      refine List.map_congr_left fun ticket _ => Option.ext fun outcome => ?_
      refine ⟨hserving.answering.relays.answered ticket outcome, fun hresult => ?_⟩
      rcases hserving.answering.relays.reaches ticket outcome hresult with h | h
      · exact h
      · rw [hjobs] at h
        exact absurd h List.not_mem_nil
    rw [hsame, List.map_map]
    exact hresults
  · rw [(hat i call hcall).1, Option.some.injEq]
    exact perform_eq_error_iff call (before i) error
  · rw [(hat i call hcall).2]
    exact hrejected.kept

end

end Qaraa.MemorySessionStore
