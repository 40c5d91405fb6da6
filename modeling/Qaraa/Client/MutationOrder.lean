import Qaraa.Client.RemoteLog

/-!
The order of the mutations of a remote session, and which submissions send a request.

* `Sound.lt_of_kind_ne`: acts of mutations of two kinds stand in the order of the calls.
* `Sound.no_request`: after a submission has succeeded, another with the same id sends a
  request only after a reset between the two.
* `Sound.own_request`: a submission called after a reset that succeeds is answered by a
  request sent after that reset.
* `mutations_ordered_deduplicated`: **the three together, in every run**.
-/

namespace Qaraa.Client

open Ordered KeyedQueue Chronicle

/-- The mutation an act is about. -/
def Act.mutation : Act → Option (ℕ × Kind)
  | .queued ticket kind | .fetched ticket kind | .succeeded ticket kind
  | .resolved ticket kind | .failed ticket kind _ => some (ticket, kind)
  | _ => none

namespace RemoteSession

variable {s : RemoteSession} (h : s.Sound)

include h

/-! ### Turns in the log -/

/-- Every act of a mutation comes after its call. -/
lemma Sound.called {before after : List Act} {act : Act} (hacts : s.acts = before ++ act :: after)
    {ticket : ℕ} {kind : Kind} (hmutation : act.mutation = some (ticket, kind)) :
    .queued ticket kind ∈ before ∨ act = .queued ticket kind := by
  have hfetched : ∀ before after, s.acts = before ++ .fetched ticket kind :: after →
      .queued ticket kind ∈ before := fun before after hsplit =>
    (h.log before _ after hsplit).2.1
  have hfollows := h.log before act after hacts
  cases act with
  | queued ticket' kind' =>
      cases hmutation
      exact Or.inr rfl
  | fetched ticket' kind' =>
      cases hmutation
      exact Or.inl hfollows.2.1
  | resolved ticket' kind' =>
      cases hmutation
      exact Or.inl hfollows.1
  | failed ticket' kind' error =>
      cases hmutation
      exact Or.inl hfollows.1
  | succeeded ticket' kind' =>
      cases hmutation
      obtain ⟨earlier, later, rfl⟩ := List.append_of_mem hfollows
      refine Or.inl (List.mem_append_left _
        (hfetched earlier (later ++ .succeeded ticket kind :: after) ?_))
      rw [hacts, List.append_assoc, List.cons_append]
  | _ => cases hmutation

/-- A mutation is of one kind. -/
lemma Sound.kind_eq {a b : Act} (ha : a ∈ s.acts) (hb : b ∈ s.acts) {ticket : ℕ} {kind kind' : Kind}
    (hkind : a.mutation = some (ticket, kind)) (hkind' : b.mutation = some (ticket, kind')) :
    kind = kind' := by
  have hcalled : ∀ {act kind}, act ∈ s.acts → act.mutation = some (ticket, kind) →
      .queued ticket kind ∈ s.acts := by
    intro act kind hact hmutation
    obtain ⟨before, after, hacts⟩ := List.append_of_mem hact
    rcases h.called hacts hmutation with hmem | rfl
    · rw [hacts]
      exact List.mem_append_left _ hmem
    · exact hact
  obtain ⟨entry, hentry, rfl⟩ := h.inOrder.queued ticket kind (hcalled ha hkind)
  obtain ⟨entry', hentry', rfl⟩ := h.inOrder.queued ticket kind' (hcalled hb hkind')
  rw [hentry] at hentry'
  cases hentry'
  rfl

/-- Acts of two mutations of different kinds stand in the order of the calls. -/
lemma Sound.lt_of_kind_ne {before mid after : List Act} {a b : Act}
    (hacts : s.acts = before ++ a :: (mid ++ b :: after)) {x y : Turn} (hx : a.turn = some x)
    (hy : b.turn = some y) {kind kind' : Kind} (hkind : a.mutation = some (x.1, kind))
    (hkind' : b.mutation = some (y.1, kind')) (hne : kind ≠ kind') : x.1 < y.1 := by
  rcases h.inOrder.turns.between hacts hx hy with ⟨heq, -⟩ | ⟨hlt, -⟩
  · rw [heq] at hkind'
    exact absurd (h.kind_eq (by simp [hacts]) (by simp [hacts]) hkind hkind') hne
  · exact hlt

/-! ### One request for an id -/

/-- After a submission has succeeded, another with the same id sends a request only when a
reset between the two has succeeded meanwhile. -/
lemma Sound.no_request {before mid after : List Act} {ticket other : ℕ} {observationId : String}
    (hacts : s.acts = before ++ .succeeded ticket (.submission observationId)
      :: (mid ++ .fetched other (.submission observationId) :: after)) (hne : other ≠ ticket) :
    ∃ reset, ticket < reset ∧ reset < other ∧ .succeeded reset .reset ∈ mid := by
  induction hlength : mid.length using Nat.strong_induction_on generalizing mid after with
  | h n ih =>
  subst hlength
  have hlt : ticket < other := by
    rcases h.inOrder.turns.between hacts rfl rfl with ⟨heq, -⟩ | ⟨hlt, -⟩
    · exact absurd heq hne
    · exact hlt
  have hsplit : s.acts = (before ++ .succeeded ticket (.submission observationId) :: mid)
      ++ .fetched other (.submission observationId) :: after := by
    rw [hacts, List.append_assoc, List.cons_append]
  obtain ⟨-, -, hrepeated | hfresh⟩ := h.log _ _ _ hsplit
  · -- a retry: the first request is to be looked at instead
    rcases List.mem_append.mp hrepeated with hearlier | hlater
    · obtain ⟨earlier, later, rfl⟩ := List.append_of_mem hearlier
      have hagain : s.acts = earlier ++ .fetched other (.submission observationId)
          :: (later ++ .succeeded ticket (.submission observationId)
            :: (mid ++ .fetched other (.submission observationId) :: after)) := by
        rw [hacts, List.append_assoc, List.cons_append]
      rcases h.inOrder.turns.between hagain rfl rfl with ⟨heq, -⟩ | ⟨hgt, -⟩
      · exact absurd heq.symm hne
      · exact absurd (hlt.trans hgt) (lt_irrefl _)
    · rcases List.mem_cons.mp hlater with hcontra | hlater
      · cases hcontra
      · obtain ⟨earlier, later, rfl⟩ := List.append_of_mem hlater
        have hagain : s.acts = before ++ .succeeded ticket (.submission observationId)
            :: (earlier ++ .fetched other (.submission observationId)
              :: (later ++ .fetched other (.submission observationId) :: after)) := by
          rw [hacts]
          simp
        obtain ⟨reset, hafter, hbefore, hmem⟩ := ih earlier.length (by simp) hagain rfl
        exact ⟨reset, hafter, hbefore, List.mem_append_left _ hmem⟩
  · -- the first request: the id is forgotten, which only a reset does
    have hforgotten : ∃ reset, .succeeded reset .reset ∈ mid := by
      by_contra hnone
      exact hfresh _ rfl ⟨before, ticket, mid, rfl, fun reset hmem => hnone ⟨reset, hmem⟩⟩
    obtain ⟨reset, hmem⟩ := hforgotten
    obtain ⟨earlier, later, rfl⟩ := List.append_of_mem hmem
    have hfirst : s.acts = before ++ .succeeded ticket (.submission observationId)
        :: (earlier ++ .succeeded reset .reset
          :: (later ++ .fetched other (.submission observationId) :: after)) := by
      rw [hacts]
      simp
    have hsecond : s.acts = (before ++ .succeeded ticket (.submission observationId) :: earlier)
        ++ .succeeded reset .reset
          :: (later ++ .fetched other (.submission observationId) :: after) := by
      rw [hfirst]
      simp
    exact ⟨reset, h.lt_of_kind_ne hfirst rfl rfl rfl rfl nofun,
      h.lt_of_kind_ne hsecond rfl rfl rfl rfl nofun, hmem⟩

/-! ### After a reset -/

/-- A submission remembered was called after the resets that have succeeded. -/
lemma Sound.acked_after {before after : List Act} (hacts : s.acts = before ++ after)
    {observationId : String} (hacked : Acked before observationId) :
    ∃ ticket, (∀ reset, .succeeded reset .reset ∈ before → reset < ticket) ∧
      .succeeded ticket (.submission observationId) ∈ before ∧
      .fetched ticket (.submission observationId) ∈ before := by
  obtain ⟨earlier, ticket, later, rfl, hnone⟩ := hacked
  have hfetched : .fetched ticket (.submission observationId) ∈ earlier :=
    h.log earlier (.succeeded ticket (.submission observationId)) (later ++ after)
      (by rw [hacts]; simp)
  refine ⟨ticket, fun reset hsucceeded => ?_, by simp, List.mem_append_left _ hfetched⟩
  rcases List.mem_append.mp hsucceeded with hmem | hmem
  · obtain ⟨first, second, rfl⟩ := List.append_of_mem hmem
    have hsplit : s.acts = first ++ .succeeded reset .reset
        :: (second ++ .succeeded ticket (.submission observationId) :: (later ++ after)) := by
      rw [hacts]
      simp
    exact h.lt_of_kind_ne hsplit rfl rfl rfl rfl nofun
  · rcases List.mem_cons.mp hmem with hcontra | hmem
    · cases hcontra
    · exact absurd hmem (hnone reset)

/-- A mutation that has settled shows nothing afterwards. -/
lemma Sound.succeeded_before {before after : List Act} (hacts : s.acts = before ++ after)
    {ticket : ℕ} (hsettled : Settled before ticket) {kind : Kind}
    (hsucceeded : .succeeded ticket kind ∈ s.acts) : .succeeded ticket kind ∈ before := by
  rw [hacts] at hsucceeded
  refine (List.mem_append.mp hsucceeded).resolve_right fun hlater => ?_
  obtain ⟨act, hact, hturn⟩ := hsettled
  obtain ⟨first, second, rfl⟩ := List.append_of_mem hact
  obtain ⟨third, fourth, rfl⟩ := List.append_of_mem hlater
  have hsplit : s.acts
      = first ++ act :: ((second ++ third) ++ .succeeded ticket kind :: fourth) := by
    rw [hacts]
    simp
  rcases h.inOrder.turns.between hsplit hturn rfl with ⟨-, hcontra⟩ | ⟨hlt, -⟩
  · cases hcontra
  · exact lt_irrefl _ hlt

/-- A submission answered at once with the snapshot held, after a reset that succeeds. -/
lemma Sound.held_after {before after : List Act} {observationId : String}
    (hacts : s.acts = before ++ .held observationId :: after) {reset : ℕ}
    (hqueued : .queued reset .reset ∈ before) (hsucceeded : .succeeded reset .reset ∈ s.acts) :
    ∃ ticket, reset < ticket ∧ .succeeded ticket (.submission observationId) ∈ before ∧
      .fetched ticket (.submission observationId) ∈ before := by
  obtain ⟨-, hacked, hsettled⟩ := h.log _ _ _ hacts
  obtain ⟨ticket, hresets, hticket⟩ := h.acked_after hacts hacked
  exact ⟨ticket, hresets reset (h.succeeded_before hacts (hsettled reset hqueued) hsucceeded),
    hticket⟩

/-- A submission that is queued after a reset that succeeds has sent its own request by the
time it has settled, or one of those called between the two has succeeded with its. -/
lemma Sound.own_request (hopen : .closed ∉ s.acts) {reset ticket : ℕ} {observationId : String}
    (hsucceeded : .succeeded reset .reset ∈ s.acts)
    (hqueued : .queued ticket (.submission observationId) ∈ s.acts) (hlt : reset < ticket)
    (hsettled : Settled s.acts ticket) :
    .fetched ticket (.submission observationId) ∈ s.acts ∨ ∃ other, reset < other ∧
      other < ticket ∧ .fetched other (.submission observationId) ∈ s.acts ∧
      .succeeded other (.submission observationId) ∈ s.acts := by
  obtain ⟨act, hact, hturn⟩ := hsettled
  obtain ⟨before, after, hacts⟩ := List.append_of_mem hact
  have hfollows := h.log before act after hacts
  have hmem : ∀ {a}, a ∈ before → a ∈ s.acts := fun ha => hacts ▸ List.mem_append_left _ ha
  cases act with
  | resolved ticket' kind =>
      cases hturn
      have hkind := h.kind_eq (hmem hfollows.1) hqueued rfl rfl
      subst hkind
      obtain ⟨-, hfetched | ⟨-, other, hother, hacked⟩⟩ := hfollows
      · exact Or.inl (hmem hfetched)
      · cases hother
        have hreset : .succeeded reset .reset ∈ before := by
          rw [hacts] at hsucceeded
          refine (List.mem_append.mp hsucceeded).resolve_right fun hlater => ?_
          rcases List.mem_cons.mp hlater with hcontra | hlater
          · cases hcontra
          · obtain ⟨first, second, rfl⟩ := List.append_of_mem hlater
            rcases h.inOrder.turns.between hacts rfl rfl with ⟨-, hcontra⟩ | ⟨hgt, -⟩
            · cases hcontra
            · exact absurd (hlt.trans hgt) (lt_irrefl _)
        obtain ⟨other, hresets, hdone, hfetched⟩ := h.acked_after hacts hacked
        have hafter : reset < other := hresets reset hreset
        obtain ⟨first, second, rfl⟩ := List.append_of_mem hdone
        have hsplit : s.acts = first ++ .succeeded other (.submission observationId)
            :: (second ++ .resolved ticket (.submission observationId) :: after) := by
          rw [hacts]
          simp
        rcases h.inOrder.turns.between hsplit rfl rfl with ⟨heq, -⟩ | ⟨hbefore, -⟩
        · cases heq
          exact Or.inl (hmem hfetched)
        · exact Or.inr ⟨other, hafter, hbefore, hmem hfetched, hmem hdone⟩
  | failed ticket' kind error =>
      cases hturn
      have hkind := h.kind_eq (hmem hfollows.1) hqueued rfl rfl
      subst hkind
      exact Or.inl (hfollows.2.elim (fun hfetched => hmem hfetched)
        fun hclosed => absurd (hmem hclosed.2) hopen)
  | _ => cases hturn

end RemoteSession

/-! ### The three together -/

/-- **Mutations are sent in order, and an id is sent once between two resets.** In every run
of a remote session:

1. one mutation is under way at a time; the calls are numbered as they are made, and a
   request is sent after its call, and after a request of an earlier mutation only when that
   mutation has settled;
2. when a submission has succeeded, another with its id sends a request only after a reset
   that was called between the two has succeeded; and a mutation that has sent no request is
   rejected only by the closing of the session;
3. a submission called after a reset that succeeds is answered by its own request, or by that
   of another with its id called after that reset, which has succeeded or is in flight. -/
theorem mutations_ordered_deduplicated (options : RemoteOptions)
    (first : Except SessionError ReadingSnapshot) (dial : Dial) (session : RemoteSession)
    (created : createRemoteSession options first dial = .ok session)
    (actions : List RemoteAction) :
    let s := session.run options actions
    ((∀ (ticket ticket' : ℕ) (frame frame' : Mutation),
        s.Runs ticket frame → s.Runs ticket' frame' → ticket = ticket') ∧
      (∀ (before mid after : List Act) (ticket ticket' : ℕ) (kind kind' : Kind),
        s.acts = before ++ Act.queued ticket kind :: (mid ++ Act.queued ticket' kind' :: after) →
          ticket < ticket') ∧
      (∀ (before after : List Act) (ticket : ℕ) (kind : Kind),
        s.acts = before ++ Act.fetched ticket kind :: after → Act.queued ticket kind ∈ before) ∧
      ∀ (before mid after : List Act) (ticket ticket' : ℕ) (kind kind' : Kind),
        s.acts = before ++ Act.fetched ticket kind :: (mid ++ Act.fetched ticket' kind' :: after) →
          ticket' = ticket ∨ ticket < ticket' ∧ Settled mid ticket) ∧
    ((∀ (before mid after : List Act) (ticket other : ℕ) (observationId : String),
        s.acts = before ++ Act.succeeded ticket (.submission observationId)
          :: (mid ++ Act.fetched other (.submission observationId) :: after) → other ≠ ticket →
        ∃ reset, ticket < reset ∧ reset < other ∧ Act.succeeded reset .reset ∈ mid) ∧
      ∀ (before after : List Act) (ticket : ℕ) (kind : Kind) (error : SessionError),
        s.acts = before ++ Act.failed ticket kind error :: after →
        Act.fetched ticket kind ∈ before ∨ error = .closed ∧ Act.closed ∈ before) ∧
    ∀ reset, Act.succeeded reset .reset ∈ s.acts →
      (∀ (before after : List Act) (observationId : String),
        s.acts = before ++ Act.held observationId :: after → Act.queued reset .reset ∈ before →
        ∃ ticket, reset < ticket ∧ Act.succeeded ticket (.submission observationId) ∈ before ∧
          Act.fetched ticket (.submission observationId) ∈ before) ∧
      (∀ (before after : List Act) (observationId : String) (ticket : ℕ),
        s.acts = before ++ Act.shared observationId ticket :: after →
        Act.queued reset .reset ∈ before → reset < ticket ∧
          Act.queued ticket (.submission observationId) ∈ before) ∧
      ∀ (ticket : ℕ) (observationId : String),
        Act.queued ticket (.submission observationId) ∈ s.acts → reset < ticket →
        Settled s.acts ticket → Act.closed ∉ s.acts →
        Act.fetched ticket (.submission observationId) ∈ s.acts ∨ ∃ other, reset < other ∧
          other < ticket ∧ Act.fetched other (.submission observationId) ∈ s.acts ∧
          Act.succeeded other (.submission observationId) ∈ s.acts := by
  intro s
  have h : s.Sound := RemoteSession.run_sound options
    (RemoteSession.createRemoteSession_sound created) actions
  refine ⟨⟨fun ticket frame ticket' frame' => h.inOrder.unique, ?_, ?_, ?_⟩,
    ⟨?_, fun before after ticket kind error hacts => (h.log _ _ _ hacts).2⟩,
    fun reset hsucceeded => ⟨?_, ?_, ?_⟩⟩
  · intro before mid after ticket ticket' kind kind' hacts
    refine h.log (before ++ .queued ticket kind :: mid) (.queued ticket' kind') after ?_ ticket
      kind (by simp)
    rw [hacts, List.append_assoc, List.cons_append]
  · exact fun before after ticket kind hacts => (h.log _ _ _ hacts).2.1
  · intro before mid after ticket ticket' kind kind' hacts
    refine (h.inOrder.turns.between hacts rfl rfl).imp And.left fun ⟨hlt, act, hact, hturn⟩ =>
      ⟨hlt, act, ?_, hturn⟩
    refine (List.mem_cons.mp hact).resolve_left ?_
    rintro rfl
    cases hturn
  · exact fun before mid after ticket other observationId hacts => h.no_request hacts
  · exact fun before after observationId hacts hqueued => h.held_after hacts hqueued hsucceeded
  · intro before after observationId ticket hacts hqueued
    obtain ⟨hticket, hlater⟩ := h.log _ _ _ hacts
    exact ⟨hlater reset hqueued, hticket⟩
  · exact fun ticket observationId hqueued hlt hsettled hopen =>
      h.own_request hopen hsucceeded hqueued hlt hsettled

/-! ### A sample -/

/-- A snapshot at the first word. -/
def sampleSnapshot (revision : ℕ) : ReadingSnapshot :=
  ⟨revision, none, ⟨⟨1, 1, 1, 1⟩, false, none⟩, ⟨⟨1, 1, 1, 1⟩, []⟩, none, none⟩

/-- A session of the sample with one attempt for everything. -/
def remoteSample : RemoteOptions := ⟨"A", 1, le_rfl, fun n => toString n⟩

/-- The observation `"o"`. -/
def submissionSample : Submission := ⟨"o", .null, .null, .null, .null⟩

/-- A mutation is called, sent, answered with a snapshot and settled. -/
def mutateSample (call : SessionCall) (ticket revision : ℕ) : List RemoteAction :=
  [.call call, .start ticket, .resume ticket {},
    .resume ticket { response := .updated (sampleSnapshot revision) }, .settle ticket]

/-- A submission, a reset and the same submission again. -/
def resubmitted : List RemoteAction :=
  mutateSample (.submit submissionSample) 0 1 ++ mutateSample (.reset none) 1 2
    ++ mutateSample (.submit submissionSample) 2 3

/-- The session the samples start from. -/
def openedSample : RemoteSession := (RemoteSession.loaded (sampleSnapshot 0)).openSocket .created

lemma openedSample_created :
    createRemoteSession remoteSample (.ok (sampleSnapshot 0)) .created = .ok openedSample := rfl

/-- The same submission after a reset sends a request of its own, or shares one sent since. -/
theorem mutations_ordered_deduplicated_sample :
    .fetched 2 (.submission "o") ∈ (openedSample.run remoteSample resubmitted).acts ∨
      ∃ other, 1 < other ∧ other < 2 ∧
        .fetched other (.submission "o") ∈ (openedSample.run remoteSample resubmitted).acts ∧
        .succeeded other (.submission "o") ∈ (openedSample.run remoteSample resubmitted).acts :=
  ((mutations_ordered_deduplicated remoteSample (.ok (sampleSnapshot 0)) .created openedSample
    openedSample_created resubmitted).2.2 1 (by decide +kernel)).2.2 2 "o" (by decide +kernel)
    (by decide) ⟨.resolved 2 (.submission "o"), by decide +kernel, rfl⟩ (by decide +kernel)

/-- The submission is called once more. -/
def resubmittedTwice : List RemoteAction := resubmitted ++ [.call (.submit submissionSample)]

/-- A second submission after the reset is answered with the snapshot held: not every
submission called after a reset that succeeds sends its own request. -/
theorem second_submission_held :
    ¬∀ (options : RemoteOptions) (first : Except SessionError ReadingSnapshot) (dial : Dial)
      (session : RemoteSession), createRemoteSession options first dial = .ok session →
      ∀ (actions : List RemoteAction) (reset : ℕ) (before after : List Act)
        (observationId : String),
        (session.run options actions).acts = before ++ .held observationId :: after →
        .queued reset .reset ∈ before →
        .succeeded reset .reset ∉ (session.run options actions).acts := by
  intro hclaim
  have hlast : (openedSample.run remoteSample resubmittedTwice).acts
      = (openedSample.run remoteSample resubmitted).acts ++ .held "o" :: [] := by decide +kernel
  have hqueued : .queued 1 .reset ∈ (openedSample.run remoteSample resubmitted).acts := by
    decide +kernel
  have hsucceeded : .succeeded 1 .reset
      ∈ (openedSample.run remoteSample resubmittedTwice).acts := by decide +kernel
  exact hclaim remoteSample (.ok (sampleSnapshot 0)) .created openedSample openedSample_created
    resubmittedTwice 1 (openedSample.run remoteSample resubmitted).acts [] "o" hlast hqueued
    hsucceeded

end Qaraa.Client
