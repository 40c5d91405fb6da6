import Qaraa.Core.EditScript

/-!
One workspace, many calls: a workspace is handed on with whatever an earlier call left in
its rows and directions, laid out for other lengths.

* `alignEach`: a sequence of calls on one workspace. A call that throws does so before its
  first write, so it hands the workspace on as it was.
* `alignPhonemes_eq`: a call with a fresh workspace returns the edit path.
* `workspace_reuse`: **every call of a sequence returns what a fresh workspace gives**, and
  throws exactly when an input exceeds its capacity.
-/

namespace Qaraa

/-- The outcomes of successive calls on one workspace, and the workspace after them. -/
def alignEach (workspace : AlignmentWorkspace) :
    List (List String × List String) → List (Except JsError AlignmentPath) × AlignmentWorkspace
  | [] => ([], workspace)
  | (actual, reference) :: calls =>
      match alignPhonemesWithWorkspace actual reference workspace with
      | .ok (path, after) => (.ok path :: (alignEach after calls).1, (alignEach after calls).2)
      | .error error =>
          (.error error :: (alignEach workspace calls).1, (alignEach workspace calls).2)

/-- What a call gives that shares nothing with earlier ones: a fresh workspace, behind the
capacities of the shared one. -/
def freshOutcome (actualCapacity referenceCapacity : ℕ) (call : List String × List String) :
    Except JsError AlignmentPath :=
  if actualCapacity < call.1.length ∨ referenceCapacity < call.2.length then
    .error (.rangeError "alignment workspace capacity exceeded")
  else alignPhonemes call.1 call.2

/-- A fresh workspace is always large enough. -/
lemma alignPhonemes_eq (actual reference : List String) :
    alignPhonemes actual reference = .ok (editPath actual reference) := by
  obtain ⟨after, hcall, -⟩ := alignPhonemesWithWorkspace_eq
    (createAlignmentWorkspace_fits actual.length reference.length) le_rfl le_rfl
  rw [alignPhonemes, hcall]
  rfl

/-- A call beyond the capacities throws. -/
lemma alignPhonemesWithWorkspace_throws {a r : ℕ} {workspace : AlignmentWorkspace}
    (h : workspace.Fits a r) {actual reference : List String}
    (hexceeds : a < actual.length ∨ r < reference.length) :
    alignPhonemesWithWorkspace actual reference workspace
      = .error (.rangeError "alignment workspace capacity exceeded") := by
  rw [alignPhonemesWithWorkspace, h.actual, h.reference, if_pos hexceeds]

/-- The calls of a sequence give what fresh workspaces give, whatever the shared one holds
at first. -/
lemma alignEach_eq {a r : ℕ} {workspace : AlignmentWorkspace} (h : workspace.Fits a r)
    (calls : List (List String × List String)) :
    (alignEach workspace calls).1 = calls.map (freshOutcome a r) := by
  induction calls generalizing workspace with
  | nil => rfl
  | cons call calls ih =>
      obtain ⟨actual, reference⟩ := call
      rw [List.map_cons, freshOutcome, alignEach]
      by_cases hexceeds : a < actual.length ∨ r < reference.length
      · rw [if_pos hexceeds, alignPhonemesWithWorkspace_throws h hexceeds]
        exact congrArg _ (ih h)
      · rw [if_neg hexceeds, alignPhonemes_eq]
        obtain ⟨hactual, hreference⟩ := not_or.mp hexceeds
        obtain ⟨after, hcall, hafter⟩ := alignPhonemesWithWorkspace_eq h (not_lt.mp hactual)
          (not_lt.mp hreference)
        rw [hcall]
        exact congrArg _ (ih hafter)

/-- **Reuse of a workspace never leaks state.** In a sequence of calls on one workspace, as
created or with any stale contents of its sizes, every call returns exactly what it returns
with a fresh workspace and throws exactly when an input is longer than its capacity: the
fresh call never throws. -/
theorem workspace_reuse (actualCapacity referenceCapacity : ℕ)
    (calls : List (List String × List String)) :
    (alignEach (createAlignmentWorkspace actualCapacity referenceCapacity) calls).1
        = calls.map (freshOutcome actualCapacity referenceCapacity) ∧
      (∀ stale : AlignmentWorkspace, stale.Fits actualCapacity referenceCapacity →
        (alignEach stale calls).1 = calls.map (freshOutcome actualCapacity referenceCapacity)) ∧
      ∀ actual reference : List String, ∃ path, alignPhonemes actual reference = .ok path :=
  ⟨alignEach_eq (createAlignmentWorkspace_fits _ _) calls, fun _ h => alignEach_eq h calls,
    fun actual reference => ⟨_, alignPhonemes_eq actual reference⟩⟩

example : (alignEach (createAlignmentWorkspace 2 2)
    [(["a", "b"], ["b"]), (["a"], ["a", "b", "c"]), (["b"], ["a", "b"])]).1.map Except.isOk
      = [true, false, true] := by
  decide +kernel

end Qaraa
