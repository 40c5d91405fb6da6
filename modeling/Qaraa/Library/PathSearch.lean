import Mathlib.Tactic
import Mathlib.Data.Fintype.Card
import Mathlib.Logic.Relation

/-!
A depth-first search that walks every path of a finite graph and stops at a forbidden node or
at a node that is already on the path. It keeps a stack of frames, to visit a node or to leave
one, and the set of nodes entered and not yet left.

* `Look`, `Frame`, `State`, `step`, `run`: the search; what a node is when it is looked at is a
  parameter.
* `Clear`: from a node, past some that are on the path, nothing forbidden is met.
* `visit_cases`: **visiting a node ends**, either with the frames below it and the same path, or
  with the search.
* `run_eq`: the search ends, and succeeds exactly when the node is clear.
* `clear_iff`: a node is clear exactly when nothing it reaches is forbidden, on the path, or
  reached again from itself.
-/

namespace PathSearch

variable {N α : Type*}

/-- What a node is when it is looked at: accepted or forbidden by itself, or entered. -/
inductive Look (N α : Type*) where
  | accept
  | reject
  | enter (name : α) (children : List N)

/-- A node to be visited, or one to be left. -/
inductive Frame (N α : Type*) where
  | visit (node : N)
  | leave (name : α)

/-- The frames, the top first, and the names of the nodes on the path. -/
structure State (N α : Type*) where
  stack : List (Frame N α)
  active : Finset α

variable [DecidableEq α] (look : N → Look N α)

/-- One frame; an answer ends the search. -/
def step (state : State N α) : State N α ⊕ Bool :=
  match state.stack with
  | [] => .inr true
  | .leave name :: rest => .inl ⟨rest, state.active.erase name⟩
  | .visit node :: rest =>
      match look node with
      | .accept => .inl ⟨rest, state.active⟩
      | .reject => .inr false
      | .enter name children =>
          if name ∈ state.active then .inr false
          else .inl ⟨children.map .visit ++ .leave name :: rest, insert name state.active⟩

/-- The answer, when it takes no more than the given number of steps. -/
def run : ℕ → State N α → Option Bool
  | 0, _ => none
  | fuel + 1, state =>
      match step look state with
      | .inl next => run fuel next
      | .inr answer => some answer

/-- Past the nodes on a path, nothing forbidden is met. -/
inductive Clear : Finset α → N → Prop where
  | accept {active : Finset α} {node : N} (hlook : look node = .accept) : Clear active node
  | enter {active : Finset α} {node : N} {name : α} {children : List N}
      (hlook : look node = .enter name children) (hfresh : name ∉ active)
      (hchildren : ∀ child ∈ children, Clear (insert name active) child) : Clear active node

variable {look}

lemma run_succ_inl {state next : State N α} (h : step look state = .inl next) (fuel : ℕ) :
    run look (fuel + 1) state = run look fuel next := by
  rw [run, h]

lemma run_succ_inr {state : State N α} {answer : Bool} (h : step look state = .inr answer)
    (fuel : ℕ) : run look (fuel + 1) state = some answer := by
  rw [run, h]

/-- More steps do not change the answer. -/
lemma run_mono {fuel more : ℕ} {state : State N α} {answer : Bool}
    (h : run look fuel state = some answer) (hle : fuel ≤ more) :
    run look more state = some answer := by
  induction fuel generalizing more state with
  | zero => cases h
  | succ fuel ih =>
      obtain ⟨more, rfl⟩ : ∃ m, more = m + 1 := ⟨more - 1, by omega⟩
      rw [run] at h ⊢
      cases hstep : step look state with
      | inl next =>
          rw [hstep] at h
          exact ih h (by omega)
      | inr result =>
          rw [hstep] at h
          exact h

/-- The frames come to an end: the search goes on below them with the path as it was. -/
def Passes (look : N → Look N α) (active : Finset α) (frames : List (Frame N α)) : Prop :=
  ∃ steps, ∀ fuel rest, run look (steps + fuel) ⟨frames ++ rest, active⟩
    = run look fuel ⟨rest, active⟩

/-- The frames end the search. -/
def Fails (look : N → Look N α) (active : Finset α) (frames : List (Frame N α)) : Prop :=
  ∃ steps, ∀ fuel rest, run look (steps + fuel) ⟨frames ++ rest, active⟩ = some false

lemma Passes.nil {active : Finset α} : Passes look active [] :=
  ⟨0, fun fuel rest => by rw [Nat.zero_add, List.nil_append]⟩

lemma Passes.append {active : Finset α} {frames frames' : List (Frame N α)}
    (h : Passes look active frames) (h' : Passes look active frames') :
    Passes look active (frames ++ frames') := by
  obtain ⟨steps, hsteps⟩ := h
  obtain ⟨steps', hsteps'⟩ := h'
  refine ⟨steps + steps', fun fuel rest => ?_⟩
  rw [Nat.add_assoc, List.append_assoc, hsteps, hsteps']

lemma Passes.fails_append {active : Finset α} {frames frames' : List (Frame N α)}
    (h : Passes look active frames) (h' : Fails look active frames') :
    Fails look active (frames ++ frames') := by
  obtain ⟨steps, hsteps⟩ := h
  obtain ⟨steps', hsteps'⟩ := h'
  refine ⟨steps + steps', fun fuel rest => ?_⟩
  rw [Nat.add_assoc, List.append_assoc, hsteps, hsteps']

lemma Fails.append {active : Finset α} {frames : List (Frame N α)} (h : Fails look active frames)
    (frames' : List (Frame N α)) : Fails look active (frames ++ frames') := by
  obtain ⟨steps, hsteps⟩ := h
  exact ⟨steps, fun fuel rest => by rw [List.append_assoc, hsteps]⟩

/-- What visiting a node comes to. -/
def Visited (look : N → Look N α) (active : Finset α) (node : N) : Prop :=
  Clear look active node ∧ Passes look active [.visit node] ∨
    ¬Clear look active node ∧ Fails look active [.visit node]

/-- Nodes are visited one after the other. -/
lemma visit_all {active : Finset α} {nodes : List N}
    (h : ∀ node ∈ nodes, Visited look active node) :
    (∀ node ∈ nodes, Clear look active node) ∧ Passes look active (nodes.map .visit) ∨
      ¬(∀ node ∈ nodes, Clear look active node) ∧ Fails look active (nodes.map .visit) := by
  induction nodes with
  | nil => exact Or.inl ⟨by simp, Passes.nil⟩
  | cons node nodes ih =>
      rw [List.forall_mem_cons] at h
      rw [List.forall_mem_cons, List.map_cons, ← List.singleton_append]
      rcases h.1 with ⟨hclear, hpasses⟩ | ⟨hclear, hfails⟩
      · rcases ih h.2 with ⟨hall, hrest⟩ | ⟨hall, hrest⟩
        · exact Or.inl ⟨⟨hclear, hall⟩, hpasses.append hrest⟩
        · exact Or.inr ⟨fun hboth => hall hboth.2, hpasses.fails_append hrest⟩
      · exact Or.inr ⟨fun hboth => hclear hboth.1, hfails.append _⟩

/-- A node that is entered passes or fails with its children. -/
lemma visited_enter {active : Finset α} {node : N} {name : α} {children : List N}
    (hlook : look node = .enter name children)
    (hchildren : name ∉ active → ∀ child ∈ children, Visited look (insert name active) child) :
    Visited look active node := by
  by_cases hmem : name ∈ active
  · refine Or.inr ⟨?_, 1, fun fuel rest => ?_⟩
    · rintro (haccept | ⟨henter, hfresh, -⟩)
      · rw [hlook] at haccept
        cases haccept
      · rw [hlook] at henter
        cases henter
        exact hfresh hmem
    · rw [Nat.add_comm]
      refine run_succ_inr ?_ fuel
      simp only [step, List.singleton_append, hlook, if_pos hmem]
  · have hstep : ∀ rest, step look ⟨[.visit node] ++ rest, active⟩
        = .inl ⟨children.map .visit ++ .leave name :: rest, insert name active⟩ := by
      intro rest
      simp only [step, List.singleton_append, hlook, if_neg hmem]
    rcases visit_all (hchildren hmem) with ⟨hall, steps, hsteps⟩ | ⟨hall, steps, hsteps⟩
    · refine Or.inl ⟨.enter hlook hmem hall, steps + 2, fun fuel rest => ?_⟩
      have hleave : step look ⟨.leave name :: rest, insert name active⟩
          = .inl ⟨rest, active⟩ := by
        simp only [step, Finset.erase_insert hmem]
      calc run look (steps + 2 + fuel) ⟨[.visit node] ++ rest, active⟩
          = run look (steps + (fuel + 1) + 1) ⟨[.visit node] ++ rest, active⟩ := by
            congr 1
            omega
        _ = run look (steps + (fuel + 1))
              ⟨children.map .visit ++ .leave name :: rest, insert name active⟩ :=
            run_succ_inl (hstep rest) _
        _ = run look (fuel + 1) ⟨.leave name :: rest, insert name active⟩ := hsteps _ _
        _ = run look fuel ⟨rest, active⟩ := run_succ_inl hleave fuel
    · refine Or.inr ⟨?_, steps + 1, fun fuel rest => ?_⟩
      · rintro (haccept | ⟨henter, -, hclear⟩)
        · rw [hlook] at haccept
          cases haccept
        · rw [hlook] at henter
          cases henter
          exact hall hclear
      · calc run look (steps + 1 + fuel) ⟨[.visit node] ++ rest, active⟩
            = run look (steps + fuel + 1) ⟨[.visit node] ++ rest, active⟩ := by
              congr 1
              omega
          _ = run look (steps + fuel)
                ⟨children.map .visit ++ .leave name :: rest, insert name active⟩ :=
              run_succ_inl (hstep rest) _
          _ = some false := hsteps _ _

/-- **Visiting a node ends.** The induction is on the number of names that are not on the
path. -/
theorem visit_cases [Fintype α] (active : Finset α) (node : N) : Visited look active node := by
  induction hrest : Fintype.card α - active.card using Nat.strong_induction_on
    generalizing active node with
  | _ rest ih =>
      cases hlook : look node with
      | accept =>
          refine Or.inl ⟨.accept hlook, 1, fun fuel rest => ?_⟩
          rw [Nat.add_comm]
          refine run_succ_inl ?_ fuel
          simp only [step, List.singleton_append, hlook]
      | reject =>
          refine Or.inr ⟨?_, 1, fun fuel rest => ?_⟩
          · rintro (haccept | ⟨henter, -, -⟩)
            · rw [hlook] at haccept
              cases haccept
            · rw [hlook] at henter
              cases henter
          · rw [Nat.add_comm]
            refine run_succ_inr ?_ fuel
            simp only [step, List.singleton_append, hlook]
      | enter name children =>
          refine visited_enter hlook fun hfresh child _ => ?_
          have hcard := Finset.card_insert_of_notMem hfresh
          have hle := Finset.card_le_univ (insert name active)
          exact ih _ (by omega) _ _ rfl

/-- **The search ends, and succeeds exactly when the node is clear.** -/
theorem run_eq [Fintype α] (look : N → Look N α) (node : N) :
    ∃ answer, (answer = true ↔ Clear look ∅ node) ∧
      ∃ steps, ∀ fuel ≥ steps, run look fuel ⟨[.visit node], ∅⟩ = some answer := by
  have hvisited : Visited look ∅ node := visit_cases ∅ node
  rcases hvisited with ⟨hclear, steps, hsteps⟩ | ⟨hclear, steps, hsteps⟩
  · refine ⟨true, iff_of_true rfl hclear, steps + 1, fun fuel hfuel => ?_⟩
    refine run_mono ?_ hfuel
    exact hsteps 1 []
  · refine ⟨false, iff_of_false Bool.false_ne_true hclear, steps, fun fuel hfuel => ?_⟩
    refine run_mono ?_ hfuel
    exact hsteps 0 []

/-! ### Reachability -/

/-- A node and one it is entered with. -/
def Child (look : N → Look N α) (node child : N) : Prop :=
  ∃ name children, look node = .enter name children ∧ child ∈ children

/-- Nothing the node reaches is forbidden, on the path, or reached again from itself. -/
structure Sound (look : N → Look N α) (active : Finset α) (node : N) : Prop where
  accepted : ∀ other, Relation.ReflTransGen (Child look) node other → look other ≠ .reject
  fresh : ∀ other, Relation.ReflTransGen (Child look) node other →
    ∀ name children, look other = .enter name children → name ∉ active
  acyclic : ∀ other, Relation.ReflTransGen (Child look) node other →
    ∀ name children, look other = .enter name children →
      ∀ again, Relation.TransGen (Child look) other again →
        ∀ children', look again ≠ .enter name children'

omit [DecidableEq α] in
/-- From a node that is not entered only the node is reached. -/
lemma eq_of_reaches {node other : N} (hlook : ∀ name children, look node ≠ .enter name children)
    (h : Relation.ReflTransGen (Child look) node other) : other = node := by
  rcases h.cases_head with heq | ⟨child, ⟨name, children, henter, -⟩, -⟩
  · exact heq.symm
  · exact absurd henter (hlook name children)

lemma Clear.sound {active : Finset α} {node : N} (h : Clear look active node) :
    Sound look active node := by
  induction h with
  | accept hlook =>
      have honly := fun other (hreach : Relation.ReflTransGen (Child look) _ other) =>
        eq_of_reaches (fun name children h => by rw [hlook] at h; cases h) hreach
      refine ⟨fun other hreach h => ?_, fun other hreach name children h => ?_,
        fun other hreach name children h => ?_⟩
      all_goals
        rw [honly other hreach, hlook] at h
        cases h
  | @enter active node name children hlook hfresh hchildren ih =>
      -- whatever is reached is the node itself or is reached from a child
      have hcases : ∀ other, Relation.ReflTransGen (Child look) node other → other = node ∨
          ∃ child ∈ children, Relation.ReflTransGen (Child look) child other := by
        intro other hreach
        rcases hreach.cases_head with heq | ⟨child, ⟨name', children', henter, hmem⟩, hrest⟩
        · exact Or.inl heq.symm
        · rw [hlook] at henter
          cases henter
          exact Or.inr ⟨child, hmem, hrest⟩
      refine ⟨fun other hreach => ?_, fun other hreach name' children' h => ?_,
        fun other hreach name' children' h again hagain children'' => ?_⟩
      · rcases hcases other hreach with rfl | ⟨child, hmem, hrest⟩
        · intro hreject
          rw [hlook] at hreject
          cases hreject
        · exact (ih child hmem).accepted other hrest
      · rcases hcases other hreach with rfl | ⟨child, hmem, hrest⟩
        · rw [hlook] at h
          cases h
          exact hfresh
        · exact fun hmem' => (ih child hmem).fresh other hrest name' children' h
            (Finset.mem_insert_of_mem hmem')
      · rcases hcases other hreach with rfl | ⟨child, hmem, hrest⟩
        · -- a way back to the node would lead through a child, past the node
          rw [hlook] at h
          cases h
          obtain ⟨child, ⟨_, _, henter, hmem⟩, hback⟩ := Relation.TransGen.head'_iff.mp hagain
          rw [hlook] at henter
          cases henter
          intro hlook'
          exact (ih child hmem).fresh again hback name children'' hlook'
            (Finset.mem_insert_self _ _)
        · exact (ih child hmem).acyclic other hrest name' children' h again hagain children''

lemma Sound.clear [Fintype α] {active : Finset α} {node : N} (h : Sound look active node) :
    Clear look active node := by
  induction hrest : Fintype.card α - active.card using Nat.strong_induction_on
    generalizing active node with
  | _ rest ih =>
      cases hlook : look node with
      | accept => exact .accept hlook
      | reject => exact absurd hlook (h.accepted node .refl)
      | enter name children =>
          have hfresh := h.fresh node .refl name children hlook
          have hcard := Finset.card_insert_of_notMem hfresh
          have hle := Finset.card_le_univ (insert name active)
          refine .enter hlook hfresh fun child hmem => ?_
          have hstep : Child look node child := ⟨name, children, hlook, hmem⟩
          refine ih _ (by omega) ⟨fun other hreach => ?_, fun other hreach name' children' h' => ?_,
            fun other hreach => ?_⟩ rfl
          · exact h.accepted other (.head hstep hreach)
          · rw [Finset.mem_insert, not_or]
            refine ⟨?_, h.fresh other (.head hstep hreach) name' children' h'⟩
            rintro rfl
            exact h.acyclic node .refl name' children hlook other
              (Relation.TransGen.head'_iff.mpr ⟨child, hstep, hreach⟩) children' h'
          · exact h.acyclic other (.head hstep hreach)

/-- **A node is clear exactly when nothing it reaches is forbidden, on the path, or reached
again from itself.** -/
theorem clear_iff [Fintype α] {active : Finset α} {node : N} :
    Clear look active node ↔ Sound look active node :=
  ⟨Clear.sound, Sound.clear⟩

end PathSearch
