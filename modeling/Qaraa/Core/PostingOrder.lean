import Qaraa.Core.Candidates

/-!
The order in which a posting list is searched.

* `startDistance`, `Nearer`: nearest to the cursor first, and of two equally near ones the
  smaller.
* `lowerBoundFrom_split`: the binary search finds the border between the postings before the
  cursor and those from it on.
* `PostingCursor.upcoming`: the postings still to come, as a merge of the two sides.
* `take_cases`: a call returns the next of them, or nothing, and then nothing any more.
* `postings_nearest_first`: **the calls enumerate the list nearest first**.
-/

namespace Qaraa

/-! ### The order -/

/-- How far the start that a posting stands for is from the cursor. -/
def startDistance (offset : ℕ) (cursorSymbol : ℤ) (posting : ℕ) : ℕ :=
  ((posting : ℤ) - offset - cursorSymbol).natAbs

/-- A posting that comes before another. -/
def Nearer (offset : ℕ) (cursorSymbol : ℤ) (a b : ℕ) : Prop :=
  startDistance offset cursorSymbol a < startDistance offset cursorSymbol b ∨
    startDistance offset cursorSymbol a = startDistance offset cursorSymbol b ∧ a < b

/-- The comparison of two starts behind their postings. -/
def noFarther (offset : ℕ) (cursorSymbol : ℤ) (a b : ℕ) : Bool :=
  decide (compareAroundCursor ((a : ℤ) - offset) ((b : ℤ) - offset) cursorSymbol ≤ 0)

lemma noFarther_iff {offset : ℕ} {cursorSymbol : ℤ} {a b : ℕ} :
    noFarther offset cursorSymbol a b = true ↔
      startDistance offset cursorSymbol a < startDistance offset cursorSymbol b ∨
        startDistance offset cursorSymbol a = startDistance offset cursorSymbol b ∧ a ≤ b := by
  rw [noFarther, decide_eq_true_iff, compareAroundCursor, startDistance, startDistance]
  dsimp only
  split
  · omega
  · split <;> omega

lemma noFarther_trans {offset : ℕ} {cursorSymbol : ℤ} (a b c : ℕ)
    (hab : noFarther offset cursorSymbol a b = true)
    (hbc : noFarther offset cursorSymbol b c = true) :
    noFarther offset cursorSymbol a c = true := by
  rw [noFarther_iff] at hab hbc ⊢
  omega

lemma noFarther_total {offset : ℕ} {cursorSymbol : ℤ} (a b : ℕ) :
    (noFarther offset cursorSymbol a b || noFarther offset cursorSymbol b a) = true := by
  rw [Bool.or_eq_true, noFarther_iff, noFarther_iff]
  omega

/-! ### The border -/

variable {values : List ℕ} {target : ℤ}

/-- The search ends at the border when the budget lasts for as many inspections as there are
values between its bounds. -/
lemma lowerBoundFrom_split (hsorted : values.Pairwise (· < ·)) {rounds : ℕ} (low high : ℕ)
    (hrounds : high - low ≤ rounds) (hle : low ≤ high) (hhigh : high ≤ values.length)
    (hbefore : ∀ (j v : ℕ), values[j]? = some v → j < low → (v : ℤ) < target)
    (hfrom : ∀ (j v : ℕ), values[j]? = some v → high ≤ j → target ≤ (v : ℤ))
    (budget : InspectionBudget) :
    (high - low ≤ budget.remaining →
      (lowerBoundFrom values target rounds low high budget).1.isSome = true) ∧
    ∀ (border : ℕ) (left : InspectionBudget),
      lowerBoundFrom values target rounds low high budget = (some border, left) →
      budget.remaining ≤ left.remaining + (high - low) ∧ border ≤ values.length ∧
        (∀ (j v : ℕ), values[j]? = some v → j < border → (v : ℤ) < target) ∧
        ∀ (j v : ℕ), values[j]? = some v → border ≤ j → target ≤ (v : ℤ) := by
  have hmono : ∀ {i j v w : ℕ}, values[i]? = some v → values[j]? = some w → i ≤ j → v ≤ w := by
    intro i j v w hi hj hij
    obtain ⟨hilt, rfl⟩ := List.getElem?_eq_some_iff.mp hi
    obtain ⟨hjlt, rfl⟩ := List.getElem?_eq_some_iff.mp hj
    rcases Nat.eq_or_lt_of_le hij with rfl | hlt
    · exact le_rfl
    · exact (List.pairwise_iff_getElem.mp hsorted i j hilt hjlt hlt).le
  -- the border stays between low and high, which come closer in every round
  induction rounds generalizing low high budget with
  | zero =>
      have heq : low = high := by omega
      subst heq
      refine ⟨fun _ => rfl, fun border left h => ?_⟩
      cases h
      exact ⟨by omega, hhigh, hbefore, hfrom⟩
  | succ rounds ih =>
      rw [lowerBoundFrom]
      by_cases hlt : low < high
      · rw [if_pos hlt]
        have hmiddle : low + (high - low) / 2 < high := by omega
        obtain ⟨value, hvalue⟩ : ∃ value, values[low + (high - low) / 2]? = some value :=
          ⟨_, List.getElem?_eq_getElem (by omega)⟩
        dsimp only
        rw [inspectedValue]
        by_cases hspent : budget.remaining = 0
        · rw [if_pos hspent]
          exact ⟨fun h => by omega, fun border left h => by cases h⟩
        · rw [if_neg hspent, hvalue]
          dsimp only
          split
          -- the middle is before the border, and so is all that precedes it
          · rename_i hless
            obtain ⟨hsome, hborder⟩ := ih (low + (high - low) / 2 + 1) high
              (by omega) (by omega) hhigh
              (fun j v hv hj => by
                have := hmono hv hvalue (by omega)
                omega) hfrom ⟨budget.remaining - 1, budget.inspections + 1⟩
            refine ⟨fun h => hsome (by dsimp only; omega), fun border left h => ?_⟩
            obtain ⟨hcost, hrest⟩ := hborder border left h
            dsimp only at hcost
            exact ⟨by omega, hrest⟩
          -- the border is at the middle or before
          · rename_i hnot
            obtain ⟨hsome, hborder⟩ := ih low (low + (high - low) / 2)
              (by omega) (by omega) (by omega) hbefore
              (fun j v hv hj => by
                have := hmono hvalue hv hj
                omega) ⟨budget.remaining - 1, budget.inspections + 1⟩
            refine ⟨fun h => hsome (by dsimp only; omega), fun border left h => ?_⟩
            obtain ⟨hcost, hrest⟩ := hborder border left h
            dsimp only at hcost
            exact ⟨by omega, hrest⟩
      · rw [if_neg hlt]
        have heq : low = high := by omega
        subst heq
        refine ⟨fun _ => rfl, fun border left h => ?_⟩
        cases h
        exact ⟨by omega, hhigh, hbefore, hfrom⟩

/-- The border cuts the list into the values before it and those from it on. -/
lemma filter_border {border : ℕ}
    (hbefore : ∀ (j v : ℕ), values[j]? = some v → j < border → (v : ℤ) < target)
    (hfrom : ∀ (j v : ℕ), values[j]? = some v → border ≤ j → target ≤ (v : ℤ)) :
    values.filter (fun value : ℕ => (value : ℤ) < target) = values.take border ∧
      values.filter (fun value : ℕ => target ≤ (value : ℤ)) = values.drop border := by
  have htake : ∀ v ∈ values.take border, (v : ℤ) < target := by
    intro v hv
    obtain ⟨j, hj⟩ := List.mem_iff_getElem?.mp hv
    rw [List.getElem?_take] at hj
    split at hj
    · rename_i hlt
      exact hbefore j v hj hlt
    · cases hj
  have hdrop : ∀ v ∈ values.drop border, target ≤ (v : ℤ) := by
    intro v hv
    obtain ⟨j, hj⟩ := List.mem_iff_getElem?.mp hv
    rw [List.getElem?_drop] at hj
    exact hfrom _ v hj (Nat.le_add_right border j)
  constructor
  · conv_lhs => rw [← List.take_append_drop border values]
    rw [List.filter_append, List.filter_eq_self.mpr, List.filter_eq_nil_iff.mpr, List.append_nil]
    · exact fun v hv => by simpa using hdrop v hv
    · exact fun v hv => by simpa using htake v hv
  · conv_lhs => rw [← List.take_append_drop border values]
    rw [List.filter_append, List.filter_eq_nil_iff.mpr, List.filter_eq_self.mpr, List.nil_append]
    · exact fun v hv => by simpa using hdrop v hv
    · exact fun v hv => by simpa using htake v hv

/-! ### The two sides -/

namespace PostingCursor

variable {cursor : PostingCursor} {cursorSymbol : ℤ} {budget : InspectionBudget}

/-- The postings to the left of a cursor, the last one first. -/
def behind (cursor : PostingCursor) : List ℕ :=
  (cursor.anchor.postings.take (cursor.left + 1).toNat).reverse

/-- The postings to the right of a cursor. -/
def ahead (cursor : PostingCursor) : List ℕ := cursor.anchor.postings.drop cursor.right

/-- The postings a cursor has still to return, in their order. -/
def upcoming (cursor : PostingCursor) (cursorSymbol : ℤ) : List ℕ :=
  List.merge cursor.behind cursor.ahead (noFarther cursor.anchor.offset cursorSymbol)

/-- The left neighbour is in the list, if there is one. -/
def InList (cursor : PostingCursor) : Prop :=
  -1 ≤ cursor.left ∧ cursor.left < cursor.anchor.postings.length

lemma behind_eq_nil (h : cursor.left < 0) : cursor.behind = [] := by
  rw [behind, show (cursor.left + 1).toNat = 0 by omega]
  rfl

lemma ahead_eq_nil (h : cursor.anchor.postings.length ≤ cursor.right) : cursor.ahead = [] :=
  List.drop_eq_nil_of_le h

/-- The left neighbour is the first of those behind. -/
lemma behind_eq_cons (hin : cursor.InList) (h : 0 ≤ cursor.left) :
    ∃ posting, cursor.anchor.postings[cursor.left.toNat]? = some posting ∧
      cursor.behind = posting :: { cursor with left := cursor.left - 1 }.behind := by
  have hlt : cursor.left.toNat < cursor.anchor.postings.length := by
    have := hin.2
    omega
  refine ⟨_, List.getElem?_eq_getElem hlt, ?_⟩
  rw [behind, behind, show (cursor.left + 1).toNat = cursor.left.toNat + 1 by omega,
    show (cursor.left - 1 + 1).toNat = cursor.left.toNat by omega,
    List.take_succ_eq_append_getElem hlt, List.reverse_append]
  rfl

/-- The right neighbour is the first of those ahead. -/
lemma ahead_eq_cons (h : cursor.right < cursor.anchor.postings.length) :
    ∃ posting, cursor.anchor.postings[cursor.right]? = some posting ∧
      cursor.ahead = posting :: { cursor with right := cursor.right + 1 }.ahead :=
  ⟨_, List.getElem?_eq_getElem h, List.drop_eq_getElem_cons h⟩

/-! ### One call -/

/-- What a call does: it returns the next posting, or nothing because there is none or the
budget does not last. -/
inductive Taken (cursor : PostingCursor) (cursorSymbol : ℤ) (budget : InspectionBudget) :
    Option ℕ × PostingCursor × InspectionBudget → Prop where
  | next (posting : ℕ) (after : PostingCursor) (left : InspectionBudget)
      (upcoming : cursor.upcoming cursorSymbol = posting :: after.upcoming cursorSymbol)
      (anchor : after.anchor = cursor.anchor) (inList : after.InList)
      (used : left.remaining < budget.remaining)
      (spent : budget.remaining ≤ left.remaining + 2) : Taken cursor cursorSymbol budget
        (some posting, after, left)
  | ended (upcoming : cursor.upcoming cursorSymbol = []) :
      Taken cursor cursorSymbol budget (none, cursor, budget)
  | out (left : InspectionBudget) (short : budget.remaining < 2) (spent : left.remaining = 0) :
      Taken cursor cursorSymbol budget (none, cursor, left)

/-- The left neighbour is the next one. -/
lemma Taken.left (hin : cursor.InList) (hleft : 0 ≤ cursor.left) {posting : ℕ}
    {left : InspectionBudget}
    (hupcoming : cursor.upcoming cursorSymbol
      = posting :: { cursor with left := cursor.left - 1 }.upcoming cursorSymbol)
    (hused : left.remaining < budget.remaining)
    (hspent : budget.remaining ≤ left.remaining + 2) :
    Taken cursor cursorSymbol budget
      (some posting, { cursor with left := cursor.left - 1 }, left) := by
  refine .next posting _ left hupcoming rfl ⟨?_, ?_⟩ hused hspent
  · show -1 ≤ cursor.left - 1
    omega
  · show cursor.left - 1 < cursor.anchor.postings.length
    have := hin.2
    omega

/-- A call is one of the three. -/
lemma take_cases (hin : cursor.InList) (cursorSymbol : ℤ) (budget : InspectionBudget) :
    Taken cursor cursorSymbol budget (takeNearestPosting cursor cursorSymbol budget) := by
  rw [takeNearestPosting]
  by_cases hleft : 0 ≤ cursor.left
  · obtain ⟨posting, hposting, hbehind⟩ := behind_eq_cons hin hleft
    rw [if_neg (by omega)]
    dsimp only
    rw [if_pos hleft, inspectedValue]
    -- looking at the posting on the left is inspected first
    by_cases hspent : budget.remaining = 0
    · rw [if_pos hspent]
      dsimp only
      rw [if_pos ⟨hleft, rfl⟩]
      exact .out budget (by omega) hspent
    · rw [if_neg hspent, hposting]
      dsimp only
      rw [if_neg (by simp)]
      by_cases hright : cursor.right < cursor.anchor.postings.length
      · -- both sides have a neighbour
        obtain ⟨other, hother, hahead⟩ := ahead_eq_cons hright
        rw [if_pos hright, inspectedValue]
        -- the posting on the right takes a second inspection
        by_cases hlast : budget.remaining - 1 = 0
        · rw [if_pos hlast]
          dsimp only
          rw [if_pos ⟨hright, rfl⟩]
          exact .out _ (by omega) hlast
        · rw [if_neg hlast, hother]
          dsimp only
          rw [if_neg (by simp)]
          change cursor.Taken cursorSymbol budget
            (if noFarther cursor.anchor.offset cursorSymbol posting other = true then _ else _)
          by_cases hnear : noFarther cursor.anchor.offset cursorSymbol posting other = true
          · rw [if_pos hnear]
            refine .left hin hleft ?_ (by dsimp only; omega) (by dsimp only; omega)
            rw [upcoming, hbehind, hahead, List.cons_merge_cons_pos _ _ _ hnear, ← hahead]
            rfl
          · rw [if_neg hnear]
            refine .next other _ _ ?_ rfl hin (by dsimp only; omega) (by dsimp only; omega)
            rw [upcoming, hbehind, hahead, List.cons_merge_cons_neg _ _ _ hnear, ← hbehind]
            rfl
      · rw [if_neg hright]
        dsimp only
        rw [if_neg (by simp [hright]), if_pos rfl]
        refine .left hin hleft ?_ (by dsimp only; omega) (by dsimp only; omega)
        -- all postings on the right are taken
        have hnone : cursor.ahead = [] := ahead_eq_nil (by omega)
        have hstill : { cursor with left := cursor.left - 1 }.ahead = [] := hnone
        rw [upcoming, hbehind, hnone, List.merge_right, upcoming, hstill, List.merge_right]
  -- all postings on the left are taken
  · have hnone : cursor.behind = [] := behind_eq_nil (by omega)
    by_cases hright : cursor.right < cursor.anchor.postings.length
    · obtain ⟨other, hother, hahead⟩ := ahead_eq_cons hright
      rw [if_neg (by omega)]
      dsimp only
      rw [if_neg hleft]
      dsimp only
      rw [if_neg (by simp [hleft]), if_pos hright, inspectedValue]
      by_cases hspent : budget.remaining = 0
      · rw [if_pos hspent]
        dsimp only
        rw [if_pos ⟨hright, rfl⟩]
        exact .out budget (by omega) hspent
      · rw [if_neg hspent, hother]
        dsimp only
        rw [if_neg (by simp), if_neg (by simp)]
        refine .next other _ _ ?_ rfl hin (by dsimp only; omega) (by dsimp only; omega)
        have hstill : { cursor with right := cursor.right + 1 }.behind = [] := hnone
        rw [upcoming, hnone, hahead, List.nil_merge, upcoming, hstill, List.nil_merge]
    · rw [if_pos (by omega)]
      refine .ended ?_
      rw [upcoming, hnone, ahead_eq_nil (by omega), List.nil_merge]

/-! ### All calls -/

/-- A cursor with nothing to return, or no budget, returns nothing any more. -/
lemma take_none (hin : cursor.InList)
    (hdry : cursor.upcoming cursorSymbol = [] ∨ budget.remaining = 0) :
    ∃ left, takeNearestPosting cursor cursorSymbol budget = (none, cursor, left) ∧
      (cursor.upcoming cursorSymbol = [] ∨ left.remaining = 0) := by
  have htaken := take_cases hin cursorSymbol budget
  generalize takeNearestPosting cursor cursorSymbol budget = result at htaken ⊢
  cases htaken with
  | next posting after left hupcoming hanchor hinList hused =>
      rcases hdry with hdry | hdry
      · rw [hdry] at hupcoming
        cases hupcoming
      · omega
  | ended hupcoming => exact ⟨budget, rfl, Or.inl hupcoming⟩
  | out left hshort hspent => exact ⟨left, rfl, Or.inr hspent⟩

end PostingCursor

/-- What a cursor returns in the next calls. -/
def takePostings (cursorSymbol : ℤ) : ℕ → PostingCursor → InspectionBudget → List (Option ℕ)
  | 0, _, _ => []
  | calls + 1, cursor, budget =>
      let (posting, cursor, budget) := takeNearestPosting cursor cursorSymbol budget
      posting :: takePostings cursorSymbol calls cursor budget

lemma takePostings_succ {cursorSymbol : ℤ} {cursor after : PostingCursor}
    {budget left : InspectionBudget} {posting : Option ℕ}
    (htake : takeNearestPosting cursor cursorSymbol budget = (posting, after, left)) (calls : ℕ) :
    takePostings cursorSymbol (calls + 1) cursor budget
      = posting :: takePostings cursorSymbol calls after left := by
  rw [takePostings, htake]

/-- The calls of a cursor that has run dry. -/
lemma takePostings_dry {cursorSymbol : ℤ} {cursor : PostingCursor} (hin : cursor.InList)
    {budget : InspectionBudget}
    (hdry : cursor.upcoming cursorSymbol = [] ∨ budget.remaining = 0) (calls : ℕ) :
    takePostings cursorSymbol calls cursor budget = List.replicate calls none := by
  induction calls generalizing budget with
  | zero => rfl
  | succ calls ih =>
      obtain ⟨left, htake, hleft⟩ := PostingCursor.take_none hin hdry
      rw [takePostings_succ htake, ih hleft, List.replicate_succ]

/-- The calls return what is upcoming, up to a point, and then nothing. -/
lemma takePostings_upcoming {cursorSymbol : ℤ} {upcoming : List ℕ} {cursor : PostingCursor}
    (hin : cursor.InList) (hupcoming : cursor.upcoming cursorSymbol = upcoming)
    (budget : InspectionBudget) :
    ∃ returned, returned <+: upcoming ∧
      (2 * upcoming.length ≤ budget.remaining → returned = upcoming) ∧
      ∀ calls, takePostings cursorSymbol calls cursor budget
        = (returned.map some ++ List.replicate calls none).take calls := by
  have hnone : ∀ calls, List.replicate calls none
      = (([] : List ℕ).map some ++ List.replicate calls none).take calls := fun calls => by simp
  induction upcoming generalizing cursor budget with
  | nil =>
      refine ⟨[], List.prefix_refl _, fun _ => rfl, fun calls => ?_⟩
      exact (takePostings_dry hin (Or.inl hupcoming) calls).trans (hnone calls)
  | cons posting upcoming ih =>
      have htaken := PostingCursor.take_cases hin cursorSymbol budget
      generalize hresult : takeNearestPosting cursor cursorSymbol budget = result at htaken
      cases htaken with
      | next posting' after left hnext hanchor hinList hused hspent =>
          rw [hupcoming] at hnext
          obtain ⟨rfl, hrest⟩ := List.cons.inj hnext
          obtain ⟨returned, hprefix, hall, hcalls⟩ := ih hinList hrest.symm left
          refine ⟨posting :: returned, List.cons_prefix_cons.mpr ⟨rfl, hprefix⟩, fun h => ?_,
            fun calls => ?_⟩
          · rw [hall (by rw [List.length_cons] at h; omega)]
          · cases calls with
            | zero => rfl
            | succ calls =>
                rw [takePostings_succ hresult, hcalls, List.map_cons, List.cons_append,
                  List.take_succ_cons, List.replicate_succ', ← List.append_assoc]
                refine congrArg (some posting :: ·) (List.take_append_of_le_length ?_).symm
                rw [List.length_append, List.length_replicate]
                omega
      | ended hended =>
          rw [hupcoming] at hended
          cases hended
      | out left hshort hspent =>
          refine ⟨[], List.nil_prefix, fun h => ?_, fun calls => ?_⟩
          · rw [List.length_cons] at h
            omega
          · cases calls with
            | zero => rfl
            | succ calls =>
                rw [takePostings_succ hresult, takePostings_dry hin (Or.inr hspent),
                  ← List.replicate_succ]
                exact hnone (calls + 1)

/-! ### The enumeration -/

/-- The postings, as a merge of those before the cursor and those from it on. -/
def nearestFirst (anchor : Anchor) (cursorSymbol : ℤ) : List ℕ :=
  List.merge
    (anchor.postings.filter fun posting : ℕ => (posting : ℤ) < cursorSymbol + anchor.offset).reverse
    (anchor.postings.filter fun posting : ℕ => cursorSymbol + anchor.offset ≤ (posting : ℤ))
    (noFarther anchor.offset cursorSymbol)

variable {anchor : Anchor} {cursorSymbol : ℤ}

lemma nearestFirst_perm (anchor : Anchor) (cursorSymbol : ℤ) :
    (nearestFirst anchor cursorSymbol).Perm anchor.postings := by
  refine (List.merge_perm_append _).trans ?_
  refine ((List.reverse_perm _).append_right _).trans ?_
  have hnot : (fun posting : ℕ => decide (cursorSymbol + anchor.offset ≤ (posting : ℤ)))
      = fun posting : ℕ => !decide ((posting : ℤ) < cursorSymbol + anchor.offset) := by
    funext posting
    rw [← decide_not, decide_eq_decide, not_lt]
  rw [hnot]
  exact List.filter_append_perm _ _

/-- Of two postings on one side the one closer to the border is the nearer. -/
lemma nearestFirst_pairwise (hincreasing : anchor.postings.Pairwise (· < ·)) :
    (nearestFirst anchor cursorSymbol).Pairwise (Nearer anchor.offset cursorSymbol) := by
  have hmerged : (nearestFirst anchor cursorSymbol).Pairwise fun a b =>
      noFarther anchor.offset cursorSymbol a b = true := by
    refine List.pairwise_merge noFarther_trans noFarther_total _ _ ?_ ?_
    · rw [List.pairwise_reverse]
      refine List.Pairwise.imp_of_mem ?_ (hincreasing.filter _)
      intro a b ha hb hlt
      have hbefore := of_decide_eq_true (List.mem_filter.mp hb).2
      rw [noFarther_iff, startDistance, startDistance]
      omega
    · refine List.Pairwise.imp_of_mem ?_ (hincreasing.filter _)
      intro a b ha hb hlt
      have hfrom := of_decide_eq_true (List.mem_filter.mp ha).2
      rw [noFarther_iff, startDistance, startDistance]
      omega
  have hnodup : (nearestFirst anchor cursorSymbol).Nodup :=
    (nearestFirst_perm anchor cursorSymbol).nodup_iff.mpr (hincreasing.imp Nat.ne_of_lt)
  refine (hmerged.and hnodup).imp ?_
  rintro a b ⟨hnear, hne⟩
  rw [noFarther_iff] at hnear
  rw [Nearer]
  omega

/-- A new cursor stands at the border. -/
lemma createPostingCursor_upcoming (cursorSymbol : ℤ)
    (hincreasing : anchor.postings.Pairwise (· < ·)) (budget : InspectionBudget) :
    (anchor.postings.length ≤ budget.remaining →
      (createPostingCursor anchor cursorSymbol budget).1.isSome = true) ∧
    ∀ (cursor : PostingCursor) (left : InspectionBudget),
      createPostingCursor anchor cursorSymbol budget = (some cursor, left) →
      cursor.InList ∧ cursor.upcoming cursorSymbol = nearestFirst anchor cursorSymbol ∧
        budget.remaining ≤ left.remaining + anchor.postings.length := by
  obtain ⟨hsome, hborder⟩ := @lowerBoundFrom_split anchor.postings (cursorSymbol + anchor.offset)
    hincreasing anchor.postings.length 0 anchor.postings.length (by omega) (by omega) le_rfl
    (fun j v _ hj => by omega)
    (fun j v hv hj => absurd (List.getElem?_eq_some_iff.mp hv).1 (by omega)) budget
  rw [createPostingCursor, lowerBound]
  generalize lowerBoundFrom anchor.postings (cursorSymbol + anchor.offset) anchor.postings.length 0
    anchor.postings.length budget = result at hsome hborder ⊢
  obtain ⟨border?, left'⟩ := result
  cases border? with
  | none =>
      dsimp only
      exact ⟨fun h => hsome h, fun cursor left h => by cases h⟩
  | some border =>
      dsimp only
      refine ⟨fun _ => rfl, fun cursor left h => ?_⟩
      obtain ⟨hcost, hle, hbefore, hfrom⟩ := hborder border left' rfl
      cases h
      refine ⟨⟨by dsimp only; omega, by dsimp only; omega⟩, ?_, by omega⟩
      obtain ⟨htake, hdrop⟩ := filter_border hbefore hfrom
      rw [nearestFirst, htake, hdrop, PostingCursor.upcoming, PostingCursor.behind,
        PostingCursor.ahead]
      dsimp only
      rw [show ((border : ℤ) - 1 + 1).toNat = border by omega]

/-- **The calls enumerate the list nearest first.** There is one order of the postings, nearest
to the cursor first and of two equally near ones the smaller first, such that for every budget:
a cursor can be created when the budget allows as many inspections as there are postings, and
the calls of a created cursor return a beginning of this order, all of it when the budget
allows three inspections for each posting, and then nothing, however many calls follow. -/
theorem postings_nearest_first (anchor : Anchor) (cursorSymbol : ℤ)
    (hincreasing : anchor.postings.Pairwise (· < ·)) :
    ∃ order : List ℕ, order.Perm anchor.postings ∧
      order.Pairwise (Nearer anchor.offset cursorSymbol) ∧
      ∀ budget : InspectionBudget,
        (anchor.postings.length ≤ budget.remaining →
          (createPostingCursor anchor cursorSymbol budget).1.isSome = true) ∧
        ∀ (cursor : PostingCursor) (left : InspectionBudget),
          createPostingCursor anchor cursorSymbol budget = (some cursor, left) →
          ∃ returned, returned <+: order ∧
            (3 * anchor.postings.length ≤ budget.remaining → returned = order) ∧
            ∀ calls, takePostings cursorSymbol calls cursor left
              = (returned.map some ++ List.replicate calls none).take calls := by
  have hperm := nearestFirst_perm anchor cursorSymbol
  refine ⟨nearestFirst anchor cursorSymbol, hperm, nearestFirst_pairwise hincreasing,
    fun budget => ?_⟩
  obtain ⟨hsome, hcreated⟩ := createPostingCursor_upcoming cursorSymbol hincreasing budget
  refine ⟨hsome, fun cursor left hcursor => ?_⟩
  obtain ⟨hin, hupcoming, hcost⟩ := hcreated cursor left hcursor
  obtain ⟨returned, hprefix, hall, hcalls⟩ := takePostings_upcoming hin hupcoming left
  refine ⟨returned, hprefix, fun henough => hall ?_, hcalls⟩
  have hlength := hperm.length_eq
  omega

/-- Two postings equally near to the cursor and one farther away. -/
theorem postings_nearest_first_sample :
    ∃ order : List ℕ, order.Perm [3, 5, 9] ∧ order.Pairwise (Nearer 1 3) ∧
      ∀ budget : InspectionBudget,
        (3 ≤ budget.remaining →
          (createPostingCursor ⟨1, 1, [3, 5, 9]⟩ 3 budget).1.isSome = true) ∧
        ∀ (cursor : PostingCursor) (left : InspectionBudget),
          createPostingCursor ⟨1, 1, [3, 5, 9]⟩ 3 budget = (some cursor, left) →
          ∃ returned, returned <+: order ∧ (3 * 3 ≤ budget.remaining → returned = order) ∧
            ∀ calls, takePostings 3 calls cursor left
              = (returned.map some ++ List.replicate calls none).take calls :=
  postings_nearest_first ⟨1, 1, [3, 5, 9]⟩ 3 (by decide)

end Qaraa
