import SwarmKit.Scheduler.DecisionTree

/-
A tree on which `scheduleNTasksOnSubtree` (`DecisionTree.lean`) never
returns.

# The result

Above the leaves the share of a branch is computed from the task counts
the tree was built with, which scheduling never updates, and the while
loop goes on until exactly `n` tasks are scheduled. A branch below its
share is asked for the difference even when that is more than the tasks
left to schedule, so a subtree that is itself spread can schedule more
than it was asked for; its loop then finds every branch at or above its
share and makes no more progress. With two spread levels, a rack already
running tasks of the service, and three new tasks, the call never
returns (`spread_levels_never_return`).

# The method

A round is read through `branchPass_cons_eq_some`, which says what the
pass does at one branch. A loop that reaches a state where it goes on
and no branch is below its share never ends, whatever the fuel
(`whileLoop_none_of_stuckAfter`). Over leaves the loop only depends on
what the calls do to leaves (`stuckAfter_congr`), so the rounds of the
failing run are evaluated once, with the fuel-free `leafCall`.
-/

namespace SwarmKit.Scheduler.Fit

-- ======================== the loop

section Loop

variable {sub sub' : SubtreeCall} {n : Int} {next : List (Nat × DecisionTree)} {r : Round}

theorem whileLoop_zero (h : r.running n next = true) : whileLoop sub n 0 next r = none := by
  rw [whileLoop, if_pos h]

theorem whileLoop_succ (h : r.running n next = true) (fuel : Nat) :
    whileLoop sub n (fuel + 1) next r =
      (round sub n next r).bind fun s => whileLoop sub n fuel s.1 s.2 := by
  rw [whileLoop, if_pos h]
  cases round sub n next r <;> rfl

/-- A branch the pass asks for tasks: usable, and below the round's
share, or at it while a remainder is left. -/
def Qualifies (desired remainder : Int) (r : Round) (e : Nat × DecisionTree) : Prop :=
  e.1 ∉ r.noRoom ∧ (e.2.tasks < desired ∨ (e.2.tasks = desired ∧ 0 < remainder))

instance (desired remainder : Int) (r : Round) : DecidablePred (Qualifies desired remainder r) :=
  fun _ => inferInstanceAs (Decidable (_ ∧ _))

/-- A pass in which no branch is asked for tasks leaves everything as
it was. -/
theorem branchPass_idle (desired remainder : Int) (r : Round) :
    ∀ l : List (Nat × DecisionTree), (∀ e ∈ l, ¬Qualifies desired remainder r e) →
      branchPass sub desired l (remainder, r) = some (l, remainder, r)
  | [], _ => rfl
  | (v, c) :: rest, h => by
    have hrest := branchPass_idle desired remainder r rest fun e he => h e (List.mem_cons_of_mem _ he)
    have hhead := h (v, c) List.mem_cons_self
    rw [branchPass]
    by_cases hv : v ∈ r.noRoom
    · rw [if_pos hv, hrest]
      rfl
    · have hq : ¬(c.tasks < desired ∨ (c.tasks = desired ∧ 0 < remainder)) := fun hq => hhead ⟨hv, hq⟩
      rw [if_neg hv]
      dsimp only
      rw [if_neg hq, hrest]
      rfl

/-- The share and the remainder of a round. -/
def Round.share (n : Int) (next : List (Nat × DecisionTree)) (r : Round) : Int × Int :=
  let usable : Int := next.length - r.noRoom.length
  ((r.tasksInUsableBranches + n - r.tasksScheduled).tdiv usable,
    (r.tasksInUsableBranches + n - r.tasksScheduled).tmod usable)

/-- The loop is stuck: it goes on, and no branch is asked for tasks. -/
def Round.Stuck (n : Int) (next : List (Nat × DecisionTree)) (r : Round) : Prop :=
  r.running n next = true ∧ ∀ e ∈ next, ¬Qualifies (r.share n next).1 (r.share n next).2 r e

instance (n : Int) (next : List (Nat × DecisionTree)) (r : Round) : Decidable (r.Stuck n next) :=
  inferInstanceAs (Decidable (_ ∧ _))

/-- A stuck loop never ends: its rounds change nothing and every round
goes on. -/
theorem whileLoop_stuck (h : r.Stuck n next) : ∀ fuel, whileLoop sub n fuel next r = none := by
  have hround : round sub n next r = some (next, r) := by
    have hp := @branchPass_idle sub _ _ r next h.2
    dsimp only [Round.share] at hp
    rw [round]
    dsimp only
    rw [hp]
    rfl
  intro fuel
  induction fuel with
  | zero => exact whileLoop_zero h.1
  | succ fuel ih => rw [whileLoop_succ h.1, hround, Option.bind_some, ih]

/-- The loop reaches, after `k` rounds that go on, a stuck state (or a
call runs out of fuel). -/
def StuckAfter (sub : SubtreeCall) (n : Int) : Nat → List (Nat × DecisionTree) × Round → Prop
  | 0, (next, r) => r.Stuck n next
  | k + 1, (next, r) => r.running n next = true ∧
    match round sub n next r with
    | none => True
    | some s => StuckAfter sub n k s

instance decStuckAfter (sub : SubtreeCall) (n : Int) :
    (k : Nat) → (s : List (Nat × DecisionTree) × Round) → Decidable (StuckAfter sub n k s)
  | 0, (next, r) => inferInstanceAs (Decidable (r.Stuck n next))
  | k + 1, (next, r) =>
    match hr : round sub n next r with
    | none => decidable_of_iff (r.running n next = true) (by simp [StuckAfter, hr])
    | some s =>
      have := decStuckAfter sub n k s
      decidable_of_iff (r.running n next = true ∧ StuckAfter sub n k s) (by simp [StuckAfter, hr])

/-- A loop that gets stuck never ends, whatever the fuel. -/
theorem whileLoop_none_of_stuckAfter :
    ∀ k next r, StuckAfter sub n k (next, r) → ∀ fuel, whileLoop sub n fuel next r = none
  | 0, _, _, h => whileLoop_stuck h
  | k + 1, next, r, ⟨hrun, hk⟩ => by
    intro fuel
    cases fuel with
    | zero => exact whileLoop_zero hrun
    | succ fuel =>
      rw [whileLoop_succ hrun]
      revert hk
      cases round sub n next r with
      | none => intro _; rfl
      | some s => exact fun hk => whileLoop_none_of_stuckAfter k s.1 s.2 hk fuel

end Loop

-- ====================== the leaves

section Leaves

variable {p : Pipeline} {nodeLess : NodeInfo → NodeInfo → Bool} {taskGroup : List Task}
  {sub sub' : SubtreeCall}

/-- The call on a leaf, with fuel to spare. -/
def leafCall (p : Pipeline) (nodeLess : NodeInfo → NodeInfo → Bool) (taskGroup : List Task) :
    SubtreeCall :=
  fun t n sh => some (scheduleLeaf p nodeLess taskGroup t n sh)

theorem scheduleNTasksOnSubtree_leaf {t : DecisionTree} (h : t.next = none) (fuel : Nat) :
    scheduleNTasksOnSubtree p nodeLess taskGroup (fuel + 1) t = leafCall p nodeLess taskGroup t := by
  funext n sh
  simp only [scheduleNTasksOnSubtree, h, leafCall]

theorem scheduleNTasksOnSubtree_node {t : DecisionTree} {next : List (Nat × DecisionTree)}
    (h : t.next = some next) (fuel : Nat) (n : Int) (sh : Shared) :
    scheduleNTasksOnSubtree p nodeLess taskGroup (fuel + 1) t n sh =
      (whileLoop (scheduleNTasksOnSubtree p nodeLess taskGroup fuel) n fuel next
        ⟨0, t.tasks, [], sh⟩).map fun s => (s.2.tasksScheduled, { t with next := some s.1 }, s.2.shared) := by
  simp only [scheduleNTasksOnSubtree, h]
  cases whileLoop (scheduleNTasksOnSubtree p nodeLess taskGroup fuel) n fuel next ⟨0, t.tasks, [], sh⟩ <;>
    rfl

/-- A leaf stays a leaf. -/
theorem scheduleLeaf_next (t : DecisionTree) (n : Int) (sh : Shared) :
    (scheduleLeaf p nodeLess taskGroup t n sh).2.1.next = t.next := by
  unfold scheduleLeaf
  dsimp only
  split_ifs <;> rfl

/-- Every branch of the list is a leaf. -/
def AllLeaves (l : List (Nat × DecisionTree)) : Prop := ∀ e ∈ l, e.2.next = none

instance : DecidablePred AllLeaves := fun l =>
  decidable_of_iff (l.all fun e => e.2.next.isNone) (by simp [AllLeaves])

/-- Over leaves, a pass only depends on what the calls do to leaves. -/
theorem branchPass_congr (hagree : ∀ t, t.next = none → sub t = sub' t) (desired : Int) :
    ∀ (l : List (Nat × DecisionTree)) (st : Int × Round), AllLeaves l →
      branchPass sub desired l st = branchPass sub' desired l st
  | [], _, _ => rfl
  | (v, c) :: rest, (remainder, r), hl => by
    have ih := fun st => branchPass_congr hagree desired rest st fun e he => hl e (List.mem_cons_of_mem _ he)
    rw [branchPass, branchPass, hagree c (hl (v, c) List.mem_cons_self)]
    simp only [ih]

/-- What a pass does at a branch: it leaves the branch, or, when the
branch qualifies, puts what the branch's call returned in its place and
counts the call's tasks; then it goes on with the rest. -/
theorem branchPass_cons_eq_some {desired : Int} {v : Nat} {c : DecisionTree}
    {rest l' : List (Nat × DecisionTree)} {remainder : Int} {r : Round} {st' : Int × Round}
    (h : branchPass sub desired ((v, c) :: rest) (remainder, r) = some (l', st')) :
    ∃ c' st'' l'', branchPass sub desired rest st'' = some (l'', st') ∧ l' = (v, c') :: l'' ∧
      ((c' = c ∧ st'' = (remainder, r) ∧ ¬Qualifies desired remainder r (v, c)) ∨
        ∃ res sh, Qualifies desired remainder r (v, c) ∧
          sub c (desired - c.tasks + if 0 < remainder then 1 else 0) r.shared = some (res, c', sh) ∧
          st''.2.tasksScheduled = r.tasksScheduled + res ∧ st''.2.shared = sh ∧
          (res < desired - c.tasks + (if 0 < remainder then 1 else 0) →
            st''.2.noRoom = r.noRoom ++ [v]) ∧
          (¬res < desired - c.tasks + (if 0 < remainder then 1 else 0) →
            st''.2.noRoom = r.noRoom)) := by
  rw [branchPass] at h
  by_cases hv : v ∈ r.noRoom
  · rw [if_pos hv] at h
    obtain ⟨⟨l'', st''⟩, hx, heq⟩ := Option.map_eq_some_iff.mp h
    obtain ⟨rfl, rfl⟩ := Prod.mk.inj heq
    exact ⟨c, _, l'', hx, rfl, .inl ⟨rfl, rfl, fun hq => hq.1 hv⟩⟩
  rw [if_neg hv] at h
  dsimp only at h
  by_cases hq : c.tasks < desired ∨ (c.tasks = desired ∧ 0 < remainder)
  · rw [if_pos hq] at h
    revert h
    cases hcall : sub c (desired - c.tasks + if 0 < remainder then 1 else 0) r.shared with
    | none => exact fun h => absurd h (by simp)
    | some x =>
      obtain ⟨res, c', sh⟩ := x
      intro h
      obtain ⟨⟨l'', st''⟩, hx, heq⟩ := Option.map_eq_some_iff.mp h
      obtain ⟨rfl, rfl⟩ := Prod.mk.inj heq
      refine ⟨c', _, l'', hx, rfl, .inr ⟨res, sh, ⟨hv, hq⟩, rfl, ?_, rfl, ?_, ?_⟩⟩
      · split_ifs <;> rfl
      · intro hlt
        rw [if_pos hlt]
      · intro hlt
        rw [if_neg hlt]
        split_ifs <;> rfl
  · rw [if_neg hq] at h
    obtain ⟨⟨l'', st''⟩, hx, heq⟩ := Option.map_eq_some_iff.mp h
    obtain ⟨rfl, rfl⟩ := Prod.mk.inj heq
    exact ⟨c, _, l'', hx, rfl, .inl ⟨rfl, rfl, fun hq' => hq hq'.2⟩⟩

/-- A pass whose first branch is asked for tasks, and whose call on it
runs out of fuel, runs out too. -/
theorem branchPass_head_none {desired remainder : Int} {r : Round} {v : Nat}
    {c : DecisionTree} {rest : List (Nat × DecisionTree)} (hq : Qualifies desired remainder r (v, c))
    (hnone : sub c (desired - c.tasks + if 0 < remainder then 1 else 0) r.shared = none) :
    branchPass sub desired ((v, c) :: rest) (remainder, r) = none := by
  rw [branchPass, if_neg hq.1]
  dsimp only
  rw [if_pos hq.2, hnone]

/-- A pass whose calls keep leaves leaves leaves its branches leaves. -/
theorem branchPass_leaves
    (hkeeps : ∀ t n sh res t' sh', t.next = none → sub t n sh = some (res, t', sh') → t'.next = none)
    (desired : Int) :
    ∀ (l : List (Nat × DecisionTree)) (st : Int × Round) {l' : List (Nat × DecisionTree)}
      {st' : Int × Round}, AllLeaves l → branchPass sub desired l st = some (l', st') → AllLeaves l'
  | [], _, _, _, _, h => by
    cases h
    exact fun e he => absurd he List.not_mem_nil
  | (v, c) :: rest, (remainder, r), l', st', hl, h => by
    have hc : c.next = none := hl (v, c) List.mem_cons_self
    have hrest : AllLeaves rest := fun e he => hl e (List.mem_cons_of_mem _ he)
    obtain ⟨c', st'', l'', hx, rfl, hc'⟩ := branchPass_cons_eq_some h
    intro e he
    rcases List.mem_cons.mp he with rfl | he
    · rcases hc' with ⟨rfl, -, -⟩ | ⟨res, sh, -, hcall, -⟩
      · exact hc
      · exact hkeeps c _ r.shared res c' sh hc hcall
    · exact branchPass_leaves hkeeps desired rest st'' hrest hx e he

/-- Two calls that agree on leaves, the second keeping leaves leaves. -/
structure LeafAgree (sub sub' : SubtreeCall) : Prop where
  agree : ∀ t, t.next = none → sub t = sub' t
  keeps : ∀ t n sh res t' sh', t.next = none → sub' t n sh = some (res, t', sh') → t'.next = none

theorem round_congr (h : LeafAgree sub sub') {n : Int} {next : List (Nat × DecisionTree)}
    (hl : AllLeaves next) (r : Round) : round sub n next r = round sub' n next r := by
  simp only [round, branchPass_congr h.agree _ next _ hl]

theorem round_leaves (h : LeafAgree sub sub') {n : Int} {next next' : List (Nat × DecisionTree)}
    {r r' : Round} (hl : AllLeaves next) (hr : round sub' n next r = some (next', r')) :
    AllLeaves next' := by
  obtain ⟨x, hx, heq⟩ := Option.map_eq_some_iff.mp hr
  cases heq
  exact branchPass_leaves h.keeps _ next _ hl hx

/-- Over leaves, whether the loop gets stuck only depends on what the
calls do to leaves. -/
theorem stuckAfter_congr (h : LeafAgree sub sub') {n : Int} :
    ∀ (k : Nat) (next : List (Nat × DecisionTree)) (r : Round), AllLeaves next →
      (StuckAfter sub n k (next, r) ↔ StuckAfter sub' n k (next, r))
  | 0, _, _, _ => Iff.rfl
  | k + 1, next, r, hl => by
    simp only [StuckAfter, round_congr h hl r]
    cases hr : round sub' n next r with
    | none => exact Iff.rfl
    | some s => exact and_congr_right fun _ => stuckAfter_congr h k s.1 s.2 (round_leaves h hl hr)

/-- With fuel left, the call agrees on leaves with `leafCall`. -/
theorem leafAgree_leafCall (fuel : Nat) :
    LeafAgree (scheduleNTasksOnSubtree p nodeLess taskGroup (fuel + 1)) (leafCall p nodeLess taskGroup) where
  agree t ht := scheduleNTasksOnSubtree_leaf ht fuel
  keeps t n sh res t' sh' ht hcall := by
    have h := Option.some.inj hcall
    rw [show t' = (scheduleLeaf p nodeLess taskGroup t n sh).2.1 by rw [h], scheduleLeaf_next, ht]

end Leaves

-- =============== two spread levels

/-- A task of service 1 that reserves nothing. -/
def spreadTask (id : Nat) : Task := ⟨id, 1, .running, ⟨0, 0, []⟩, 0, [], []⟩

/-- The pipeline set for the group: every ready node passes. -/
def spreadPipeline : Pipeline := ⟨spreadTask 0, fun _ => true⟩

/-- `nodeLess` of `scheduleTaskGroup` for service 1 and nodes without
failures: fewer tasks of the service, then fewer tasks. -/
def fewerTasks (a b : NodeInfo) : Bool :=
  a.activeTasksCountByService 1 < b.activeTasksCountByService 1 ||
    (a.activeTasksCountByService 1 = b.activeTasksCountByService 1 &&
      a.activeTasksCount < b.activeTasksCount)

/-- A ready node running `tasks` tasks of service 1. -/
def rackNode (id : Nat) (tasks : Int) : NodeInfo :=
  { NodeInfo.empty ⟨id, .ready, .active, some []⟩ ⟨1000, 1000, []⟩ with
    activeTasksCountByService := fun s => if s = 1 then tasks else 0 }

/-- The labels `node.labels.1` (the datacenter: 1 for nodes 1 and 2, 2
for node 3) and `node.labels.2` (the rack, one per node). -/
def dcRack : SpreadDescriptor → NodeInfo → Nat
  | .nodeLabel 1, n => if n.node.id = 3 then 2 else 1
  | .nodeLabel _, n => n.node.id
  | .engineLabel _, _ => 0

/-- Racks 1 and 2 in datacenter 1, the second running two tasks of the
service, and rack 3 in datacenter 2. -/
def racks : NodeSet :=
  (((∅ : NodeSet).insert 3 (rackNode 3 0)).insert 2 (rackNode 2 2)).insert 1 (rackNode 1 0)

/-- Three new tasks of the service. -/
def spreadGroup : List Task := [spreadTask 11, spreadTask 12, spreadTask 13]

/-- The group's tree: spread over datacenters, then racks. -/
def spreadTree : DecisionTree :=
  tree racks dcRack 1 [.spread (.nodeLabel 1), .spread (.nodeLabel 2)] spreadGroup.length
    spreadPipeline.process fewerTasks

/-- Datacenter 1 of the tree. -/
def dc1 : DecisionTree := ((spreadTree.next.getD []).lookup 1).getD DecisionTree.empty

/-- Datacenter 2 of the tree. -/
def dc2 : DecisionTree := ((spreadTree.next.getD []).lookup 2).getD DecisionTree.empty

theorem spreadTree_next : spreadTree.next = some [(1, dc1), (2, dc2)] := rfl

/-- Datacenter 1, asked for one task, never returns. -/
theorem dc1_never_returns (fuel : Nat) (n : Int) (hn : n = 1) :
    scheduleNTasksOnSubtree spreadPipeline fewerTasks spreadGroup fuel dc1 n ⟨racks, ∅⟩ = none := by
  subst hn
  cases fuel with
  | zero => rfl
  | succ fuel =>
    rw [scheduleNTasksOnSubtree_node (show dc1.next = some (dc1.next.getD []) from rfl)]
    suffices h : whileLoop (scheduleNTasksOnSubtree spreadPipeline fewerTasks spreadGroup fuel) 1 fuel
        (dc1.next.getD []) ⟨0, dc1.tasks, [], ⟨racks, ∅⟩⟩ = none by
      rw [h]
      rfl
    cases fuel with
    | zero => exact whileLoop_zero (by decide)
    | succ fuel =>
      -- two rounds schedule three tasks on rack 1, and the third round asks no rack
      apply whileLoop_none_of_stuckAfter 2
      rw [stuckAfter_congr (leafAgree_leafCall fuel) 2 _ _ (by decide)]
      decide +kernel

theorem spread_levels_never_return :
    (∀ fuel, scheduleNTasksOnSubtree spreadPipeline fewerTasks spreadGroup fuel spreadTree
      spreadGroup.length ⟨racks, ∅⟩ = none) ∧
    ((round (leafCall spreadPipeline fewerTasks spreadGroup) 1 (dc1.next.getD [])
        ⟨0, dc1.tasks, [], ⟨racks, ∅⟩⟩).bind fun s =>
          round (leafCall spreadPipeline fewerTasks spreadGroup) 1 s.1 s.2).map
      (·.2.tasksScheduled) = some 3 := by
  refine ⟨fun fuel => ?_, by decide +kernel⟩
  cases fuel with
  | zero => rfl
  | succ fuel =>
    rw [scheduleNTasksOnSubtree_node spreadTree_next]
    suffices h : whileLoop (scheduleNTasksOnSubtree spreadPipeline fewerTasks spreadGroup fuel)
        spreadGroup.length fuel [(1, dc1), (2, dc2)] ⟨0, spreadTree.tasks, [], ⟨racks, ∅⟩⟩ = none by
      rw [h]
      rfl
    cases fuel with
    | zero => exact whileLoop_zero (by decide)
    | succ fuel =>
      -- the first round asks datacenter 1 for one task
      rw [whileLoop_succ (by decide), round]
      dsimp only
      rw [branchPass_head_none (by decide) (dc1_never_returns (fuel + 1) _ (by decide))]
      rfl

end SwarmKit.Scheduler.Fit
