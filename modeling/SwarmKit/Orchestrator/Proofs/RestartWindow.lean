import SwarmKit.Orchestrator.Restart

/-
What the window branch of `shouldRestart` counts (`Restart.lean`).

# The result

On a history list in non-decreasing order, as `RecordRestartHistory`
builds it while the clock does not go back, the branch counts exactly the restarts
strictly inside the window before the failure, `T - W < r < T`, and
leaves the list holding exactly the restarts after the lookback,
`r > T - W`, or nil when none is left (`shouldRestart_window`). The two
loops of the source subtract from the list's length; what they subtract
never exceeds it, so the unsigned count does not wrap.

# The method

The pruning loop is a `dropWhile` and the loop from the back a
`takeWhile` on the reversed list. On a sorted list each is a `filter`
(`dropWhile_le_eq_filter`, `takeWhile_ge_eq_filter`), and the count is
the length of a filter by splitting the kept list in two.
-/

namespace SwarmKit.Orchestrator

-- ======================= the loops

/-- On a sorted list, dropping the restarts at or before a bound keeps
exactly those after it. -/
theorem dropWhile_le_eq_filter {insts : List Int} (hs : insts.Pairwise (· ≤ ·)) (c : Int) :
    insts.dropWhile (fun r => r ≤ c) = insts.filter (fun r => c < r) := by
  induction insts with
  | nil => rfl
  | cons a l ih =>
    rw [List.pairwise_cons] at hs
    by_cases ha : a ≤ c
    · rw [List.dropWhile_cons_of_pos (by simpa using ha), ih hs.2,
        List.filter_cons_of_neg (by simpa using ha)]
    · -- past the bound, so is every later restart
      rw [List.dropWhile_cons_of_neg (by simpa using ha), List.filter_cons_of_pos (by simpa using ha)]
      rw [List.filter_eq_self.2 fun r hr => by have := hs.1 r hr; simp; omega]

/-- On a non-increasing list, taking the restarts at or after a bound
takes exactly those. -/
theorem takeWhile_ge_eq_filter {insts : List Int} (hs : insts.Pairwise (· ≥ ·)) (T : Int) :
    insts.takeWhile (fun r => ¬ r < T) = insts.filter (fun r => ¬ r < T) := by
  induction insts with
  | nil => rfl
  | cons a l ih =>
    rw [List.pairwise_cons] at hs
    by_cases ha : a < T
    · -- below the bound, so is every later restart
      rw [List.takeWhile_cons_of_neg (by simpa using ha), List.filter_cons_of_neg (by simpa using ha)]
      rw [List.filter_eq_nil_iff.2 fun r hr => by have := hs.1 r hr; simp; omega]
    · rw [List.takeWhile_cons_of_pos (by simpa using ha), ih hs.2,
        List.filter_cons_of_pos (by simpa using ha)]

/-- The window branch on a sorted list: the restarts inside the window,
and the list of those after the lookback. -/
theorem windowCount_eq {insts : List Int} (hs : insts.Pairwise (· ≤ ·)) (T : Int) (W : Nat) :
    windowCount insts T W =
      ((insts.filter fun r => T - W < r ∧ r < T).length,
        if insts.filter (fun r => T - W < r) = [] then none
        else some (insts.filter fun r => T - W < r)) := by
  unfold windowCount
  dsimp only
  rw [dropWhile_le_eq_filter hs]
  have hrev : ((insts.filter fun r => T - W < r).reverse).Pairwise (· ≥ ·) :=
    List.pairwise_reverse.2 (hs.sublist List.filter_sublist)
  rw [takeWhile_ge_eq_filter hrev, List.filter_reverse, List.length_reverse]
  -- the kept restarts split into those before `T` and the others
  have hsplit := List.length_eq_length_filter_add (l := insts.filter fun r => T - W < r)
    (fun r => decide (r < T))
  have hin : ((insts.filter fun r => T - W < r).filter fun r => decide (r < T)).length =
      (insts.filter fun r => T - W < r ∧ r < T).length := by
    rw [List.filter_filter]
    congr 1
    exact List.filter_congr fun r _ => by simp [and_comm]
  have hout : ((insts.filter fun r => T - W < r).filter fun r => !decide (r < T)) =
      (insts.filter fun r => T - W < r).filter fun r => decide (¬ r < T) :=
    List.filter_congr fun r _ => by rw [decide_not]
  rw [hout] at hsplit
  refine Prod.ext ?_ rfl
  dsimp only
  omega

/-- The two loops of the branch never subtract more than the list holds:
what the first prunes and what the second skips are disjoint parts. -/
theorem windowCount_no_underflow (insts : List Int) (T : Int) (W : Nat) :
    (insts.takeWhile fun r => r ≤ T - W).length +
      ((insts.dropWhile fun r => r ≤ T - W).reverse.takeWhile fun r => ¬ r < T).length ≤
        insts.length := by
  have hsplit := List.takeWhile_append_dropWhile (p := fun r => decide (r ≤ T - W)) (l := insts)
  have hlen := congrArg List.length hsplit
  rw [List.length_append] at hlen
  have hle := (List.takeWhile_sublist (fun r => decide (¬ r < T))
    (l := (insts.dropWhile fun r => r ≤ T - W).reverse)).length_le
  rw [List.length_reverse] at hle
  omega

-- =================== shouldRestart

theorem shouldRestart_window {t : Task} {service : Service} {s : Supervisor} {p : RestartPolicy}
    {info : InstanceRestartInfo} {insts : List Int} {T : Int}
    (hallow : conditionAllows t service = true) (hp : t.restart = some p) (hmax : p.maxAttempts ≠ 0)
    (hinfo : s.historyByService t.serviceID (instanceTuple t service) = some info)
    (hver : t.specVersion.any (· ≠ info.specVersion) = false) (hw : 0 < p.window)
    (hinsts : info.restartedInstances = some insts) (hsorted : insts.Pairwise (· ≤ ·))
    (hT : taskTime t = some T) :
    shouldRestart t service s =
        (decide ((insts.filter fun r => T - p.window < r ∧ r < T).length < p.maxAttempts),
          s.setHistory t.serviceID (instanceTuple t service)
            { info with restartedInstances :=
                if insts.filter (fun r => T - p.window < r) = [] then none
                else some (insts.filter fun r => T - p.window < r) }) ∧
      (insts.takeWhile fun r => r ≤ T - p.window).length +
        ((insts.dropWhile fun r => r ≤ T - p.window).reverse.takeWhile fun r => ¬ r < T).length ≤
          insts.length := by
  refine ⟨?_, windowCount_no_underflow insts T p.window⟩
  -- the branches before the window's: allowed, a limit, a history of the same spec version
  have hw0 : p.window ≠ 0 := Nat.pos_iff_ne_zero.1 hw
  unfold shouldRestart
  simp only [hallow, Bool.not_true, Bool.false_eq_true, if_false, hp, hmax, hinfo, hver, hw0,
    hinsts, hT, windowCount_eq hsorted]

/-- A policy of three attempts in a window of 10. -/
def windowPolicy : RestartPolicy := ⟨.any, none, 3, 10⟩

/-- A replicated service with that policy. -/
def windowService : Service := ⟨1, .replicated 3, some windowPolicy, some 0, 0⟩

/-- Its task in slot 2, failed at time 15. -/
def windowTask : Task := ⟨7, 1, 2, 0, .running, .failed, some 15, none, some windowPolicy, some 0, none, none⟩

/-- Restarts of slot 2 recorded at 1, 5, 12 and 20. -/
def windowRestarts : List Int := [1, 5, 12, 20]

def windowInfo : InstanceRestartInfo := ⟨4, some windowRestarts, 0⟩

def windowHistory : Supervisor := Supervisor.new.setHistory 1 ⟨2, 1, 0⟩ windowInfo

theorem window_counts_one_restart :
    shouldRestart windowTask windowService windowHistory =
        (decide ((windowRestarts.filter fun (r : Int) => 15 - windowPolicy.window < r ∧ r < 15).length <
            windowPolicy.maxAttempts),
          windowHistory.setHistory windowTask.serviceID (instanceTuple windowTask windowService)
            { windowInfo with
              restartedInstances :=
                (if windowRestarts.filter (fun (r : Int) => 15 - windowPolicy.window < r) = [] then none
                else some (windowRestarts.filter fun (r : Int) => 15 - windowPolicy.window < r)) }) ∧
      (windowRestarts.takeWhile fun (r : Int) => r ≤ 15 - windowPolicy.window).length +
        ((windowRestarts.dropWhile fun (r : Int) => r ≤ 15 - windowPolicy.window).reverse.takeWhile
          fun r => ¬ r < 15).length ≤ windowRestarts.length :=
  @shouldRestart_window windowTask windowService windowHistory windowPolicy windowInfo windowRestarts 15
    (by decide) rfl (by decide) rfl (by decide) (by decide) rfl (by decide) rfl

end SwarmKit.Orchestrator
