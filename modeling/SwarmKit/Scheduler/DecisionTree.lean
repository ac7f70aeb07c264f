import SwarmKit.Scheduler.Pipeline
import SwarmKit.Lib.ContainerHeap

/-
The decision tree of the scheduler (manager/scheduler/nodeheap.go
`nodeMaxHeap`; decision_tree.go `decisionTree`, `orderedNodes`;
nodeset.go `nodeSet.tree`; scheduler.go `scheduleNTasksOnSubtree` and
the `nodeLess` of `scheduleTaskGroup`).

# The tree

`nodeSet.tree` puts every node of the set on a path of the tree, one
level for each spread preference, by the value the node has for the
preference's label. Each tree on the path counts the node's tasks of the
service; the leaf at the end keeps, in a max-heap under `nodeLess`, the
best `maxAssignments` nodes that meet the constraints.

# Scheduling on a subtree

On a leaf, `scheduleNTasksOnSubtree` orders the leaf's nodes and hands
them to `scheduleNTasksOnNodes`. Above the leaves it repeats a round
until `n` tasks are scheduled or every branch has run out of room: each
round computes the share of every usable branch from the branches' task
counts and the tasks still to schedule, and asks each branch below its
share for the difference.

# Reading the source

The heap's `Len` is the counter `length`, apart from the slice:
`Pop` only lowers the counter, and `orderedNodes` pops every node, so
the slice ends sorted. The slice `orderedNodes` returns is the heap's
own, and `scheduleNTasksOnNodes` writes assigned nodes into it, so a
leaf asked again finds its heap with `Len() = 0` and takes the second
path, which drops the nodes that fail the constraints and re-heapifies.
Trees are reached through pointers; here each call returns the subtree
as it left it. `noRoom` holds subtrees, here their keys. Go maps are
ranged in no fixed order: the node set in its table's order, the
subtrees in the order they were made. The values of labels are strings
the code only compares, numbers here; what a node's labels give for a
spread descriptor is the function `labelValue`, with the empty value for
a missing label. A nil `ActiveTasksCountByService` reads as 0 for every
service. The task group is a list in which the tasks already decided
are skipped, as the loop of `scheduleNTasksOnNodes` skips them and
deletes each task it assigns. Go's `/` and `%` on ints truncate toward
zero: `Int.tdiv` and `Int.tmod`. The while loop of a subtree has no
bound in Go; here it runs on fuel, and `none` is the fuel running out.
-/

namespace SwarmKit.Scheduler.Fit

-- ======================== the heap

/-- `nodeMaxHeap`: the slice and its `Len`; `lessFunc` is the `nodeLess`
each operation is given. -/
structure NodeMaxHeap where
  nodes : List NodeInfo
  length : Nat

/-- `nodeMaxHeap.Less(i, j)`: reversed, so the worst node is the root. -/
def heapLess (nodeLess : NodeInfo → NodeInfo → Bool) (a b : NodeInfo) : Bool := nodeLess b a

namespace NodeMaxHeap

variable (nodeLess : NodeInfo → NodeInfo → Bool)

/-- `heap.Push(h, x)`: the interface's `Push` appends and counts, then
`up` from `Len() - 1`. -/
def push (h : NodeMaxHeap) (x : NodeInfo) : NodeMaxHeap :=
  ⟨ContainerHeap.up (heapLess nodeLess) (h.nodes ++ [x]) h.length, h.length + 1⟩

/-- `heap.Pop(h)`: the interface's `Pop` only lowers the counter. -/
def pop (h : NodeMaxHeap) : NodeMaxHeap :=
  ⟨ContainerHeap.pop (heapLess nodeLess) h.nodes h.length, h.length - 1⟩

/-- `heap.Fix(h, i)`. -/
def fix (h : NodeMaxHeap) (i : Nat) : NodeMaxHeap :=
  ⟨ContainerHeap.fix (heapLess nodeLess) h.nodes i h.length, h.length⟩

/-- `heap.Init(h)`. -/
def init (h : NodeMaxHeap) : NodeMaxHeap :=
  ⟨ContainerHeap.init (heapLess nodeLess) h.nodes h.length, h.length⟩

/-- `for h.Len() > 0 { heap.Pop(h) }`, with at most `fuel` rounds. -/
def popAll : Nat → NodeMaxHeap → NodeMaxHeap
  | 0, h => h
  | fuel + 1, h => if 0 < h.length then popAll fuel (h.pop nodeLess) else h

end NodeMaxHeap

-- ================== the comparator

/-- `maxFailures`. -/
def maxFailures : Nat := 5

/-- The `nodeLess` closure of `scheduleTaskGroup`, for the group's task
of service `serviceID`: recent failures decide when either node has at
least `maxFailures`, then the service's tasks, then all tasks.
`recentFailures` is `countRecentFailures(now, t)` of each node. -/
def taskGroupNodeLess (recentFailures : NodeInfo → Nat) (serviceID : Nat) (a b : NodeInfo) : Bool :=
  let recentFailuresA := recentFailures a
  let recentFailuresB := recentFailures b
  let tasksByServiceA := a.activeTasksCountByService serviceID
  let tasksByServiceB := b.activeTasksCountByService serviceID
  if (recentFailuresA ≥ maxFailures ∨ recentFailuresB ≥ maxFailures) ∧ recentFailuresA > recentFailuresB then false
  else if (recentFailuresA ≥ maxFailures ∨ recentFailuresB ≥ maxFailures) ∧ recentFailuresB > recentFailuresA then true
  else if tasksByServiceA < tasksByServiceB then true
  else if tasksByServiceA > tasksByServiceB then false
  else decide (a.activeTasksCount < b.activeTasksCount)

-- ======================== the tree

/-- `decisionTree`: the service's tasks in the subtree, the subtrees by
value (`none` for a nil map: a leaf), and the heap of a leaf. -/
structure DecisionTree where
  tasks : Int
  next : Option (List (Nat × DecisionTree))
  nodeHeap : NodeMaxHeap

/-- The empty `decisionTree{}`. -/
def DecisionTree.empty : DecisionTree := ⟨0, none, ⟨[], 0⟩⟩

/-- A spread descriptor with the label prefix `strings.EqualFold` finds
on it: `node.labels.` or `engine.labels.`, and the key after it. -/
inductive SpreadDescriptor
  | nodeLabel (key : Nat)
  | engineLabel (key : Nat)
  deriving DecidableEq, Repr

/-- `api.PlacementPreference`: a spread over a supported descriptor, or
anything else, which the tree skips. -/
inductive PlacementPreference
  | spread (descriptor : SpreadDescriptor)
  | other
  deriving DecidableEq, Repr

/-- The value a node has at each level of the tree. -/
def levelValues (labelValue : SpreadDescriptor → NodeInfo → Nat) (node : NodeInfo) :
    List PlacementPreference → List Nat
  | [] => []
  | .spread d :: prefs => labelValue d node :: levelValues labelValue node prefs
  | .other :: prefs => levelValues labelValue node prefs

/-- `tree.next[value] = next` for a map ranged in insertion order: an
existing key keeps its place. -/
def setChild (v : Nat) (child : DecisionTree) : List (Nat × DecisionTree) → List (Nat × DecisionTree)
  | [] => [(v, child)]
  | (w, c) :: rest => if w = v then (v, child) :: rest else (w, c) :: setChild v child rest

/-- The leaf's part of `nodeSet.tree` for one node: below
`maxAssignments` nodes a node that meets the constraints is pushed;
after that one better than the root, the worst kept, replaces it. -/
def offerNode (nodeLess : NodeInfo → NodeInfo → Bool) (meetsConstraints : NodeInfo → Bool)
    (maxAssignments : Nat) (node : NodeInfo) (h : NodeMaxHeap) : NodeMaxHeap :=
  if h.length < maxAssignments then
    if meetsConstraints node then h.push nodeLess node else h
  else
    match h.nodes[0]? with
    | some root =>
      if nodeLess node root then
        if meetsConstraints node then NodeMaxHeap.fix nodeLess ⟨h.nodes.set 0 node, h.length⟩ 0
        else h
      else h
    | none => h

/-- The body of `nodeSet.tree`'s loop for one node, from the tree at
the node's first level with the values of the levels left. -/
def placeNode (nodeLess : NodeInfo → NodeInfo → Bool) (meetsConstraints : NodeInfo → Bool)
    (maxAssignments : Nat) (count : Int) (node : NodeInfo) :
    List Nat → DecisionTree → DecisionTree
  | [], t => { t with
      tasks := t.tasks + count
      nodeHeap := offerNode nodeLess meetsConstraints maxAssignments node t.nodeHeap }
  | v :: vs, t =>
    let children := t.next.getD []
    let child := (children.lookup v).getD DecisionTree.empty
    { t with
      tasks := t.tasks + count
      next := some (setChild v (placeNode nodeLess meetsConstraints maxAssignments count node vs child)
        children) }

/-- `nodeSet.tree(serviceID, preferences, maxAssignments,
meetsConstraints, nodeLess)`. -/
def tree (ns : NodeSet) (labelValue : SpreadDescriptor → NodeInfo → Nat) (serviceID : Nat)
    (preferences : List PlacementPreference) (maxAssignments : Nat)
    (meetsConstraints : NodeInfo → Bool) (nodeLess : NodeInfo → NodeInfo → Bool) : DecisionTree :=
  if maxAssignments = 0 then DecisionTree.empty
  else
    ns.entries.foldl (fun root e =>
      placeNode nodeLess meetsConstraints maxAssignments (e.2.activeTasksCountByService serviceID) e.2
        (levelValues labelValue e.2 preferences) root) DecisionTree.empty

/-- The loop of `orderedNodes` that drops the nodes failing the
constraints, each replaced by the last node, with at most `fuel`
rounds. -/
def refilter (meetsConstraints : NodeInfo → Bool) : Nat → Nat → List NodeInfo → List NodeInfo
  | 0, _, nodes => nodes
  | fuel + 1, i, nodes =>
    match nodes[i]? with
    | none => nodes
    | some node =>
      if meetsConstraints node then refilter meetsConstraints fuel (i + 1) nodes
      else
        let last := nodes.length - 1
        refilter meetsConstraints fuel i ((nodes.set i (nodes.getD last node)).take last)

/-- `dt.orderedNodes(meetsConstraints, nodeLess)`: the nodes best first,
and the heap they are the slice of. -/
def orderedNodes (meetsConstraints : NodeInfo → Bool) (nodeLess : NodeInfo → NodeInfo → Bool)
    (h : NodeMaxHeap) : List NodeInfo × NodeMaxHeap :=
  let h :=
    if h.length ≠ h.nodes.length then
      let nodes := refilter meetsConstraints h.nodes.length 0 h.nodes
      NodeMaxHeap.init nodeLess ⟨nodes, nodes.length⟩
    else h
  let h := NodeMaxHeap.popAll nodeLess h.length h
  (h.nodes, h)

-- ==================== the subtrees

/-- What the calls on subtrees share: the node set and the decisions. -/
structure Shared where
  nodeSet : NodeSet
  decisions : AList fun _ : Nat => Decision

/-- A call on a subtree: the tasks it scheduled, the subtree as it left
it, and what it left of the shared state; `none` when the fuel ran
out. -/
abbrev SubtreeCall := DecisionTree → Int → Shared → Option (Int × DecisionTree × Shared)

/-- `scheduleNTasksOnSubtree` on a leaf. -/
def scheduleLeaf (p : Pipeline) (nodeLess : NodeInfo → NodeInfo → Bool) (taskGroup : List Task)
    (t : DecisionTree) (n : Int) (sh : Shared) : Int × DecisionTree × Shared :=
  let (nodes, h) := orderedNodes p.process nodeLess t.nodeHeap
  if nodes.length = 0 then (0, { t with nodeHeap := h }, sh)
  else
    let a := scheduleNTasksOnNodes p nodeLess n.toNat taskGroup ⟨nodes, sh.nodeSet, 0, [], sh.decisions, 0⟩
    (a.scheduled, { t with nodeHeap := ⟨a.nodes, h.length⟩ }, ⟨a.nodeSet, a.decisions⟩)

/-- The state of the while loop above the leaves: `tasksScheduled`,
`tasksInUsableBranches`, `noRoom` and the shared state. -/
structure Round where
  tasksScheduled : Int
  tasksInUsableBranches : Int
  noRoom : List Nat
  shared : Shared

/-- The inner `for` over the subtrees, with `remainder` and the round's
state: the subtrees as they are left, or `none` when a call ran out of
fuel. -/
def branchPass (sub : SubtreeCall) (desired : Int) :
    List (Nat × DecisionTree) → Int × Round → Option (List (Nat × DecisionTree) × Int × Round)
  | [], st => some ([], st)
  | (v, subtree) :: rest, (remainder, r) =>
    if v ∈ r.noRoom then
      (branchPass sub desired rest (remainder, r)).map fun (l, st) => ((v, subtree) :: l, st)
    else
      let subtreeTasks := subtree.tasks
      if subtreeTasks < desired ∨ (subtreeTasks = desired ∧ 0 < remainder) then
        let tasksToAssign := desired - subtreeTasks + if 0 < remainder then 1 else 0
        match sub subtree tasksToAssign r.shared with
        | none => none
        | some (res, subtree, shared) =>
          let (remainder, r) :=
            if res < tasksToAssign then
              (remainder, { r with
                noRoom := r.noRoom ++ [v]
                tasksInUsableBranches := r.tasksInUsableBranches - subtreeTasks })
            else if 0 < remainder then (remainder - 1, r) else (remainder, r)
          let r := { r with tasksScheduled := r.tasksScheduled + res, shared }
          (branchPass sub desired rest (remainder, r)).map fun (l, st) => ((v, subtree) :: l, st)
      else (branchPass sub desired rest (remainder, r)).map fun (l, st) => ((v, subtree) :: l, st)

/-- One round of the while loop: each usable branch's share and the
pass over the branches. -/
def round (sub : SubtreeCall) (n : Int) (next : List (Nat × DecisionTree)) (r : Round) :
    Option (List (Nat × DecisionTree) × Round) :=
  let usable : Int := next.length - r.noRoom.length
  let desiredTasksPerBranch := (r.tasksInUsableBranches + n - r.tasksScheduled).tdiv usable
  let remainder := (r.tasksInUsableBranches + n - r.tasksScheduled).tmod usable
  (branchPass sub desiredTasksPerBranch next (remainder, r)).map fun (l, st) => (l, st.2)

/-- Whether the while loop goes on. -/
def Round.running (n : Int) (next : List (Nat × DecisionTree)) (r : Round) : Bool :=
  r.tasksScheduled ≠ n && r.noRoom.length ≠ next.length

/-- The while loop, with at most `fuel` rounds. -/
def whileLoop (sub : SubtreeCall) (n : Int) :
    Nat → List (Nat × DecisionTree) → Round → Option (List (Nat × DecisionTree) × Round)
  | fuel, next, r =>
    if r.running n next then
      match fuel with
      | 0 => none
      | fuel + 1 =>
        match round sub n next r with
        | none => none
        | some (next, r) => whileLoop sub n fuel next r
    else some (next, r)

/-- `scheduleNTasksOnSubtree(n, taskGroup, tree, schedulingDecisions,
nodeLess)`, with `fuel` bounding the depth and every while loop. -/
def scheduleNTasksOnSubtree (p : Pipeline) (nodeLess : NodeInfo → NodeInfo → Bool)
    (taskGroup : List Task) : Nat → SubtreeCall
  | 0, _, _, _ => none
  | fuel + 1, t, n, sh =>
    match t.next with
    | none => some (scheduleLeaf p nodeLess taskGroup t n sh)
    | some next =>
      match whileLoop (scheduleNTasksOnSubtree p nodeLess taskGroup fuel) n fuel next ⟨0, t.tasks, [], sh⟩ with
      | none => none
      | some (next, r) => some (r.tasksScheduled, { t with next := some next }, r.shared)

end SwarmKit.Scheduler.Fit
