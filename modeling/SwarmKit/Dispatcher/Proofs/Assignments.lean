import SwarmKit.Dispatcher.Assignments

/-
What a node is left holding (`Assignments.lean`).

# The task-specific secret

A secret that its driver marks `DoNotReuse` is sent under
`CombineTwoIDs(secret, task)`, and `assignSecret` records the task as its
only user under that key. The caller goes on with the key it passed in
and records the task there as well; releasing the task's dependencies
walks the task's spec, whose keys are the secrets' own IDs, so it
releases the original key (sending a removal of an ID the node never
got) and never the task-specific one. Once the task is gone, the node
still holds the secret value the driver produced for it
(`task_specific_secret_outlives_task`).
-/

namespace SwarmKit.Dispatcher.Assignments

open SwarmKit.Scheduler (TaskState)

-- ========================= the run

/-- A store with one secret, `s`, whose driver answers with value 7 and
`DoNotReuse`. -/
def driverTx : ReadTx where
  getSecret id := if id = "s" then some ⟨"s", true, 0, false⟩ else none
  getConfig _ := none
  driverGet _ _ := .ok (7, true)

/-- A task assigned to the node whose container uses the secret `s`. -/
def secretTask : Task := ⟨"t1", .running, ⟨[], some ⟨["s"], []⟩⟩, .assigned⟩

/-- The task is assigned and sent, then deleted and its removal sent.
The set tracks no task and no volume, yet the node holds the secret
`s.t1` with the driver's value. -/
theorem task_specific_secret_outlives_task :
    ∃ w, Lts.run step ⟨newAssignmentSet "n1", ∅⟩
        [.updateTask driverTx secretTask, .send, .deleteTask driverTx secretTask, .send] = some w ∧
      w.set.tasksMap.entries = [] ∧ w.set.volumesMap.entries = [] ∧
      w.agent.lookup ⟨"s.t1", .secret⟩ = some (.secret ⟨"s.t1", true, 7, true⟩) := by
  refine ⟨_, rfl, ?_, rfl, ?_⟩ <;> decide

end SwarmKit.Dispatcher.Assignments
