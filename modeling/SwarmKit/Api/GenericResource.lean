import Mathlib.Data.List.Basic

/-
Generic resources (api/genericresource: resource_management.go `Claim`,
`ClaimResources`, `selectNodeResources`, `Reclaim`, `reclaimResources`,
`sanitize`, `sanitizeResource`; helpers.go `GetResource`,
`ConsumeNodeResources`, `remove`; validate.go `ValidateTask`,
`HasEnough`, `HasResource`).

# The values

A generic resource is a discrete amount of a kind (`gpu=2`) or one named
unit of a kind (`gpu=UUID1`). Kinds and names are strings the code only
compares, so they are numbers here; amounts are `int64`, so `Int`.

The Go lists hold pointers, and `remove` and `reclaimResources` change a
discrete entry of the node's list in place. Here a list holds values and
such a change replaces the entry. Two lists never share an entry here;
in Go they do after `sanitize` has put entries of the node description's
list into the available list, which this model leaves out.

# Claiming and reclaiming

`Claim` selects, for each reservation in turn, units from the node's
available list as it was before the claim, appends them to the task's
list and then removes them from the node's list. `Reclaim` gives a
task's units back one by one and then `sanitize`s the list against the
node description: an entry the description no longer backs is replaced
by the description's entries of its kind, once per kind.
-/

namespace SwarmKit.Api

/-- `api.GenericResource`. -/
inductive GenericResource where
  /-- `DiscreteResourceSpec{Kind, Value}` -/
  | discrete (kind : Nat) (value : Int)
  /-- `NamedResourceSpec{Kind, Value}` -/
  | named (kind : Nat) (value : Nat)
  deriving DecidableEq, Repr

/-- The errors of this package; their texts are not modelled. -/
inductive GenericResourceErr where
  /-- "task should only hold Discrete type" -/
  | notDiscrete
  /-- "not enough resources available for task reservations" -/
  | notEnough
  deriving DecidableEq, Repr

namespace GenericResource

/-- `Kind(res)`. -/
def kind : GenericResource → Nat
  | .discrete k _ => k
  | .named k _ => k

/-- `GetResource(kind, resources)`: the entries of one kind. -/
def getResource (kind : Nat) (resources : List GenericResource) : List GenericResource :=
  resources.filter (·.kind = kind)

-- =========================== claim

/-- The loop of `selectNodeResources(nodeRes, tr)` for the request
`tr = (kind, value)`, with `nrs` selected so far: the first discrete
entry of the kind ends the loop, with one copy of the request if it
holds enough; named entries are copied until there are `value` of
them. -/
def selectLoop (kind : Nat) (value : Int) :
    List GenericResource → List GenericResource → Except GenericResourceErr (List GenericResource)
  | [], nrs => if nrs = [] then .error .notEnough else .ok nrs
  | res :: rest, nrs =>
    if res.kind ≠ kind then selectLoop kind value rest nrs
    else
      match res with
      | .discrete _ v => .ok (if value ≤ v ∧ value ≠ 0 then nrs ++ [.discrete kind value] else nrs)
      | .named k n =>
        let nrs' : List GenericResource := nrs ++ [.named k n]
        if (nrs'.length : Int) = value then .ok nrs' else selectLoop kind value rest nrs'

/-- `selectNodeResources(nodeRes, tr)`. -/
def selectNodeResources (nodeRes : List GenericResource) (kind : Nat) (value : Int) :
    Except GenericResourceErr (List GenericResource) :=
  selectLoop kind value nodeRes []

/-- The loop of `Claim`: every reservation must be discrete, and each
selects from the same, unmodified, available list. -/
def selectAll (nodeAvailable : List GenericResource) :
    List GenericResource → Except GenericResourceErr (List GenericResource)
  | [] => .ok []
  | .named _ _ :: _ => .error .notDiscrete
  | .discrete k v :: rest => do
    let nrs ← selectNodeResources nodeAvailable k v
    let more ← selectAll nodeAvailable rest
    pure (nrs ++ more)

/-- `remove(na, r)`: the entry `na` after the change `remove` makes to it
in place, and whether it leaves the list. -/
def remove (na r : GenericResource) : GenericResource × Bool :=
  match r, na with
  | .discrete _ v, .discrete k nv => (.discrete k (nv - v), decide (nv - v ≤ 0))
  | .discrete _ _, .named _ _ => (na, false)
  | .named _ v, .named _ nv => (na, decide (v = nv))
  | .named _ _, .discrete _ _ => (na, false)

/-- The inner loop of `ConsumeNodeResources` for one available entry: the
selected units of its kind are removed from it in turn; `none` when it
leaves the list. -/
def consumeEntry : GenericResource → List GenericResource → Option GenericResource
  | na, [] => some na
  | na, r :: res =>
    if na.kind ≠ r.kind then consumeEntry na res
    else
      match remove na r with
      | (_, true) => none
      | (na', false) => consumeEntry na' res

/-- `ConsumeNodeResources(nodeAvailableResources, res)`. -/
def consumeNodeResources (nodeAvailable res : List GenericResource) : List GenericResource :=
  nodeAvailable.filterMap fun na => consumeEntry na res

/-- `ClaimResources(nodeAvailableResources, taskAssigned, resSelected)`:
the node's list and the task's list afterwards. -/
def claimResources (nodeAvailable taskAssigned resSelected : List GenericResource) :
    List GenericResource × List GenericResource :=
  (consumeNodeResources nodeAvailable resSelected, taskAssigned ++ resSelected)

/-- `Claim(nodeAvailableResources, taskAssigned, taskReservations)`: the
node's list and the task's list afterwards, or the error, with both
lists untouched. -/
def claim (nodeAvailable taskAssigned taskReservations : List GenericResource) :
    Except GenericResourceErr (List GenericResource × List GenericResource) :=
  (selectAll nodeAvailable taskReservations).map (claimResources nodeAvailable taskAssigned)

-- ========================= reclaim

/-- One step of `reclaimResources`: a discrete unit is appended when its
kind is gone, and added to the kind's entry when there is exactly one,
discrete; a named unit is appended. -/
def reclaimOne (nodeAvailable : List GenericResource) : GenericResource → List GenericResource
  | .discrete k v =>
    match getResource k nodeAvailable with
    | [] => nodeAvailable ++ [.discrete k v]
    | [.discrete _ _] =>
      nodeAvailable.map fun
        | .discrete k' nv => if k' = k then .discrete k' (nv + v) else .discrete k' nv
        | na => na
    | _ => nodeAvailable
  | .named k n => nodeAvailable ++ [.named k n]

/-- `reclaimResources(nodeAvailableResources, taskAssigned)`. -/
def reclaimResources (nodeAvailable taskAssigned : List GenericResource) : List GenericResource :=
  taskAssigned.foldl reclaimOne nodeAvailable

/-- `sanitizeResource(nodeRes, res)`: whether the description still backs
the entry, and otherwise the entries to put in its place. -/
def sanitizeResource (nodeRes : List GenericResource) :
    GenericResource → Bool × List GenericResource
  | .discrete k v =>
    match getResource k nodeRes with
    | [.discrete k' nv] => if v > nv then (false, [.discrete k' nv]) else (true, [])
    | nrs => (false, nrs)
  | .named k n =>
    let nrs := getResource k nodeRes
    if nrs = [] then (false, [])
    else
      -- the first discrete entry of the kind resets, the first equal
      -- name keeps
      match nrs.find? fun
          | .discrete _ _ => true
          | .named _ n' => n' = n with
      | some (.discrete _ _) => (false, nrs)
      | some (.named _ _) => (true, [])
      | none => (false, [])

/-- The loop of `sanitize`: the entries kept, the replacements gathered,
and the kinds already replaced. -/
def sanitizeLoop (nodeRes : List GenericResource) :
    List GenericResource → List GenericResource × List GenericResource × List Nat →
      List GenericResource × List GenericResource × List Nat
  | [], acc => acc
  | na :: rest, (kept, sanitized, kinds) =>
    match sanitizeResource nodeRes na with
    | (true, _) => sanitizeLoop nodeRes rest (kept ++ [na], sanitized, kinds)
    | (false, nrs) =>
      if na.kind ∈ kinds then sanitizeLoop nodeRes rest (kept, sanitized, kinds)
      else sanitizeLoop nodeRes rest (kept, sanitized ++ nrs, kinds ++ [na.kind])

/-- `sanitize(nodeRes, nodeAvailableResources)`: the kept entries, then
the replacements. -/
def sanitize (nodeRes nodeAvailable : List GenericResource) : List GenericResource :=
  match sanitizeLoop nodeRes nodeAvailable ([], [], []) with
  | (kept, sanitized, _) => kept ++ sanitized

/-- `Reclaim(nodeAvailableResources, taskAssigned, nodeRes)`. -/
def reclaim (nodeAvailable taskAssigned nodeRes : List GenericResource) : List GenericResource :=
  sanitize nodeRes (reclaimResources nodeAvailable taskAssigned)

-- ====================== validation

/-- `ValidateTask(resources)`: a task only reserves discrete amounts. -/
def validateTask (generic : List GenericResource) : Bool :=
  generic.all fun
    | .discrete _ _ => true
    | .named _ _ => false

/-- `HasEnough(nodeRes, taskRes)`: the first entry of the kind decides,
a discrete one by its amount, a named one by how many names the kind
has. -/
def hasEnough (nodeRes : List GenericResource) :
    GenericResource → Except GenericResourceErr Bool
  | .named _ _ => .error .notDiscrete
  | .discrete k v =>
    match getResource k nodeRes with
    | [] => .ok false
    | .discrete _ nv :: _ => .ok (decide (v ≤ nv))
    | nrs@(.named _ _ :: _) => .ok (decide (v ≤ nrs.length))

/-- `HasResource(res, resources)`: the first entry of the kind decides
when it is discrete, true when `res` is discrete and asks for no less
than it holds; a named entry decides only when it has `res`'s name. -/
def hasResource (res : GenericResource) : List GenericResource → Bool
  | [] => false
  | r :: rs =>
    if res.kind ≠ r.kind then hasResource res rs
    else
      match r, res with
      | .discrete _ v, .discrete _ rv => !decide (rv < v)
      | .discrete _ _, .named _ _ => false
      | .named _ v, .named _ rv => if rv ≠ v then hasResource res rs else true
      | .named _ _, .discrete _ _ => false

end GenericResource

end SwarmKit.Api
