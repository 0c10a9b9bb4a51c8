import Corgtex.Domain.Errors
import Corgtex.Library.JsString
import Corgtex.Library.ParentForest

/-!
# The circle hierarchy

`circles.ts` keeps the circles of a workspace in a tree by checking every new `parentCircleId` with
`validateParentCircle`. The check walks up the parents and stops at an archived ancestor, while
`archive.ts` archives and restores single circles and leaves their parents and children in place.
`circles_sound_iff` says how long the hierarchy stays a forest.

Requests are modelled past the membership and lineage checks; one that those reject changes nothing.
-/

namespace Corgtex.Domain

open Option hiding or_assoc

open List ParentForest Relation

/-- A row of `Circle` (`schema.prisma`), without the ordering and time stamps, which none of
the operations below reads. -/
structure Circle where
  id : JsString
  workspaceId : JsString
  parentCircleId : Option JsString
  name : JsString
  purposeMd : Option JsString
  domainMd : Option JsString
  maturityStage : JsString
  archivedAt : Option Int
  archivedByUserId : Option JsString
  archiveReason : Option JsString
deriving DecidableEq, Repr

/-- The `Circle` table with its primary key. -/
structure CircleTable where
  rows : List Circle
  nodup : (rows.map Circle.id).Nodup

namespace CircleTable

def empty : CircleTable := ⟨[], .nil⟩

section
variable (table : CircleTable)

/-- `circle.findUnique({ where: { id } })`. -/
def findUnique (id : JsString) : Option Circle :=
  table.rows.find? (fun circle => circle.id = id)

/-- `circle.create({ data })`: the primary key rejects an `id` that is taken. -/
def create (circle : Circle) : Except AppError CircleTable :=
  if h : circle.id ∈ table.rows.map Circle.id then
    .error ⟨500, "P2002", "Unique constraint failed on the fields: (id)"⟩
  else
    .ok ⟨table.rows ++ [circle], by
      rw [List.map_append, List.nodup_append]
      refine ⟨table.nodup, List.nodup_singleton _, fun a ha b hb he => ?_⟩
      exact h (List.mem_singleton.1 hb ▸ he ▸ ha)⟩

/-- `circle.update({ where: { id }, data })`: `data` replaces every field but the key. -/
def update (id : JsString) (data : Circle → Circle) : CircleTable where
  rows := table.rows.map fun circle =>
    if circle.id = id then { data circle with id := circle.id } else circle
  nodup := by
    rw [List.map_map]
    refine (List.map_congr_left fun circle _ => ?_) ▸ table.nodup
    show _ = (if circle.id = id then _ else circle : Circle).id
    split <;> rfl

/-- The parent that a circle's row names. -/
def parentOf (id : JsString) : Option JsString :=
  (table.findUnique id).bind Circle.parentCircleId

/-- The workspace that a circle belongs to. -/
def workspaceOf (id : JsString) : Option JsString :=
  (table.findUnique id).map Circle.workspaceId

/-- The rows that a request in `workspaceId` may use. -/
def findLive (workspaceId id : JsString) : Option Circle :=
  (table.findUnique id).filter fun circle =>
    circle.workspaceId = workspaceId && circle.archivedAt.isNone

end

end CircleTable

/-! ## The requests -/

/-- The `while` loop of `validateParentCircle` (line 40), one unit of fuel a turn. -/
def ancestorWalk (table : CircleTable) (workspaceId circleId : JsString) :
    Nat → List JsString → Option JsString → Except AppError Unit
  | 0, _, _ => .ok ()
  | fuel + 1, visited, nextParentId =>
    match nextParentId.bind JsString.orNull with
    | none => .ok ()
    | some nextParentId => do
      invariant (nextParentId ≠ circleId) 400 "INVALID_INPUT"
        "A circle cannot be moved under one of its descendants."
      if nextParentId ∈ visited then
        return ()
      match table.findUnique nextParentId with
      | none => return ()
      | some ancestor =>
        if ancestor.workspaceId ≠ workspaceId ∨ ancestor.archivedAt.isSome then
          return ()
        ancestorWalk table workspaceId circleId fuel (nextParentId :: visited)
          ancestor.parentCircleId

/-- `validateParentCircle` (line 15). The loop visits each row once at most, so it has fuel
for every row. -/
def validateParentCircle (table : CircleTable) (workspaceId : JsString)
    (circleId parentCircleId : Option JsString) : Except AppError (Option JsString) :=
  match JsString.trimOrNull parentCircleId with
  | none => return none
  | some parentCircleId => do
    invariant (some parentCircleId ≠ circleId) 400 "INVALID_INPUT"
      "A circle cannot be its own parent."
    match table.findLive workspaceId parentCircleId with
    | none => throw ⟨404, "NOT_FOUND", "Parent circle not found."⟩
    | some parent =>
      match circleId with
      | none => return some parentCircleId
      | some circleId =>
        ancestorWalk table workspaceId circleId table.rows.length [parent.id] parent.parentCircleId
        return some parentCircleId

/-- The fields of a `createCircle` request; `id` is the `uuid()` that the row gets. -/
structure CreateCircleParams where
  workspaceId : JsString
  id : JsString
  name : JsString
  purposeMd : Option JsString
  domainMd : Option JsString
  parentCircleId : Option JsString
  maturityStage : Option JsString
deriving DecidableEq, Repr

/-- `createCircle` (line 99). -/
def createCircle (table : CircleTable) (params : CreateCircleParams) :
    Except AppError CircleTable := do
  let name := params.name.trim
  invariant (name.length > 0) 400 "INVALID_INPUT" "Circle name is required."
  let parentCircleId ← validateParentCircle table params.workspaceId none params.parentCircleId
  table.create {
    id := params.id
    workspaceId := params.workspaceId
    parentCircleId
    name
    purposeMd := JsString.trimOrNull params.purposeMd
    domainMd := JsString.trimOrNull params.domainMd
    maturityStage := (params.maturityStage.bind JsString.orNull).getD (.lit "GETTING_STARTED")
    archivedAt := none
    archivedByUserId := none
    archiveReason := none }

/-- The fields of an `updateCircle` request: the outer `none` is `undefined`, the inner `null`. -/
structure UpdateCircleParams where
  workspaceId : JsString
  circleId : JsString
  name : Option JsString
  purposeMd : Option (Option JsString)
  domainMd : Option (Option JsString)
  parentCircleId : Option (Option JsString)
  maturityStage : Option JsString
deriving DecidableEq, Repr

/-- The `data` that `updateCircle` writes, with the parent that was validated. -/
def UpdateCircleParams.data (params : UpdateCircleParams)
    (parentCircleId : Option (Option JsString)) (circle : Circle) : Circle :=
  { circle with
    name := (params.name.map JsString.trim).getD circle.name
    purposeMd := (params.purposeMd.map JsString.trimOrNull).getD circle.purposeMd
    domainMd := (params.domainMd.map JsString.trimOrNull).getD circle.domainMd
    parentCircleId := parentCircleId.getD circle.parentCircleId
    maturityStage := params.maturityStage.getD circle.maturityStage }

/-- `updateCircle` (line 164). -/
def updateCircle (table : CircleTable) (params : UpdateCircleParams) :
    Except AppError CircleTable := do
  match table.findLive params.workspaceId params.circleId with
  | none => throw ⟨404, "NOT_FOUND", "Circle not found."⟩
  | some circle =>
    invariant (params.name.all fun name => name.trim.length > 0) 400 "INVALID_INPUT"
      "Circle name is required."
    match params.parentCircleId with
    | none => return table.update params.circleId (params.data none)
    | some requested =>
      let parentCircleId ← validateParentCircle table params.workspaceId (some circle.id) requested
      return table.update params.circleId (params.data (some parentCircleId))

section
variable (table : CircleTable) (workspaceId circleId : JsString)

/-- `archiveWorkspaceArtifact` on a circle (`archive.ts:748`), which `deleteCircle` runs too. -/
def archiveCircle (now : Int)
    (actorUserId reason : Option JsString) : Except AppError CircleTable :=
  match (table.findUnique circleId).filter (·.workspaceId = workspaceId) with
  | none => throw ⟨404, "NOT_FOUND", "Circle not found."⟩
  | some record =>
    if record.archivedAt.isSome then
      return table
    else
      return table.update record.id fun circle => { circle with
        archivedAt := some now
        archivedByUserId := actorUserId
        archiveReason := JsString.trimOrNull reason }

/-- `restoreWorkspaceArtifact` on a circle (`archive.ts:929`). -/
def restoreCircle : Except AppError CircleTable :=
  match (table.findUnique circleId).filter (·.workspaceId = workspaceId) with
  | none => throw ⟨404, "NOT_FOUND", "Circle not found."⟩
  | some record => do
    invariant record.archivedAt.isSome 400 "INVALID_STATE" "Circle is not archived."
    return table.update record.id fun circle => { circle with
      archivedAt := none
      archivedByUserId := none
      archiveReason := none }

end

/-- One request on the circles of some workspace. -/
inductive CircleOp
  | create (params : CreateCircleParams)
  | update (params : UpdateCircleParams)
  | archive (workspaceId circleId : JsString) (now : Int) (actorUserId reason : Option JsString)
  | restore (workspaceId circleId : JsString)
deriving DecidableEq, Repr

/-- What one request does to the table, or the error that it is answered with. -/
def CircleOp.perform (table : CircleTable) : CircleOp → Except AppError CircleTable
  | .create params => createCircle table params
  | .update params => updateCircle table params
  | .archive workspaceId circleId now actorUserId reason =>
    archiveCircle table workspaceId circleId now actorUserId reason
  | .restore workspaceId circleId => restoreCircle table workspaceId circleId

/-- The table after a request: the transaction of a failed one is rolled back. -/
def CircleOp.apply (table : CircleTable) (op : CircleOp) : CircleTable :=
  match op.perform table with
  | .ok table' => table'
  | .error _ => table

/-- The table after requests that run one at a time. -/
def runCircleOps (ops : List CircleOp) : CircleTable := ops.foldl CircleOp.apply .empty
/-! ## The tree -/

/-- `CircleTreeItem` (line 300): the item, and its `childCircles` as keys of the map. -/
structure CircleTreeItem where
  item : Circle
  childCircles : List JsString

/-- The `map` and the `roots` of `buildCircleTree`, the roots as keys of the map. -/
structure CircleTree where
  map : JsString → Option CircleTreeItem
  roots : List JsString

/-- The body of the second loop of `buildCircleTree`. -/
def CircleTree.attach (tree : CircleTree) (item : Circle) : CircleTree :=
  match item.parentCircleId.bind JsString.orNull with
  | some parentCircleId =>
    match tree.map parentCircleId with
    | some parent =>
      { tree with
        map := Function.update tree.map parentCircleId
          (some { parent with childCircles := parent.childCircles ++ [item.id] }) }
    | none => { tree with roots := tree.roots ++ [item.id] }
  | none => { tree with roots := tree.roots ++ [item.id] }

/-- The body of the first loop of `buildCircleTree`. -/
def setItem (map : JsString → Option CircleTreeItem) (item : Circle) :
    JsString → Option CircleTreeItem :=
  Function.update map item.id (some ⟨item, []⟩)

/-- The map after the first loop of `buildCircleTree`. -/
def initialMap (flatList : List Circle) : JsString → Option CircleTreeItem :=
  flatList.foldl setItem fun _ => none

/-- `buildCircleTree` (line 365). -/
def buildCircleTree (flatList : List Circle) : CircleTree :=
  flatList.foldl CircleTree.attach { map := initialMap flatList, roots := [] }

/-- The keys of the children that the tree shows under an entry. -/
def CircleTree.childrenOf (tree : CircleTree) (id : JsString) : List JsString :=
  ((tree.map id).map CircleTreeItem.childCircles).getD []

/-- `findMany({ where: { workspaceId, archivedAt: null } })`, in the order of the table. -/
def CircleTable.activeCircles (table : CircleTable) (workspaceId : JsString) : List Circle :=
  table.rows.filter fun circle => circle.workspaceId = workspaceId && circle.archivedAt.isNone

/-! ## The table -/

section
variable {table table' : CircleTable} {id a : JsString} {circle : Circle}

namespace CircleTable

theorem id_of_findUnique (h : table.findUnique id = some circle) : circle.id = id := by
  simpa using find?_some h

theorem findUnique_eq_some :
    table.findUnique id = some circle ↔ circle ∈ table.rows ∧ circle.id = id := by
  refine ⟨fun h => ⟨mem_of_find?_eq_some h, id_of_findUnique h⟩, fun ⟨hmem, hid⟩ => ?_⟩
  obtain ⟨found, hfound⟩ : ∃ found, table.findUnique id = some found :=
    isSome_iff_exists.1 (find?_isSome.2 ⟨circle, hmem, by simpa using hid⟩)
  rw [hfound, some.injEq]
  exact inj_on_of_nodup_map table.nodup (mem_of_find?_eq_some hfound) hmem
    ((id_of_findUnique hfound).trans hid.symm)

theorem findUnique_create (h : table.create circle = .ok table') (a : JsString) :
    table'.findUnique a = if a = circle.id then some circle else table.findUnique a := by
  unfold create at h
  split at h
  · cases h
  next hid =>
  injection h with h
  subst h
  show find? _ (table.rows ++ [circle]) = _
  rw [find?_append]
  split
  · next ha =>
    have hnone : table.rows.find? (fun row => row.id = a) = none := by
      refine find?_eq_none.2 fun row hrow => ?_
      simpa using fun he => hid (mem_map.2 ⟨row, hrow, he.trans ha⟩)
    rw [hnone]
    simp [ha]
  · next ha => simp [findUnique, Ne.symm ha]

theorem findUnique_update (data : Circle → Circle) (a : JsString) :
    (table.update id data).findUnique a =
      (table.findUnique a).map fun circle =>
        if a = id then { data circle with id := circle.id } else circle := by
  cases h : table.findUnique a with
  | none =>
    refine find?_eq_none.2 fun row hrow => ?_
    obtain ⟨circle, hmem, rfl⟩ := mem_map.1 hrow
    have hne : circle.id ≠ a := by simpa using find?_eq_none.1 h circle hmem
    split <;> simpa using hne
  | some circle =>
    obtain ⟨hmem, rfl⟩ := findUnique_eq_some.1 h
    refine findUnique_eq_some.2 ⟨mem_map.2 ⟨circle, hmem, rfl⟩, ?_⟩
    split <;> rfl

theorem parentOf_create (h : table.create circle = .ok table') :
    table'.parentOf = Function.update table.parentOf circle.id circle.parentCircleId := by
  funext a
  rw [parentOf, findUnique_create h, Function.update_apply]
  split <;> rfl

variable {data : Circle → Circle}

/-- An update that keeps the parents of the rows keeps the hierarchy. -/
theorem parentOf_update_self
    (hdata : ∀ circle, (data circle).parentCircleId = circle.parentCircleId) :
    (table.update id data).parentOf = table.parentOf := by
  funext a
  rw [parentOf, findUnique_update, parentOf]
  cases table.findUnique a with
  | none => rfl
  | some circle =>
    show (if a = id then _ else circle : Circle).parentCircleId = _
    split
    · exact hdata circle
    · rfl

/-- An update that gives the row a parent moves the row under it. -/
theorem parentOf_update {parent : Option JsString} (hid : (table.findUnique id).isSome)
    (hdata : ∀ circle, (data circle).parentCircleId = parent) :
    (table.update id data).parentOf = Function.update table.parentOf id parent := by
  obtain ⟨circle, hcircle⟩ := isSome_iff_exists.1 hid
  funext a
  rw [parentOf, findUnique_update, Function.update_apply]
  split
  · next ha =>
    rw [ha, hcircle]
    exact hdata circle
  · cases h : table.findUnique a <;> simp [parentOf, h]

theorem workspaceOf_create (h : table.create circle = .ok table') :
    table'.workspaceOf = Function.update table.workspaceOf circle.id (some circle.workspaceId) := by
  funext a
  rw [workspaceOf, findUnique_create h, Function.update_apply]
  split <;> rfl

theorem workspaceOf_update (table : CircleTable) (id : JsString)
    (hdata : ∀ circle, (data circle).workspaceId = circle.workspaceId) :
    (table.update id data).workspaceOf = table.workspaceOf := by
  funext a
  rw [workspaceOf, findUnique_update, workspaceOf]
  cases table.findUnique a with
  | none => rfl
  | some circle =>
    show some (if a = id then _ else circle : Circle).workspaceId = _
    split
    · exact congrArg some (hdata circle)
    · rfl

theorem findUnique_of_create (h : table.create circle = .ok table') :
    table.findUnique circle.id = none := by
  unfold create at h
  split at h
  · cases h
  next hid =>
  refine find?_eq_none.2 fun row hrow => ?_
  simpa using fun he => hid (mem_map.2 ⟨row, hrow, he⟩)

variable {workspaceId : JsString}

theorem findLive_eq_some :
    table.findLive workspaceId id = some circle ↔
      table.findUnique id = some circle ∧ circle.workspaceId = workspaceId ∧
        circle.archivedAt = none := by
  simp [findLive, filter_eq_some_iff]

theorem workspaceOf_of_findLive (h : (table.findLive workspaceId id).isSome) :
    table.workspaceOf id = some workspaceId := by
  obtain ⟨circle, hcircle⟩ := isSome_iff_exists.1 h
  obtain ⟨hfound, rfl, _⟩ := findLive_eq_some.1 hcircle
  simp [workspaceOf, hfound]

theorem workspaceOf_of_parentOf {p : JsString} (h : table.parentOf a = some p) :
    (table.workspaceOf a).isSome := by
  obtain ⟨circle, hcircle, _⟩ := bind_eq_some_iff.1 h
  simp [workspaceOf, hcircle]

end CircleTable

/-! ## The check of a new parent -/

/-- The parent that the walk climbs to from `id`: it stops at missing, foreign and archived rows. -/
def liveParent (table : CircleTable) (workspaceId id : JsString) : Option JsString :=
  (table.findLive workspaceId id).bind fun circle => circle.parentCircleId.bind JsString.orNull

theorem ancestorWalk_eq (table : CircleTable) (workspaceId circleId : JsString) (fuel : Nat)
    (visited : List JsString) (nextParentId : Option JsString) :
    ancestorWalk table workspaceId circleId fuel visited nextParentId =
      invariant (!climb (liveParent table workspaceId) circleId fuel visited
          (nextParentId.bind JsString.orNull))
        400 "INVALID_INPUT" "A circle cannot be moved under one of its descendants." := by
  induction fuel generalizing visited nextParentId with
  | zero => rfl
  | succ fuel ih =>
    rw [ancestorWalk]
    cases nextParentId.bind JsString.orNull with
    | none => rfl
    | some a =>
      show (invariant (a ≠ circleId) _ _ _ >>= _) = _
      rw [climb]
      rcases eq_or_ne a circleId with ha | ha
      · simp only [ha]
        simp [invariant]
        rfl
      rw [if_neg ha, invariant, if_pos (by simpa using ha)]
      show (if a ∈ visited then _ else _) = _
      split
      · rfl
      rw [liveParent, CircleTable.findLive]
      cases table.findUnique a with
      | none => cases fuel <;> rfl
      | some ancestor =>
        show (if ancestor.workspaceId ≠ workspaceId ∨ ancestor.archivedAt.isSome = true
          then _ else _) = _
        split
        · next hstop =>
          have hdead :
              (ancestor.workspaceId = workspaceId && ancestor.archivedAt.isNone) = false := by
            rcases hstop with hws | harchived
            · simp [hws]
            · simp [harchived]
          rw [filter_some, hdead]
          cases fuel <;> rfl
        · next hgo =>
          rw [not_or, not_not, not_isSome_iff_eq_none] at hgo
          rw [filter_some, hgo.1, hgo.2]
          simpa using ih (a :: visited) ancestor.parentCircleId

theorem validateParentCircle_eq_ok {circleId parentCircleId : Option JsString}
    {result : Option JsString} :
    validateParentCircle table workspaceId circleId parentCircleId = .ok result ↔
      result = JsString.trimOrNull parentCircleId ∧
        ∀ parent, JsString.trimOrNull parentCircleId = some parent →
          (table.findLive workspaceId parent).isSome ∧
            ∀ circle, circleId = some circle →
              parent ≠ circle ∧ ¬ TransGen (Up (liveParent table workspaceId)) parent circle := by
  unfold validateParentCircle
  cases hparent : JsString.trimOrNull parentCircleId with
  | none => exact ⟨fun h => ⟨(Except.ok.inj h).symm, nofun⟩, fun h => congrArg Except.ok h.1.symm⟩
  | some parent =>
    simp only [invariant_bind_ok]
    cases hlive : table.findLive workspaceId parent with
    | none => simp [hlive, throw, throwThe, MonadExceptOf.throw]
    | some row =>
      cases circleId with
      | none =>
        refine ⟨fun h => ⟨(Except.ok.inj h.2).symm, ?_⟩,
          fun h => ⟨rfl, congrArg Except.ok h.1.symm⟩⟩
        rintro _ ⟨⟩
        exact ⟨by simp [hlive], nofun⟩
      | some circle =>
        have hrow := (CircleTable.findLive_eq_some.1 hlive).1
        simp only [ancestorWalk_eq, invariant_bind_ok, some.injEq, forall_eq', hlive,
          isSome_some, true_and, CircleTable.id_of_findUnique hrow]
        have hnext : row.parentCircleId.bind JsString.orNull
            = liveParent table workspaceId parent := by simp [liveParent, hlive]
        have hnodes : ∀ a b, liveParent table workspaceId a = some b →
            a ∈ table.rows.map Circle.id := by
          intro a b hab
          obtain ⟨found, hfound, _⟩ := bind_eq_some_iff.1 hab
          have hfound := CircleTable.findUnique_eq_some.1 (CircleTable.findLive_eq_some.1 hfound).1
          exact mem_map.2 ⟨found, hfound.1, hfound.2⟩
        have hclimb : parent ≠ circle →
            (climb (liveParent table workspaceId) circle table.rows.length [parent]
                (liveParent table workspaceId parent) = true ↔
              TransGen (Up (liveParent table workspaceId)) parent circle) := fun hne => by
          simpa using climb_iff hnodes hne
        rw [hnext]
        constructor
        · rintro ⟨hne, hno, hresult⟩
          have hne : parent ≠ circle := by simpa using hne
          refine ⟨(Except.ok.inj hresult).symm, hne, fun h => ?_⟩
          simp [(hclimb hne).2 h] at hno
        · rintro ⟨rfl, hne, hno⟩
          refine ⟨by simpa using hne, ?_, rfl⟩
          simpa using fun h => hno ((hclimb hne).1 h)

/-! ## What a request does to the hierarchy -/

/-- Every parent is a circle of the same workspace, with a key that is not empty. -/
def Linked (table : CircleTable) : Prop :=
  ∀ a p, table.parentOf a = some p → p ≠ [] ∧ table.workspaceOf p = table.workspaceOf a

/-- A `createCircle` that succeeds adds a row under a live parent of its workspace, if any. -/
theorem createCircle_ok {params : CreateCircleParams} (h : createCircle table params = .ok table') :
    ∃ parent : Option JsString,
      table'.parentOf = Function.update table.parentOf params.id parent ∧
      table'.workspaceOf = Function.update table.workspaceOf params.id (some params.workspaceId) ∧
      table.workspaceOf params.id = none ∧
      ∀ p, parent = some p → p ≠ [] ∧ table.workspaceOf p = some params.workspaceId := by
  obtain ⟨_, h⟩ := invariant_bind_ok.1 h
  cases hvalid : validateParentCircle table params.workspaceId none params.parentCircleId with
  | error e => cases hvalid ▸ h
  | ok parent =>
    rw [hvalid] at h
    obtain ⟨rfl, hlive⟩ := validateParentCircle_eq_ok.1 hvalid
    refine ⟨_, CircleTable.parentOf_create h, CircleTable.workspaceOf_create h, ?_, ?_⟩
    · rw [CircleTable.workspaceOf, CircleTable.findUnique_of_create h]
      rfl
    · intro p hp
      obtain ⟨text, _, htext⟩ := bind_eq_some_iff.1 hp
      exact ⟨(JsString.orNull_eq_some.1 htext).2,
        CircleTable.workspaceOf_of_findLive (hlive p hp).1⟩

section
variable (table : CircleTable) (params : UpdateCircleParams)

/-- What an `updateCircle` request needs of its new parent, if it names one. -/
def ParentAccepted : Prop :=
  ∀ parent, params.parentCircleId.bind JsString.trimOrNull = some parent →
    (table.findLive params.workspaceId parent).isSome ∧ parent ≠ params.circleId ∧
      ¬ TransGen (Up (liveParent table params.workspaceId)) parent params.circleId

/-- The rest of what an `updateCircle` request needs. -/
def UpdateAccepted : Prop :=
  (table.findLive params.workspaceId params.circleId).isSome ∧
    ∀ name, params.name = some name → name.trim ≠ []

end

variable {params : UpdateCircleParams}

/-- When `updateCircle` succeeds, and what it writes. -/
theorem updateCircle_eq_ok :
    updateCircle table params = .ok table' ↔
      UpdateAccepted table params ∧ ParentAccepted table params ∧
        table.update params.circleId (params.data (params.parentCircleId.map JsString.trimOrNull))
          = table' := by
  unfold updateCircle UpdateAccepted ParentAccepted
  cases hlive : table.findLive params.workspaceId params.circleId with
  | none => exact ⟨nofun, fun h => nomatch h.1.1⟩
  | some circle =>
    have hid := CircleTable.id_of_findUnique (CircleTable.findLive_eq_some.1 hlive).1
    have hname : (params.name.all fun name => decide (name.trim.length > 0)) = true ↔
        ∀ name, params.name = some name → name.trim ≠ [] := by
      cases params.name <;> simp [length_pos_iff]
    simp only [invariant_bind_ok, hname, isSome_some, true_and, hid]
    refine and_congr_right fun _ => ?_
    cases params.parentCircleId with
    | none => exact ⟨fun h => ⟨nofun, Except.ok.inj h⟩, fun h => congrArg Except.ok h.2⟩
    | some requested =>
      show (validateParentCircle _ _ _ _ >>= _) = _ ↔ _
      cases hvalid : validateParentCircle table params.workspaceId (some params.circleId)
          requested with
      | error e =>
        refine ⟨nofun, fun ⟨haccepted, _⟩ => ?_⟩
        refine nomatch hvalid.symm.trans (validateParentCircle_eq_ok.2 ⟨rfl, fun parent hp => ?_⟩)
        obtain ⟨hparent, hne, hno⟩ := haccepted parent hp
        exact ⟨hparent, fun _ he => some.inj he ▸ ⟨hne, hno⟩⟩
      | ok parent =>
        obtain ⟨rfl, hparent⟩ := validateParentCircle_eq_ok.1 hvalid
        refine ⟨fun h => ⟨fun parent hp => ?_, Except.ok.inj h⟩, fun h => congrArg Except.ok h.2⟩
        obtain ⟨hlive, hno⟩ := hparent parent hp
        exact ⟨hlive, hno params.circleId rfl⟩

/-- A successful update that names no parent keeps the hierarchy, one that names a parent moves the
circle under it. -/
theorem parentOf_data (hlive : UpdateAccepted table params) :
    (table.update params.circleId
        (params.data (params.parentCircleId.map JsString.trimOrNull))).parentOf =
      match params.parentCircleId with
      | none => table.parentOf
      | some requested =>
        Function.update table.parentOf params.circleId (JsString.trimOrNull requested) := by
  cases params.parentCircleId with
  | none => exact CircleTable.parentOf_update_self fun _ => rfl
  | some requested =>
    obtain ⟨circle, hcircle⟩ := isSome_iff_exists.1 hlive.1
    have hfound := (CircleTable.findLive_eq_some.1 hcircle).1
    exact CircleTable.parentOf_update (by simp [hfound]) fun _ => rfl

/-- Archiving and restoring leave every parent and every workspace in place. -/
theorem archiveCircle_ok {circleId : JsString} {now : Int} {actorUserId reason : Option JsString}
    (h : archiveCircle table workspaceId circleId now actorUserId reason = .ok table') :
    table'.parentOf = table.parentOf ∧ table'.workspaceOf = table.workspaceOf := by
  unfold archiveCircle at h
  split at h
  · cases h
  split at h
  · exact Except.ok.inj h ▸ ⟨rfl, rfl⟩
  · refine Except.ok.inj h ▸ ⟨CircleTable.parentOf_update_self fun _ => rfl, ?_⟩
    exact CircleTable.workspaceOf_update _ _ fun _ => rfl

theorem restoreCircle_ok {circleId : JsString}
    (h : restoreCircle table workspaceId circleId = .ok table') :
    table'.parentOf = table.parentOf ∧ table'.workspaceOf = table.workspaceOf := by
  unfold restoreCircle at h
  split at h
  · cases h
  obtain ⟨_, h⟩ := invariant_bind_ok.1 h
  refine Except.ok.inj h ▸ ⟨CircleTable.parentOf_update_self fun _ => rfl, ?_⟩
  exact CircleTable.workspaceOf_update _ _ fun _ => rfl

/-! ## The hierarchy over a run -/

theorem CircleOp.apply_cases (table : CircleTable) (op : CircleOp) :
    op.apply table = table ∨ op.perform table = .ok (op.apply table) := by
  unfold CircleOp.apply
  cases op.perform table with
  | ok table' => exact .inr rfl
  | error e => exact .inl rfl

theorem Linked.place {parent : Option JsString} (h : Linked table)
    (hparent : table'.parentOf = Function.update table.parentOf id parent)
    (hworkspace : table'.workspaceOf = Function.update table.workspaceOf id (some workspaceId))
    (hid : ∀ w, table.workspaceOf id = some w → w = workspaceId)
    (hvalid : ∀ p, parent = some p → p ≠ [] ∧ table.workspaceOf p = some workspaceId) :
    Linked table' := by
  have hkeep : ∀ {q w}, table.workspaceOf q = some w → table'.workspaceOf q = some w := by
    intro q w hq
    rw [hworkspace, Function.update_apply]
    split
    · next he => exact congrArg some (hid w (he ▸ hq)).symm
    · exact hq
  intro q p hqp
  rw [hparent, Function.update_apply] at hqp
  split at hqp
  · next he =>
    obtain ⟨hne, hp⟩ := hvalid p hqp
    exact ⟨hne, by rw [hkeep hp, hworkspace, he, Function.update_self]⟩
  · obtain ⟨hne, hp⟩ := h q p hqp
    obtain ⟨w, hw⟩ := isSome_iff_exists.1 (CircleTable.workspaceOf_of_parentOf hqp)
    exact ⟨hne, by rw [hkeep hw, hkeep (hp.trans hw)]⟩

/-- Every request keeps the parents linked. -/
theorem Linked.apply (h : Linked table) (op : CircleOp) : Linked (op.apply table) := by
  rcases CircleOp.apply_cases table op with hrejected | hok
  · rw [hrejected]
    exact h
  generalize op.apply table = table' at hok
  cases op with
  | create params =>
    obtain ⟨parent, hparent, hworkspace, hfresh, hvalid⟩ := createCircle_ok hok
    exact h.place hparent hworkspace (fun w hw => nomatch hfresh.symm.trans hw) hvalid
  | update params =>
    obtain ⟨haccepted, hvalid, rfl⟩ := updateCircle_eq_ok.1 hok
    have hworkspace : (table.update params.circleId (params.data
        (params.parentCircleId.map JsString.trimOrNull))).workspaceOf = table.workspaceOf :=
      CircleTable.workspaceOf_update _ _ fun _ => rfl
    have hparent := parentOf_data haccepted
    have hself := CircleTable.workspaceOf_of_findLive haccepted.1
    unfold ParentAccepted at hvalid
    cases hrequested : params.parentCircleId with
    | none =>
      rw [hrequested] at hparent hworkspace
      unfold Linked
      rw [hparent, hworkspace]
      exact h
    | some requested =>
      rw [hrequested] at hparent hworkspace hvalid
      have hsame : table.workspaceOf =
          Function.update table.workspaceOf params.circleId (some params.workspaceId) := by
        rw [← hself, Function.update_eq_self]
      refine h.place hparent (hworkspace.trans hsame) ?_ ?_
      · exact fun w hw => some.inj (hw.symm.trans hself)
      · intro p hp
        obtain ⟨text, _, htext⟩ := bind_eq_some_iff.1 hp
        exact ⟨(JsString.orNull_eq_some.1 htext).2,
          CircleTable.workspaceOf_of_findLive (hvalid p hp).1⟩
  | archive workspaceId circleId now actorUserId reason =>
    obtain ⟨hparent, hworkspace⟩ := archiveCircle_ok hok
    unfold Linked
    rw [hparent, hworkspace]
    exact h
  | restore workspaceId circleId =>
    obtain ⟨hparent, hworkspace⟩ := restoreCircle_ok hok
    unfold Linked
    rw [hparent, hworkspace]
    exact h

def CircleTable.Archived (table : CircleTable) (id : JsString) : Prop :=
  ∃ circle, table.findUnique id = some circle ∧ circle.archivedAt.isSome

/-- The request moves a circle under a live parent that lies below it, with an archived circle on
the chain between the two. -/
def HiddenMove (table : CircleTable) : CircleOp → Prop
  | .update params => UpdateAccepted table params ∧
      ∃ parent, params.parentCircleId.bind JsString.trimOrNull = some parent ∧
        (table.findLive params.workspaceId parent).isSome ∧
        ∃ archived, table.Archived archived ∧
          ReflTransGen (Up table.parentOf) parent archived ∧
          ReflTransGen (Up table.parentOf) archived params.circleId
  | _ => False

theorem not_archived_of_findLive (h : (table.findLive workspaceId id).isSome) :
    ¬ table.Archived id := by
  rintro ⟨circle, hfound, harchived⟩
  obtain ⟨row, hrow⟩ := isSome_iff_exists.1 h
  obtain ⟨hrow, _, hlive⟩ := CircleTable.findLive_eq_some.1 hrow
  rw [hfound, some.injEq] at hrow
  rw [hrow, hlive] at harchived
  cases harchived

/-- A step of the walk is a step of the hierarchy. -/
theorem parentOf_of_liveParent {b : JsString} (h : liveParent table workspaceId a = some b) :
    (table.findLive workspaceId a).isSome ∧ table.parentOf a = some b := by
  obtain ⟨circle, hcircle, hparent⟩ := bind_eq_some_iff.1 h
  obtain ⟨p, hp, hpb⟩ := bind_eq_some_iff.1 hparent
  obtain ⟨hfound, _⟩ := CircleTable.findLive_eq_some.1 hcircle
  refine ⟨by simp [hcircle], bind_eq_some_iff.2 ⟨circle, hfound, ?_⟩⟩
  exact (JsString.orNull_eq_some.1 hpb).1 ▸ hp

/-- From a live circle the walk climbs to everything above it, or an archived circle is in between.
-/
theorem Linked.walk_reaches {target : JsString} (h : Linked table)
    (hlive : (table.findLive workspaceId a).isSome)
    (hup : ReflTransGen (Up table.parentOf) a target) :
    ReflTransGen (Up (liveParent table workspaceId)) a target ∨
      ∃ archived, table.Archived archived ∧ ReflTransGen (Up table.parentOf) a archived ∧
        ReflTransGen (Up table.parentOf) archived target := by
  induction hup using ReflTransGen.head_induction_on with
  | refl => exact .inl .refl
  | @head a b hab hbt ih =>
    obtain ⟨circle, hcircle⟩ := isSome_iff_exists.1 hlive
    have hfound := (CircleTable.findLive_eq_some.1 hcircle).1
    have hparent : circle.parentCircleId = some b := by
      simpa [Up, CircleTable.parentOf, hfound] using hab
    obtain ⟨hne, hws⟩ := h a b hab
    have hstep : liveParent table workspaceId a = some b := by
      simp [liveParent, hcircle, hparent, hne]
    rw [CircleTable.workspaceOf_of_findLive hlive] at hws
    obtain ⟨row, hrow, hrowws⟩ := map_eq_some_iff.1 hws
    cases harchived : row.archivedAt with
    | some _ =>
      exact .inr ⟨b, ⟨row, hrow, by simp [harchived]⟩, .single hab, hbt⟩
    | none =>
      have hblive : (table.findLive workspaceId b).isSome :=
        isSome_iff_exists.2 ⟨row, CircleTable.findLive_eq_some.2 ⟨hrow, hrowws, harchived⟩⟩
      rcases ih hblive with hwalk | ⟨c, hc, hbc, hct⟩
      · exact .inl (.head hstep hwalk)
      · exact .inr ⟨c, hc, .head hab hbc, hct⟩

/-- What the walk climbs to has no archived circle in between. -/
theorem not_archived_of_walk {target archived : JsString} (hacyclic : Acyclic table.parentOf)
    (hup : ReflTransGen (Up (liveParent table workspaceId)) a target)
    (htarget : (table.findLive workspaceId target).isSome)
    (harchived : ReflTransGen (Up table.parentOf) a archived)
    (hbelow : ReflTransGen (Up table.parentOf) archived target) : ¬ table.Archived archived := by
  induction hup using ReflTransGen.head_induction_on with
  | refl =>
    rcases reflTransGen_iff_eq_or_transGen.1 harchived with he | hpath
    · exact he ▸ not_archived_of_findLive htarget
    · exact absurd (TransGen.trans_left hpath hbelow) (hacyclic _)
  | head hab _ ih =>
    obtain ⟨hlive, hparent⟩ := parentOf_of_liveParent hab
    rcases harchived.cases_head with he | ⟨c, hac, hc⟩
    · exact he ▸ not_archived_of_findLive hlive
    · exact ih (up_rightUnique _ hac hparent ▸ hc)

/-- Above a live circle, an archived circle on the chain to a live `target` is what hides the
target from the walk. -/
theorem hidden_iff {target : JsString} (hlinked : Linked table)
    (hacyclic : Acyclic table.parentOf) (hlive : (table.findLive workspaceId a).isSome)
    (htarget : (table.findLive workspaceId target).isSome) :
    (∃ archived, table.Archived archived ∧ ReflTransGen (Up table.parentOf) a archived ∧
        ReflTransGen (Up table.parentOf) archived target) ↔
      ReflTransGen (Up table.parentOf) a target ∧
        ¬ ReflTransGen (Up (liveParent table workspaceId)) a target := by
  constructor
  · rintro ⟨archived, harchived, hup, hbelow⟩
    refine ⟨hup.trans hbelow, fun hwalk => ?_⟩
    exact not_archived_of_walk hacyclic hwalk htarget hup hbelow harchived
  · rintro ⟨hup, hno⟩
    exact (hlinked.walk_reaches hlive hup).resolve_left hno

theorem Linked.workspaceOf_eq {b : JsString} (h : Linked table)
    (hup : ReflTransGen (Up table.parentOf) a b) : table.workspaceOf b = table.workspaceOf a := by
  induction hup with
  | refl => rfl
  | tail _ hbc ih => exact (h _ _ hbc).2.trans ih

/-- A new circle has nothing below it, so it may be placed anywhere. -/
theorem createCircle_acyclic {params : CreateCircleParams} (hlinked : Linked table)
    (hacyclic : Acyclic table.parentOf) (h : createCircle table params = .ok table') :
    Acyclic table'.parentOf := by
  obtain ⟨parent, hparent, _, hfresh, hvalid⟩ := createCircle_ok h
  rw [hparent]
  cases parent with
  | none => exact hacyclic.update_none
  | some p =>
    refine (acyclic_update_iff hacyclic).2 fun hup => ?_
    cases hfresh.symm.trans ((hlinked.workspaceOf_eq hup).trans (hvalid p rfl).2)

section
variable (hlinked : Linked table) (hacyclic : Acyclic table.parentOf)
include hlinked hacyclic

theorem HiddenMove.accepted (h : HiddenMove table (.update params)) :
    ParentAccepted table params := by
  obtain ⟨haccepted, parent, hparent, hlive, hhidden⟩ := h
  intro p hp
  obtain rfl : parent = p := some.inj (hparent.symm.trans hp)
  obtain ⟨_, hno⟩ := (hidden_iff hlinked hacyclic hlive haccepted.1).1 hhidden
  exact ⟨hlive, fun he => hno (he ▸ .refl), fun hwalk => hno hwalk.to_reflTransGen⟩

/-- An update that is accepted keeps the hierarchy a forest exactly when it is not a hidden move. -/
theorem updateCircle_acyclic_iff (h : updateCircle table params = .ok table') :
    Acyclic table'.parentOf ↔ ¬ HiddenMove table (.update params) := by
  obtain ⟨haccepted, hvalid, rfl⟩ := updateCircle_eq_ok.1 h
  rw [parentOf_data haccepted]
  unfold ParentAccepted at hvalid
  cases hrequested : params.parentCircleId with
  | none =>
    refine iff_of_true hacyclic ?_
    rintro ⟨_, parent, hparent, _⟩
    cases hrequested ▸ hparent
  | some requested =>
    cases hparent : JsString.trimOrNull requested with
    | none =>
      show Acyclic (Function.update _ _ (JsString.trimOrNull requested)) ↔ _
      rw [hparent]
      refine iff_of_true hacyclic.update_none ?_
      rintro ⟨_, parent, hsome, _⟩
      rw [hrequested] at hsome
      cases hparent.symm.trans hsome
    | some parent =>
      rw [hrequested] at hvalid
      obtain ⟨hlive, hne, hno⟩ := hvalid parent hparent
      show Acyclic (Function.update _ _ (JsString.trimOrNull requested)) ↔ _
      rw [hparent, acyclic_update_iff hacyclic]
      refine not_congr ⟨fun hup => ?_, ?_⟩
      · refine ⟨haccepted, parent, by rw [hrequested]; exact hparent, hlive, ?_⟩
        refine (hidden_iff hlinked hacyclic hlive haccepted.1).2 ⟨hup, fun hwalk => ?_⟩
        exact (reflTransGen_iff_eq_or_transGen.1 hwalk).elim (fun he => hne he.symm) hno
      · rintro ⟨_, p, hp, _, archived, _, hup, hbelow⟩
        rw [hrequested] at hp
        obtain rfl : parent = p := some.inj (hparent.symm.trans hp)
        exact hup.trans hbelow

/-- **When one request keeps the hierarchy a forest.** It does exactly when it is not a hidden
move: every other move of a circle below itself is rejected by the walk. -/
theorem apply_acyclic_iff (op : CircleOp) : Acyclic
    (op.apply table).parentOf ↔ ¬ HiddenMove table op := by
  cases hop : op.perform table with
  | error e =>
    have happly : op.apply table = table := by simp [CircleOp.apply, hop]
    rw [happly]
    refine iff_of_true hacyclic fun hhidden => ?_
    cases op with
    | update params =>
      refine nomatch hop.symm.trans (updateCircle_eq_ok.2 ⟨hhidden.1, ?_, rfl⟩)
      exact hhidden.accepted hlinked hacyclic
    | _ => exact hhidden
  | ok table' =>
    have happly : op.apply table = table' := by simp [CircleOp.apply, hop]
    rw [happly]
    cases op with
    | create params => exact iff_of_true (createCircle_acyclic hlinked hacyclic hop) id
    | update params => exact updateCircle_acyclic_iff hlinked hacyclic hop
    | archive workspaceId circleId now actorUserId reason =>
      exact iff_of_true ((archiveCircle_ok hop).1 ▸ hacyclic) id
    | restore workspaceId circleId => exact iff_of_true ((restoreCircle_ok hop).1 ▸ hacyclic) id

end

/-! ## The tree over the active circles -/

/-- The parent under which the tree shows an item. -/
def shownParent (flatList : List Circle) (item : Circle) : Option JsString :=
  (item.parentCircleId.bind JsString.orNull).filter fun p => p ∈ flatList.map Circle.id

/-- What the second loop has built after the items of `seen`. -/
structure Attached (flatList seen : List Circle) (tree : CircleTree) : Prop where
  keys : ∀ id, (tree.map id).isSome ↔ id ∈ flatList.map Circle.id
  roots : tree.roots = (seen.filter fun item => shownParent flatList item = none).map Circle.id
  children : ∀ id, tree.childrenOf id =
    (seen.filter fun item => shownParent flatList item = some id).map Circle.id

theorem Attached.attach {flatList seen : List Circle} {tree : CircleTree}
    (h : Attached flatList seen tree) (item : Circle) :
    Attached flatList (seen ++ [item]) (tree.attach item) := by
  have hroot : shownParent flatList item = none →
      Attached flatList (seen ++ [item]) { tree with roots := tree.roots ++ [item.id] } := by
    intro hnone
    refine ⟨h.keys, ?_, fun id => ?_⟩
    · simp [h.roots, filter_append, hnone]
    · rw [filter_append, filter_cons_of_neg (by simp [hnone])]
      simpa [CircleTree.childrenOf] using h.children id
  unfold CircleTree.attach
  cases hp : item.parentCircleId.bind JsString.orNull with
  | none => exact hroot (by rw [shownParent, hp]; rfl)
  | some p =>
    dsimp only
    cases hparent : tree.map p with
    | none =>
      refine hroot ?_
      have hnot : p ∉ flatList.map Circle.id := fun hmem => by
        simpa [hparent] using (h.keys p).2 hmem
      rw [shownParent, hp, filter_some, if_neg (by simpa using hnot)]
    | some parent =>
      have hshown : shownParent flatList item = some p := by
        have hmem := (h.keys p).1 (by simp [hparent])
        rw [shownParent, hp, filter_some, if_pos (by simpa using hmem)]
      refine ⟨fun id => ?_, ?_, fun id => ?_⟩
      · show (Function.update tree.map p _ id).isSome ↔ _
        rw [Function.update_apply, ← h.keys id]
        split
        · next he => simp [he, hparent]
        · exact Iff.rfl
      · simpa [filter_append, hshown] using h.roots
      · have hchildren := h.children id
        rw [CircleTree.childrenOf] at hchildren ⊢
        rw [filter_append, map_append, ← hchildren]
        show ((Function.update tree.map p _ id).map _).getD [] = _
        rw [Function.update_apply]
        split
        · next he => simp [he, hparent, hshown]
        · next he => simp [hshown, Ne.symm he]

/-- The first loop sets an entry without children for each item. -/
theorem initialMap_attached (flatList : List Circle) :
    Attached flatList [] ⟨initialMap flatList, []⟩ := by
  have hset : ∀ (items : List Circle) (map : JsString → Option CircleTreeItem) (id : JsString),
      ((∀ entry, map id = some entry → entry.childCircles = []) →
        ∀ entry, items.foldl setItem map id = some entry → entry.childCircles = []) ∧
      ((items.foldl setItem map id).isSome ↔ (map id).isSome ∨ id ∈ items.map Circle.id) := by
    intro items
    induction items with
    | nil => exact fun map id => ⟨fun h => h, by simp⟩
    | cons item items ih =>
      intro map id
      obtain ⟨hempty, hkeys⟩ := ih (setItem map item) id
      rw [foldl_cons]
      refine ⟨fun hmap => hempty fun entry hentry => ?_, ?_⟩
      · rw [setItem, Function.update_apply] at hentry
        split at hentry
        · exact some.inj hentry ▸ rfl
        · exact hmap entry hentry
      · rw [hkeys, setItem, Function.update_apply, map_cons, mem_cons, ← or_assoc]
        refine or_congr_left ?_
        split
        · next he => simp [he]
        · next he => simp [he]
  refine ⟨fun id => by simpa [initialMap] using (hset flatList (fun _ => none) id).2, rfl,
    fun id => ?_⟩
  have hempty := (hset flatList (fun _ => none) id).1 (by simp)
  show ((initialMap flatList id).map CircleTreeItem.childCircles).getD [] = []
  cases hentry : initialMap flatList id with
  | none => rfl
  | some entry => exact hempty entry hentry

theorem buildCircleTree_attached (flatList : List Circle) :
    Attached flatList flatList (buildCircleTree flatList) := by
  have hloop : ∀ (rest seen : List Circle) (tree : CircleTree), Attached flatList seen tree →
      Attached flatList (seen ++ rest) (rest.foldl CircleTree.attach tree) := by
    intro rest
    induction rest with
    | nil => exact fun seen tree h => by simpa using h
    | cons item rest ih =>
      intro seen tree h
      simpa using ih (seen ++ [item]) (tree.attach item) (h.attach item)
  exact hloop flatList [] _ (initialMap_attached flatList)

theorem buildCircleTree_presents {flatList : List Circle} (hnodup : (flatList.map Circle.id).Nodup)
    (hrows : flatList ⊆ table.rows) (hlinked : Linked table) :
    Presents (fun id => (table.parentOf id).filter fun p =>
        id ∈ flatList.map Circle.id && p ∈ flatList.map Circle.id)
      (flatList.map Circle.id) (buildCircleTree flatList).roots
      (buildCircleTree flatList).childrenOf := by
  obtain ⟨_, hroots, hchildren⟩ := buildCircleTree_attached flatList
  have hshown : ∀ item ∈ flatList, shownParent flatList item =
      (table.parentOf item.id).filter fun p =>
        item.id ∈ flatList.map Circle.id && p ∈ flatList.map Circle.id := by
    intro item hitem
    have hfound := CircleTable.findUnique_eq_some.2 ⟨hrows hitem, rfl⟩
    have hparent : table.parentOf item.id = item.parentCircleId := by
      simp [CircleTable.parentOf, hfound]
    have hmem : item.id ∈ flatList.map Circle.id := mem_map.2 ⟨item, hitem, rfl⟩
    rw [shownParent, hparent]
    cases hp : item.parentCircleId with
    | none => rfl
    | some p =>
      have hne := (hlinked item.id p (hparent.trans hp)).1
      rw [bind_some, JsString.orNull, if_neg hne]
      simp [hmem]
  have hsub : ∀ (test : Circle → Bool), ((flatList.filter test).map Circle.id).Nodup :=
    fun test => hnodup.sublist (filter_sublist.map _)
  have hmem : ∀ (id : JsString) (shown : Option JsString),
      id ∈ (flatList.filter fun item => shownParent flatList item = shown).map Circle.id ↔
        id ∈ flatList.map Circle.id ∧ (table.parentOf id).filter (fun p =>
          id ∈ flatList.map Circle.id && p ∈ flatList.map Circle.id) = shown := by
    intro id shown
    constructor
    · intro h
      obtain ⟨item, hitem, rfl⟩ := mem_map.1 h
      obtain ⟨hitem, he⟩ := mem_filter.1 hitem
      exact ⟨mem_map.2 ⟨item, hitem, rfl⟩, hshown item hitem ▸ of_decide_eq_true he⟩
    · rintro ⟨h, he⟩
      obtain ⟨item, hitem, rfl⟩ := mem_map.1 h
      refine mem_map.2 ⟨item, mem_filter.2 ⟨hitem, ?_⟩, rfl⟩
      exact decide_eq_true ((hshown item hitem).trans he)
  refine ⟨hroots ▸ hsub _, fun id => hchildren id ▸ hsub _, fun id => hroots ▸ hmem id none,
    fun id child => hchildren id ▸ hmem child (some id), fun id _ p hp => ?_⟩
  have hlisted := (Bool.and_eq_true _ _ ▸ (filter_eq_some_iff.1 hp).2 : _ ∧ _)
  exact of_decide_eq_true hlisted.2

/-- The tree places each listed circle exactly once: walked from its roots, deep enough, it is a
permutation of the list. -/
def PlacesEachOnce (flatList : List Circle) : Prop :=
  ∃ depth, ∀ depth' ≥ depth,
    ((buildCircleTree flatList).roots.flatMap
      (listing (buildCircleTree flatList).childrenOf depth')).Perm (flatList.map Circle.id)

/-- The parent relation over all circles is acyclic, and the tree over the active circles of each
workspace, read in any order, places each of them exactly once. -/
structure CirclesSound (table : CircleTable) : Prop where
  acyclic : Acyclic table.parentOf
  tree : ∀ workspaceId flatList, flatList.Perm (table.activeCircles workspaceId) →
    PlacesEachOnce flatList

theorem CirclesSound.of_acyclic (hlinked : Linked table) (hacyclic : Acyclic table.parentOf) :
    CirclesSound table := by
  refine ⟨hacyclic, fun workspaceId flatList hperm => ?_⟩
  have hnodup : (flatList.map Circle.id).Nodup :=
    (hperm.map _).nodup_iff.2 (table.nodup.sublist (filter_sublist.map _))
  have hrows : flatList ⊆ table.rows :=
    fun item hitem => mem_of_mem_filter (hperm.subset hitem)
  refine (buildCircleTree_presents hnodup hrows hlinked).listing_perm (hacyclic.mono ?_) hnodup
  exact fun a b hab => (filter_eq_some_iff.1 hab).1

theorem linked_runCircleOps (ops : List CircleOp) : Linked (runCircleOps ops) := by
  have hrun : ∀ (ops : List CircleOp) (table : CircleTable), Linked table →
      Linked (ops.foldl CircleOp.apply table) := by
    intro ops
    induction ops with
    | nil => exact fun _ h => h
    | cons op ops ih => exact fun table h => ih _ (h.apply op)
  exact hrun ops .empty nofun

/-- **The hierarchy over a run.** After every prefix of a run the circles are sound, if and only if
no request of the run is a hidden move in the state that it meets. -/
theorem circles_sound_iff (ops : List CircleOp) :
    (∀ done, done <+: ops → CirclesSound (runCircleOps done)) ↔
      ∀ done op, done ++ [op] <+: ops → ¬ HiddenMove (runCircleOps done) op := by
  have hstep : ∀ done op, runCircleOps (done ++ [op]) = op.apply (runCircleOps done) :=
    fun done op => by simp [runCircleOps]
  constructor
  · intro hsound done op hpre
    have hbefore := hsound done ((prefix_append done [op]).trans hpre)
    have hafter := hsound _ hpre
    rw [hstep] at hafter
    exact (apply_acyclic_iff (linked_runCircleOps done) hbefore.acyclic op).1 hafter.acyclic
  · intro hmoves done hpre
    refine .of_acyclic (linked_runCircleOps done) ?_
    induction done using reverseRecOn with
    | nil => exact acyclic_none
    | append_singleton done op ih =>
      have hbefore := ih ((prefix_append done [op]).trans hpre)
      rw [hstep]
      exact (apply_acyclic_iff (linked_runCircleOps done) hbefore op).2 (hmoves done op hpre)

end

/-- `B` is created under `C` and `A` under `B`; `B` is archived, `C` is moved under `A`, and `B` is
restored. -/
def cyclicOps : List CircleOp :=
  let create id parent : CircleOp :=
    .create ⟨.lit "w", .lit id, .lit "Circle", none, none, parent, none⟩
  [create "C" none, create "B" (some (.lit "C")), create "A" (some (.lit "B")),
    .archive (.lit "w") (.lit "B") 0 none none,
    .update ⟨.lit "w", .lit "C", none, none, none, some (some (.lit "A")), none⟩,
    .restore (.lit "w") (.lit "B")]

/-- The move of `C` under `A` is accepted, `C` is then its own ancestor, and after `B` is restored
the tree shows none of the three circles. -/
theorem runCircleOps_cyclic :
    ¬ CirclesSound (runCircleOps (cyclicOps.take 5)) ∧
      ¬ CirclesSound (runCircleOps cyclicOps) ∧
      ((runCircleOps cyclicOps).activeCircles (.lit "w")).length = 3 ∧
      (buildCircleTree ((runCircleOps cyclicOps).activeCircles (.lit "w"))).roots = [] := by
  refine ⟨fun h => ?_, fun h => ?_, by decide, by decide⟩
  all_goals
    refine h.acyclic (.lit "C") (.head (b := .lit "A") ?_ (.head (b := .lit "B") ?_ (.single ?_)))
  all_goals show CircleTable.parentOf _ _ = _; decide

end Corgtex.Domain
