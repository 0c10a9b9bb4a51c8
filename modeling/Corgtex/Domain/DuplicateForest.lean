import Corgtex.Domain.ActionRequests

/-!
# Marks of concurrent requests

A resolution reads its two actions under their locks, and every resolution that could mark one of
them, or mark another action as its duplicate, needs one of these locks too. So what it has read is
still so when it commits (`Locked`), a commit is the `resolveActionDuplicate` of the rows at that
time (`commit_atomic`), and by `Resolved.forest` no run leaves the forest of depth one.
-/

namespace Corgtex.Domain

open List Option

section
variable {store store' : ActionStore} {pair : ActionPair} {normalize : JsString → JsString}
  {rows rows' : List Action} {marked : Nat} {referenceCounts : List Nat}
  {preview : DuplicatePreview} {id : JsString}

/-! ## Reads -/

/-- An inspection depends on the two actions alone. -/
theorem inspectPair_congr
    (h : ∀ id ∈ [pair.canonicalId, pair.duplicateId],
      rows.find? (·.id = id) = rows'.find? (·.id = id)) :
    inspectPair normalize pair rows marked referenceCounts =
      inspectPair normalize pair rows' marked referenceCounts := by
  rw [inspectPair, inspectPair, h _ (.head _), h _ (.tail _ (.head _))]

theorem find?_rows (hid : id ∈ [pair.canonicalId, pair.duplicateId]) :
    (pair.rows store).find? (·.id = id) =
      (store.items.find? id).filter (·.workspaceId = pair.workspaceId) := by
  cases hfind : store.items.find? id with
  | none =>
    rw [filter_none, find?_eq_none]
    intro action hmem heq
    have hrow := (mem_filter.1 hmem).1
    exact KeyedTable.find?_eq_none.1 hfind (mem_map.2 ⟨action, hrow, of_decide_eq_true heq⟩)
  | some action =>
    obtain ⟨hrow, rfl⟩ := KeyedTable.find?_eq_some.1 hfind
    by_cases hworkspace : action.workspaceId = pair.workspaceId
    · rw [filter_some, if_pos (by simpa using hworkspace)]
      have hmem : action ∈ pair.rows store := by
        refine mem_filter.2 ⟨hrow, ?_⟩
        simp only [hworkspace, decide_true, Bool.true_and, contains_eq_mem, decide_eq_true_eq]
        exact hid
      cases hother : (pair.rows store).find? (·.id = action.id) with
      | none => simpa using find?_eq_none.1 hother action hmem
      | some other =>
        have hfound := mem_of_find?_eq_some hother
        have hsame : other.id = action.id := of_decide_eq_true (find?_some hother :)
        have hkey := store.items.find?_key (mem_filter.1 hfound).1
        rw [hsame, hfind] at hkey
        rw [hkey]
    · rw [filter_some, if_neg (by simpa using hworkspace), find?_eq_none]
      intro other hmem heq
      obtain ⟨hother, htest⟩ := mem_filter.1 hmem
      have hkey := store.items.find?_key hother
      rw [of_decide_eq_true heq, hfind] at hkey
      obtain rfl := some.inj hkey
      simp only [Bool.and_eq_true, decide_eq_true_eq] at htest
      exact hworkspace htest.1

/-- No action points to the second one of a pair. -/
theorem marked_eq_zero_iff : pair.marked store = 0 ↔
    ∀ id, markOf store id ≠ some (some pair.duplicateId, pair.workspaceId) := by
  rw [marked_eq_zero]
  constructor
  · intro h id hmark
    obtain ⟨action, haction, he⟩ := map_eq_some_iff.1 hmark
    obtain ⟨hmark, hworkspace⟩ := Prod.mk.inj he
    exact h action (KeyedTable.find?_eq_some.1 haction).1 hworkspace hmark
  · intro h action hrow hworkspace hmark
    refine h action.id ?_
    rw [markOf_of_find (store.items.find?_key hrow), hmark, hworkspace]

end

/-! ## What a resolution holds and has read -/

/-- What is known of a resolution while it runs: it holds the locks of its actions when it has read
them, and what it has read is what is there. -/
structure Resolution.Current (resolution : Resolution) (store : ActionStore) : Prop where
  required : requireDuplicateResolution resolution.context resolution.params = .ok ()
  held : resolution.held <+: resolution.params.locks
  rows : ∀ rows, resolution.rows = some rows → resolution.held = resolution.params.locks ∧
    ∀ id ∈ [resolution.params.canonicalId, resolution.params.duplicateId],
      rows.find? (·.id = id) = (resolution.params.toPair.rows store).find? (·.id = id)
  marked : resolution.marked = some 0 → resolution.held = resolution.params.locks ∧
    resolution.params.toPair.marked store = 0

/-- Locks are held by one resolution each, and the resolutions are current. -/
structure Locked (state : ActionState) : Prop where
  exclusive : ∀ i j resolution other id, state.resolutions i = some resolution →
    state.resolutions j = some other → id ∈ resolution.held → id ∈ other.held → i = j
  current : ∀ i resolution, state.resolutions i = some resolution → resolution.Current state.store

/-- The invariant of the marks. -/
structure MarksSound (state : ActionState) : Prop where
  forest : DuplicateForest state.store
  no_empty_id : markOf state.store [] = none
  locked : Locked state

section
variable {sha256 : Sha256} {state state' : ActionState} {store' : ActionStore}
  {resolution : Resolution} {i : Nat} {id uuid : JsString}

variable {params : ResolveActionDuplicateParams}

theorem mem_locks :
    id ∈ params.locks ↔ id ∈ [params.canonicalId, params.duplicateId] := JsArray.mem_sortBy

/-- A resolution stays current while the rows that it has locked, and the number of actions that
point to its duplicate if that is none, stay as they are. -/
theorem Resolution.Current.of_frame {store : ActionStore} (h : resolution.Current store)
    (hrows : ∀ id ∈ resolution.held, store'.items.find? id = store.items.find? id)
    (hmarked : resolution.held = resolution.params.locks →
      resolution.params.toPair.marked store = 0 → resolution.params.toPair.marked store' = 0) :
    resolution.Current store' := by
  refine ⟨h.required, h.held, fun rows hread => ?_, fun hread => ?_⟩
  · obtain ⟨hheld, hsame⟩ := h.rows rows hread
    refine ⟨hheld, fun id hid => (hsame id hid).trans ?_⟩
    have hlocked : id ∈ resolution.held := hheld ▸ mem_locks.2 hid
    exact (find?_rows hid).trans ((congrArg _ (hrows id hlocked).symm).trans (find?_rows hid).symm)
  · obtain ⟨hheld, hzero⟩ := h.marked hread
    exact ⟨hheld, hmarked hheld hzero⟩

variable {sources : ActionSourceTable} {creations : Nat → Option Creation}
  {answers : List ActionAnswer}

theorem Locked.of_keeps (h : Locked state) (hkeeps : KeepsMarks uuid state.store store')
    (hlocked : state.KeepsLocked store') :
    Locked ⟨store', sources, state.resolutions, creations, answers⟩ := by
  refine ⟨h.exclusive, fun i resolution hresolution => ?_⟩
  refine (h.current i resolution hresolution).of_frame (hlocked i resolution hresolution) ?_
  intro _ hzero
  rw [marked_eq_zero_iff] at hzero ⊢
  exact fun id hmark => hzero id (hkeeps.marked hmark)

theorem MarksSound.of_keeps (h : MarksSound state) (hkeeps : KeepsMarks uuid state.store store')
    (huuid : uuid ≠ []) (hlocked : state.KeepsLocked store') :
    MarksSound ⟨store', sources, state.resolutions, creations, answers⟩ := by
  refine ⟨hkeeps.forest h.forest, ?_, h.locked.of_keeps hkeeps hlocked⟩
  rcases hkeeps [] with hsame | ⟨hid, _⟩
  · exact hsame.trans h.no_empty_id
  · exact absurd hid.symm huuid

/-- A resolution is replaced by one that holds no more, or ends. -/
theorem Locked.setResolution (h : Locked state) {next : Option Resolution}
    (hnext : ∀ resolution, next = some resolution → resolution.Current state.store ∧
      ∀ id ∈ resolution.held, ∀ j other, state.resolutions j = some other → id ∈ other.held →
        j = i) : Locked (state.setResolution i next) := by
  have hcases : ∀ j other, (state.setResolution i next).resolutions j = some other →
      j = i ∧ next = some other ∨ j ≠ i ∧ state.resolutions j = some other := by
    intro j other hother
    simp only [ActionState.setResolution, Function.update_apply] at hother
    split at hother
    · next hji => exact .inl ⟨hji, hother⟩
    · next hji => exact .inr ⟨hji, hother⟩
  refine ⟨fun j k resolution other id hj hk hid hid' => ?_, fun j other hj => ?_⟩
  · rcases hcases j resolution hj with ⟨hji, hnew⟩ | ⟨_, hj⟩
    · rcases hcases k other hk with ⟨hki, _⟩ | ⟨_, hk⟩
      · rw [hji, hki]
      · exact hji.trans ((hnext resolution hnew).2 id hid k other hk hid').symm
    · rcases hcases k other hk with ⟨hki, hnew⟩ | ⟨_, hk⟩
      · exact ((hnext other hnew).2 id hid' j resolution hj hid).trans hki.symm
      · exact h.exclusive j k resolution other id hj hk hid hid'
  · rcases hcases j other hj with ⟨_, hj⟩ | ⟨_, hj⟩
    · exact (hnext other hj).1
    · exact h.current j other hj

theorem Locked.endResolution (h : Locked state) : Locked (state.setResolution i none) :=
  h.setResolution fun _ he => by cases he

theorem Locked.setResolution_held (h : Locked state) {next : Resolution}
    (hresolution : state.resolutions i = some resolution) (hheld : next.held = resolution.held)
    (hcurrent : next.Current state.store) : Locked (state.setResolution i (some next)) := by
  refine h.setResolution fun resolution' he => ?_
  obtain rfl := some.inj he
  refine ⟨hcurrent, fun id hid j other hj hid' => ?_⟩
  exact h.exclusive j i other resolution id hj hresolution hid' (hheld ▸ hid)

variable {store : ActionStore} {context : WorkItemContext}

section
variable {rows : List Action} {marked : Nat} {referenceCounts : List Nat}

theorem mergeActions_marked {normalize : JsString → JsString} {preview : DuplicatePreview}
    (hpreview : inspectPair normalize params.toPair rows marked referenceCounts = .ok preview)
    (h : mergeActions store context params preview = .ok store') : marked = 0 := by
  obtain ⟨_, _, _, heligible⟩ := inspectPair_ok hpreview
  obtain ⟨_, h⟩ := invariant_bind_ok.1 h
  obtain ⟨hmergeable, _⟩ := invariant_bind_ok.1 h
  exact (heligible.1 hmergeable).not_canonical

/-- **A commit** of a current resolution is `resolveActionDuplicate` on the rows at that time. -/
theorem Resolution.Current.commit_atomic {preview : DuplicatePreview}
    (h : resolution.Current store) (hrows : resolution.rows = some rows)
    (hmarked : resolution.marked = some marked)
    (hpreview : inspectPair resolution.context.normalizeDuplicateGuardText resolution.params.toPair
      rows marked referenceCounts = .ok preview)
    (hmerge : mergeActions store resolution.context resolution.params preview = .ok store') :
    ∃ pair, resolveActionDuplicate store resolution.context resolution.params pair
      = .ok store' := by
  obtain rfl := mergeActions_marked hpreview hmerge
  obtain ⟨_, hzero⟩ := h.marked hmarked
  obtain ⟨_, hsame⟩ := h.rows rows hrows
  rw [inspectPair_congr hsame, ← hzero] at hpreview
  exact mergeActions_atomic h.required hpreview hmerge

end

/-- The other resolutions stay current when one commits. -/
theorem Locked.of_resolved (h : Locked state)
    (hresolution : state.resolutions i = some resolution)
    (hheld : resolution.held = resolution.params.locks)
    (hresolved : Resolved resolution.params state.store store') :
    Locked { state.setResolution i none with store := store', sources } := by
  have hended := h.endResolution (i := i)
  refine ⟨hended.exclusive, fun j other hother => ?_⟩
  have hrunning : j ≠ i ∧ state.resolutions j = some other := by
    simp only [ActionState.setResolution, Function.update_apply] at hother
    split at hother
    · cases hother
    · next hji => exact ⟨hji, hother⟩
  obtain ⟨hji, hj⟩ := hrunning
  have hfree : ∀ id ∈ other.held, id ∉ [resolution.params.canonicalId,
      resolution.params.duplicateId] := fun id hid hmem =>
    hji (h.exclusive j i other resolution id hj hresolution hid (hheld ▸ mem_locks.2 hmem))
  refine (h.current j other hj).of_frame (fun id hid => ?_) fun hall hzero => ?_
  · have hid' := hfree id hid
    exact hresolved.frame id (fun he => hid' (he ▸ .head _)) fun he =>
      hid' (he ▸ .tail _ (.head _))
  · rw [marked_eq_zero_iff] at hzero ⊢
    intro id hmark
    rw [hresolved.find] at hmark
    split at hmark
    · -- the new mark points to an action that the other resolution has locked
      have hsame := some.inj (Prod.mk.inj (some.inj hmark)).1
      have hlocked : resolution.params.canonicalId ∈ other.held := by
        rw [hall, mem_locks, hsame]
        exact .tail _ (.head _)
      exact hfree _ hlocked (.head _)
    · exact hzero id hmark

theorem fulfilAction_keeps {params : SourcedActionParams}
    {decision : ActionDecision} {actionId : JsString}
    (h : fulfilAction store context params decision = .ok (store', actionId)) :
    KeepsMarks context.uuid store store' := by
  cases decision with
  | create =>
    obtain ⟨created, hcreated, h⟩ := bind_ok.1 h
    obtain ⟨rfl, rfl⟩ := Prod.mk.inj (Except.ok.inj h)
    obtain ⟨row, hrow⟩ := createAction_created hcreated
    exact hrow.keeps
  | useExisting targetId =>
    obtain ⟨_, _, h⟩ := bind_ok.1 h
    obtain ⟨rfl, rfl⟩ := Prod.mk.inj (Except.ok.inj h)
    exact .refl _
  | updateExisting targetId =>
    obtain ⟨updated, hupdated, h⟩ := bind_ok.1 h
    obtain ⟨rfl, rfl⟩ := Prod.mk.inj (Except.ok.inj h)
    exact applyActionDuplicateUpdate_keeps hupdated

/-- What a step of a creation leaves alone. -/
theorem MarksSound.of_same (h : MarksSound state) (hstore : state'.store = state.store)
    (hresolutions : state'.resolutions = state.resolutions) : MarksSound state' := by
  refine ⟨hstore ▸ h.forest, hstore ▸ h.no_empty_id, ?_, ?_⟩
  · rw [hresolutions]
    exact h.locked.exclusive
  · rw [hresolutions, hstore]
    exact h.locked.current

/-- **One step** keeps the invariant of the marks. -/
theorem MarksSound.step (h : MarksSound state) (hstep : ActionStepTo sha256 state state') :
    MarksSound state' := by
  cases hstep with
  | transaction step store' hother huuid hok hlocked =>
    exact h.of_keeps (keeps_marks hother hok) huuid hlocked
  | beginResolution i context params hnone hrequired =>
    refine ⟨h.forest, h.no_empty_id, h.locked.setResolution fun resolution he => ?_⟩
    obtain rfl := some.inj he
    exact ⟨⟨hrequired, nil_prefix, by simp, by simp⟩, by simp⟩
  | lockAction i resolution id hresolution hnext hfree hshared =>
    refine ⟨h.forest, h.no_empty_id, h.locked.setResolution fun next he => ?_⟩
    obtain rfl := some.inj he
    have hcurrent := h.locked.current i resolution hresolution
    have hmore : resolution.held ≠ resolution.params.locks := by
      intro hall
      rw [hall, getElem?_eq_none le_rfl] at hnext
      cases hnext
    refine ⟨⟨hcurrent.required, ?_, fun rows hread => ?_, fun hread => ?_⟩, ?_⟩
    · obtain ⟨rest, hrest⟩ := hcurrent.held
      rw [← hrest, getElem?_append_right le_rfl, Nat.sub_self] at hnext
      obtain ⟨rest, rfl⟩ : ∃ others, rest = id :: others := by
        cases rest with
        | nil => cases hnext
        | cons first others => exact ⟨others, by rw [some.inj hnext]⟩
      exact ⟨rest, by rw [← hrest, append_assoc, singleton_append]⟩
    · exact absurd (hcurrent.rows rows hread).1 hmore
    · exact absurd (hcurrent.marked hread).1 hmore
    · intro other hother j running hrunning hheld
      rcases mem_append.1 hother with hother | hother
      · exact h.locked.exclusive j i running resolution other hrunning hresolution hheld hother
      · obtain rfl := mem_singleton.1 hother
        exact hfree j running hrunning hheld
  | readPair i resolution hresolution hheld hnone =>
    refine ⟨h.forest, h.no_empty_id, h.locked.setResolution_held hresolution rfl ?_⟩
    have hcurrent := h.locked.current i resolution hresolution
    refine ⟨hcurrent.required, hcurrent.held, fun rows hread => ⟨hheld, fun id _ => ?_⟩,
      hcurrent.marked⟩
    rw [← some.inj hread]
  | countMarked i resolution rows hresolution hrows hnone =>
    refine ⟨h.forest, h.no_empty_id, h.locked.setResolution_held hresolution rfl ?_⟩
    have hcurrent := h.locked.current i resolution hresolution
    exact ⟨hcurrent.required, hcurrent.held, hcurrent.rows, fun hread =>
      ⟨(hcurrent.rows rows hrows).1, some.inj hread⟩⟩
  | commitResolution i resolution rows marked counts preview store' hresolution hrows hmarked
      hpreview hmerge =>
    have hcurrent := h.locked.current i resolution hresolution
    obtain ⟨pair, hresolve⟩ := hcurrent.commit_atomic hrows hmarked hpreview hmerge
    have hresolved := resolveActionDuplicate_marks hresolve
    refine ⟨hresolved.forest h.forest h.no_empty_id, ?_,
      h.locked.of_resolved hresolution (hcurrent.rows rows hrows).1 hresolved⟩
    obtain ⟨_, hduplicate, _⟩ := hresolved.duplicate
    show markOf store' [] = none
    rw [hresolved.find, if_neg, h.no_empty_id]
    intro he
    rw [← he, h.no_empty_id] at hduplicate
    cases hduplicate
  | abortResolution i => exact ⟨h.forest, h.no_empty_id, h.locked.endResolution⟩
  | commitCreation i creation decision store' actionId hnew hcreation hphase huuid hok hlocked =>
    exact h.of_keeps (fulfilAction_keeps hok) huuid hlocked
  | _ => exact h.of_same rfl rfl

/-- **Every run** keeps the invariant of the marks. -/
theorem MarksSound.run (h : MarksSound state) (hrun : state.Reachable sha256 state') :
    MarksSound state' := by
  induction hrun with
  | refl => exact h
  | tail _ hstep ih => exact ih.step hstep

theorem MarksSound.initial (hforest : DuplicateForest store) (hempty : markOf store [] = none) :
    MarksSound (.initial store) := by
  refine ⟨hforest, hempty, fun i _ resolution _ _ h => ?_, fun i resolution h => ?_⟩
  · exact absurd h (some_ne_none resolution).symm
  · exact absurd h (some_ne_none resolution).symm

/-- The action that a marked one points to. -/
theorem DuplicateForest.canonical (h : DuplicateForest store) {action : Action}
    {canonicalId : JsString} (hfind : store.items.find? id = some action)
    (hmark : action.duplicateOfActionId = some canonicalId) :
    ∃ canonical, store.items.find? canonicalId = some canonical ∧
      canonical.duplicateOfActionId = none ∧ canonical.workspaceId = action.workspaceId := by
  have hroot := h id canonicalId action.workspaceId (by rw [markOf_of_find hfind, hmark])
  obtain ⟨canonical, hcanonical, he⟩ := map_eq_some_iff.1 hroot
  exact ⟨canonical, hcanonical, Prod.mk.inj he⟩

/-- **Duplicates form a forest of depth one** in every state that requests reach from rows where
they do: a marked action points to one that is not marked, no action is both a canonical one and a
duplicate, and the mark of an action that a source was claimed for leads to one that is not
marked. -/
theorem duplicateOfActionId_forest {store : ActionStore} (hforest : DuplicateForest store)
    (hempty : markOf store [] = none) (hrun : (ActionState.initial store).Reachable sha256 state) :
    (∀ action ∈ state.store.items.rows, ∀ canonicalId,
      action.duplicateOfActionId = some canonicalId →
        ∃ canonical, state.store.items.find? canonicalId = some canonical ∧
          canonical.duplicateOfActionId = none ∧ canonical.workspaceId = action.workspaceId) ∧
    (∀ action ∈ state.store.items.rows, ∀ duplicate ∈ state.store.items.rows,
      duplicate.duplicateOfActionId = some action.id → action.duplicateOfActionId = none) ∧
    ∀ claimed ∈ state.sources.rows, ∀ action canonicalId,
      state.store.items.find? claimed.actionId = some action →
      action.duplicateOfActionId = some canonicalId →
        ∃ canonical, state.store.items.find? canonicalId = some canonical ∧
          canonical.duplicateOfActionId = none := by
  have hsound := (MarksSound.initial hforest hempty).run hrun
  refine ⟨fun action hrow canonicalId hmark => ?_, fun action hrow duplicate hrow' hmark => ?_,
    fun claimed _ action canonicalId hfind hmark => ?_⟩
  · exact hsound.forest.canonical (state.store.items.find?_key hrow) hmark
  · obtain ⟨canonical, hfind, hnone, _⟩ :=
      hsound.forest.canonical (state.store.items.find?_key hrow') hmark
    rw [state.store.items.find?_key hrow] at hfind
    exact some.inj hfind ▸ hnone
  · obtain ⟨canonical, hcanonical, hnone, _⟩ := hsound.forest.canonical hfind hmark
    exact ⟨canonical, hcanonical, hnone⟩

end

/-! ## Two actions -/

/-- A digest that keeps its text. -/
def transparentSha256 : Sha256 where
  hex text := 0x30 :: text
  injective _ _ h := (List.cons.inj h).2
  ne_nil _ := List.cons_ne_nil _ _

/-- An administrator. -/
def reviewerContext : WorkItemContext where
  actor := .user (.lit "reviewer") (.lit "reviewer@example.com") none
  membership := some ⟨.lit "member", .lit "w", .lit "reviewer", .admin, true⟩
  now := 1000
  readable _ := true
  activeMember _ := true
  activeHuman _ := true
  visibleProposal _ := false
  authorUserId := .lit "reviewer"
  uuid := .lit "c"
  normalizeDuplicateGuardText text := text

/-- An action of the example. -/
def openAction (id : JsString) : Action where
  title := .lit "Call back"
  bodyMd := none
  priority := 0
  circleId := none
  assigneeMemberId := some (.lit "member")
  dueAt := none
  proposalId := none
  id
  workspaceId := .lit "w"
  authorUserId := .lit "reviewer"
  status := .opened
  version := 1
  completedVia := none
  duplicateOfActionId := none
  isPrivate := false
  publishedAt := some 10
  archivedAt := none
  archivedByUserId := none
  archiveReason := none

/-- Two actions with one text. -/
def twoActions : ActionStore where
  items := ⟨[openAction (.lit "a"), openAction (.lit "b")], by decide⟩
  versions := .empty
  reads := []

/-- The request to resolve the second one as a duplicate of the first. -/
def mergeTwo : ResolveActionDuplicateParams where
  workspaceId := .lit "w"
  canonicalId := .lit "a"
  duplicateId := .lit "b"
  confirmDuplicateId := .lit "b"
  expectedCanonicalVersion := 1
  expectedDuplicateVersion := 1

/-- What its transaction writes. -/
def mergedTwo : Except AppError ActionStore := do
  let preview ← inspectPair reviewerContext.normalizeDuplicateGuardText mergeTwo.toPair
    (mergeTwo.toPair.rows twoActions) (mergeTwo.toPair.marked twoActions) []
  mergeActions twoActions reviewerContext mergeTwo preview

theorem markOf_mergedTwo : mergedTwo.map (markOf · (.lit "b")) =
    .ok (some (some (.lit "a"), .lit "w")) := by decide +kernel

theorem duplicateForest_twoActions : DuplicateForest twoActions := by
  intro id canonicalId workspaceId hmark
  obtain ⟨action, haction, he⟩ := map_eq_some_iff.1 hmark
  have hrow := (KeyedTable.find?_eq_some.1 haction).1
  simp only [twoActions, mem_cons, not_mem_nil, or_false] at hrow
  rcases hrow with rfl | rfl
  · cases he
  · cases he

/-- A run that resolves one of them. -/
theorem duplicateOfActionId_forest_merged :
    ∃ state, (ActionState.initial twoActions).Reachable transparentSha256 state ∧
      markOf state.store (.lit "b") = some (some (.lit "a"), .lit "w") ∧
      ∀ action ∈ state.store.items.rows, ∀ canonicalId,
        action.duplicateOfActionId = some canonicalId →
          ∃ canonical, state.store.items.find? canonicalId = some canonical ∧
            canonical.duplicateOfActionId = none ∧ canonical.workspaceId = action.workspaceId := by
  have hmark := markOf_mergedTwo
  cases hmerged : mergedTwo with
  | error e => rw [hmerged] at hmark; cases hmark
  | ok store' =>
    rw [hmerged] at hmark
    obtain ⟨preview, hpreview, hmerge⟩ := bind_ok.1 hmerged
    have hfirst : ∀ next j other, ((ActionState.initial twoActions).setResolution 0
        next).resolutions j = some other → j = 0 := by
      intro next j other hother
      by_contra hne
      simp [ActionState.setResolution, ActionState.initial, hne] at hother
    have hsecond : ∀ first next j other, (((ActionState.initial twoActions).setResolution 0
        first).setResolution 0 next).resolutions j = some other → j = 0 := by
      intro first next j other hother
      by_contra hne
      simp [ActionState.setResolution, ActionState.initial, hne] at hother
    have hnone : ∀ (j : Nat) (creation : Creation) (id : JsString),
        (none : Option Creation) = some creation → creation.shared ≠ some id := by
      intro j creation id hcreation
      cases hcreation
    have hrun : (ActionState.initial twoActions).Reachable transparentSha256 _ :=
      ((((((Relation.ReflTransGen.refl.tail
        (.beginResolution 0 reviewerContext mergeTwo rfl rfl)).tail
        (.lockAction 0 _ (.lit "a") rfl (by decide +kernel)
          (fun j other h _ => hfirst _ j other h) fun j creation => hnone j creation _)).tail
        (.lockAction 0 _ (.lit "b") rfl (by decide +kernel)
          (fun j other h _ => hsecond _ _ j other h) fun j creation => hnone j creation _)).tail
        (.readPair 0 _ rfl (by decide +kernel) rfl)).tail
        (.countMarked 0 _ _ rfl rfl rfl)).tail
        (.commitResolution 0 _ _ _ [] preview store' rfl rfl rfl hpreview hmerge))
    exact ⟨_, hrun, Except.ok.inj hmark,
      (duplicateOfActionId_forest duplicateForest_twoActions (by decide +kernel) hrun).1⟩

end Corgtex.Domain
