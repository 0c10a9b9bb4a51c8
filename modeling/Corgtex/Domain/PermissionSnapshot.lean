import Corgtex.Domain.PermissionEpochs

/-!
# Collection under a permission snapshot

`source-permission-epochs.ts`: `collectWorkItemPermissionSnapshot` runs a
collection in a read-only snapshot. A capture of epochs that finds a key without one throws the keys
that are missing; they are initialized outside the snapshot, and the collection runs again. The
rounds end on every behaviour of the collection, of the database and of the initialization
(`collectWorkItemPermissionSnapshot_sound`). What is returned is the value of one round, in which no
key was missing if the collection lets the errors of its captures through.
-/

namespace Corgtex.Domain.PermissionSnapshot

open JsArray JsString List

/-! ## One round -/

/-- `MissingCollectionEpochs` (line 22). It is made by a capture only. -/
structure MissingCollectionEpochs where
  workspaceId : JsString
  identities : List PermissionEpochIdentity
  ne_nil : identities ≠ []

inductive Thrown
  | missing (error : MissingCollectionEpochs)
  | other (error : AppError)

/-- A collected function: it returns, throws, or captures epochs and goes on with the outcome. -/
inductive Collection (α : Type)
  | result (value : α)
  | throw (error : Thrown)
  | capture (identities : List PermissionEpochIdentity)
      (next : Except Thrown (List PermissionEpochEntry) → Collection α)

/-- The epochs of a workspace in a snapshot. -/
abbrev Snapshot := PermissionEpochIdentity → Option JsString

/-- `capturePermissionEpochs` (line 285) in a snapshot of the workspace. -/
def capturePermissionEpochs (workspaceId : JsString) (snapshot : Snapshot)
    (identities : List PermissionEpochIdentity) : Except Thrown (List PermissionEpochEntry) :=
  let sorted := sortBy (fun a b => JsString.compare (epochKey a) (epochKey b)) (distinct identities)
  if sorted ≠ [] ∧ sorted.length ≤ MAX_EPOCH_IDENTITIES then
    if h : sorted.filter (fun identity => (snapshot identity).isNone) = [] then
      .ok (sorted.filterMap fun identity => (snapshot identity).map fun epoch => ⟨identity, epoch⟩)
    else .error (.missing ⟨workspaceId, _, h⟩)
  else
    .error (.other ⟨409, "PERMISSION_PROOF_LIMIT",
      "Source permission proof requires a bounded rebuild."⟩)

section
variable {α : Type} (workspaceId : JsString) (snapshot : Snapshot)

/-- The outcome of a collection in a snapshot. -/
def Collection.run : Collection α → Except Thrown α
  | result value => .ok value
  | throw error => .error error
  | capture identities next => (next (capturePermissionEpochs workspaceId snapshot identities)).run

/-- The collection asks for a key that has no epoch in the snapshot. -/
def Collection.RequestsUnknown : Collection α → Prop
  | result _ => False
  | throw _ => False
  | capture identities next => (∃ identity ∈ identities, snapshot identity = none) ∨
      (next (capturePermissionEpochs workspaceId snapshot identities)).RequestsUnknown

def Collection.LetsThrough : Collection α → Prop
  | result _ => True
  | throw _ => True
  | capture _ next => (∀ error, next (.error error) = .throw error) ∧
      ∀ entries, (next (.ok entries)).LetsThrough

end

/-- What each round meets: the collection, the snapshot, and the transaction that seeds
the missing keys. -/
structure Environment (α : Type) where
  read : Nat → Collection α
  snapshot : Nat → Snapshot
  seed : Nat → Except AppError Unit

/-- The variables of the loop, and the number of the round. -/
structure Progress where
  round : Nat
  initialized : List JsString
  repeatedMissing : Nat

/-- `initialized.add(key)`. -/
def add (initialized : List JsString) (key : JsString) : List JsString :=
  if key ∈ initialized then initialized else initialized ++ [key]

section
variable {α : Type} (env : Environment α) (workspaceId : JsString)

/-- One round of the loop (line 42): it ends the loop, or goes on. -/
def Progress.next (p : Progress) : Except Thrown α ⊕ Progress :=
  match (env.read p.round).run workspaceId (env.snapshot p.round) with
  | .error (.missing error) =>
    let keys := error.identities.map epochKey
    let repeatedMissing :=
      if keys.any (· ∈ p.initialized) then p.repeatedMissing + 1 else p.repeatedMissing
    let fresh := keys.filter (· ∉ p.initialized)
    let seeded := do
      invariant (error.workspaceId = workspaceId && repeatedMissing < 3 &&
          p.initialized.length + fresh.length ≤ MAX_EPOCH_IDENTITIES) 409 "SOURCE_CHANGED"
        "Collection permission initialization exceeded its bounded progress budget; retry."
      env.seed p.round
    match seeded with
    | .ok _ => .inr ⟨p.round + 1, keys.foldl add p.initialized, repeatedMissing⟩
    | .error error => .inl (.error (.other error))
  | outcome => .inl outcome

/-- The loop, for at most so many rounds. -/
def collectFrom : Nat → Progress → Option (Except Thrown α)
  | 0, _ => none
  | rounds + 1, p =>
    match p.next env workspaceId with
    | .inl outcome => some outcome
    | .inr p' => collectFrom rounds p'

/-- `collectWorkItemPermissionSnapshot` (line 39). -/
def collectWorkItemPermissionSnapshot (rounds : Nat) : Option (Except Thrown α) :=
  collectFrom env workspaceId rounds ⟨0, [], 0⟩

/-- The loop comes from one round to the next. -/
def Retries (p p' : Progress) : Prop := p.next env workspaceId = .inr p'

end

/-! ## Progress -/

/-- The bounds that every round keeps. -/
structure Progress.Bounded (p : Progress) : Prop where
  length_le : p.initialized.length ≤ MAX_EPOCH_IDENTITIES
  repeated_le : p.repeatedMissing ≤ 2

variable {α : Type} {env : Environment α} {workspaceId : JsString} {p p' : Progress}
  {initialized keys : List JsString} {key : JsString}

theorem add_grows : initialized <+: add initialized key ∧ key ∈ add initialized key ∧
    (add initialized key).length ≤ initialized.length + if key ∈ initialized then 0 else 1 := by
  unfold add
  split
  · next h => exact ⟨prefix_rfl, h, le_rfl⟩
  · exact ⟨prefix_append .., by simp, by simp⟩

theorem foldl_add_grows : initialized <+: keys.foldl add initialized ∧
    (∀ key ∈ keys, key ∈ keys.foldl add initialized) ∧ (keys.foldl add initialized).length ≤
      initialized.length + (keys.filter (· ∉ initialized)).length := by
  induction keys generalizing initialized with
  | nil => exact ⟨prefix_rfl, nofun, le_rfl⟩
  | cons key keys ih =>
    obtain ⟨hgrow, hkey, hlength⟩ := @add_grows initialized key
    obtain ⟨hrest, hkeys, hle⟩ := @ih (add initialized key)
    have hfilter : (keys.filter (· ∉ add initialized key)).length ≤
        (keys.filter (· ∉ initialized)).length := by
      refine (monotone_filter_right keys fun other h => ?_).length_le
      simp only [decide_eq_true_eq] at h ⊢
      exact mt (fun hmem => hgrow.subset hmem) h
    refine ⟨hgrow.trans hrest, forall_mem_cons.2 ⟨hrest.subset hkey, hkeys⟩, ?_⟩
    rw [foldl_cons, filter_cons]
    by_cases h : key ∈ initialized <;> simp only [h, not_true, not_false_eq_true, decide_true,
      decide_false, if_true, if_false, Bool.false_eq_true, length_cons] at hlength ⊢ <;> omega

/-- **A retry** makes a key known, or uses up one of the repeats. -/
theorem Retries.progress (h : Retries env workspaceId p p') :
    p'.Bounded ∧ p.initialized <+: p'.initialized ∧ p.repeatedMissing ≤ p'.repeatedMissing ∧
      (p.initialized.length < p'.initialized.length ∨
        p'.repeatedMissing = p.repeatedMissing + 1) := by
  simp only [Retries, Progress.next] at h
  split at h
  · next error _ =>
    split at h
    · next hseeded =>
      cases h
      obtain ⟨hinvariant, _⟩ := invariant_bind_ok.1 hseeded
      simp only [Bool.and_eq_true, decide_eq_true_eq] at hinvariant
      obtain ⟨⟨_, hrepeated⟩, hmax⟩ := hinvariant
      obtain ⟨hpre, hkeys, hlength⟩ :=
        @foldl_add_grows p.initialized (error.identities.map epochKey)
      refine ⟨⟨hlength.trans hmax, Nat.le_of_lt_succ hrepeated⟩, hpre, ?_, ?_⟩
      · dsimp only
        split <;> omega
      · by_cases hknown : (error.identities.map epochKey).any (· ∈ p.initialized)
        · exact .inr (if_pos hknown)
        · left
          obtain ⟨key, hkey⟩ := exists_mem_of_ne_nil _ (mt map_eq_nil_iff.1 error.ne_nil)
          have hnew : key ∉ p.initialized := fun hold =>
            hknown (any_eq_true.2 ⟨key, hkey, decide_eq_true hold⟩)
          refine lt_of_le_of_ne hpre.length_le fun he => hnew ?_
          rw [hpre.eq_of_length he]
          exact hkeys key hkey
    · cases h
  · cases h

/-- The rounds that are left, at most. -/
theorem collectFrom_ne_none {rounds : Nat} (hp : p.Bounded)
    (h : MAX_EPOCH_IDENTITIES - p.initialized.length + (2 - p.repeatedMissing) < rounds) :
    ∃ outcome, collectFrom env workspaceId rounds p = some outcome := by
  induction rounds generalizing p with
  | zero => omega
  | succ rounds ih =>
    rw [collectFrom]
    split
    · exact ⟨_, rfl⟩
    · next p' hnext =>
      obtain ⟨hp', hpre, hle, hprogress⟩ := Retries.progress hnext
      have := hpre.length_le
      have := hp'.length_le
      have := hp'.repeated_le
      exact ih hp' (by omega)

theorem next_value {value : α} (h : p.next env workspaceId = .inl (.ok value)) :
    (env.read p.round).run workspaceId (env.snapshot p.round) = .ok value := by
  simp only [Progress.next] at h
  split at h
  · split at h <;> cases h
  · exact Sum.inl.inj h

theorem collectFrom_value {rounds : Nat} {value : α}
    (h : collectFrom env workspaceId rounds p = some (.ok value)) :
    ∃ round, (env.read round).run workspaceId (env.snapshot round) = .ok value := by
  induction rounds generalizing p with
  | zero => cases h
  | succ rounds ih =>
    rw [collectFrom] at h
    split at h
    · next hnext => exact ⟨p.round, next_value (hnext.trans (congrArg _ (Option.some.inj h)))⟩
    · exact ih h

/-- A collection that returns and catches nothing has found every key. -/
theorem Collection.LetsThrough.known {snapshot : Snapshot} {collection : Collection α} {value : α}
    (h : collection.LetsThrough) (hrun : collection.run workspaceId snapshot = .ok value) :
    ¬ collection.RequestsUnknown workspaceId snapshot := by
  induction collection with
  | result => exact id
  | throw => cases hrun
  | capture identities next ih =>
    rw [run] at hrun
    rintro (⟨identity, hmem, hunknown⟩ | hlater)
    · cases hcapture : capturePermissionEpochs workspaceId snapshot identities with
      | error error =>
        rw [hcapture, h.1 error] at hrun
        cases hrun
      | ok entries =>
        unfold capturePermissionEpochs at hcapture
        dsimp only at hcapture
        split at hcapture
        · split at hcapture
          · next hnone =>
            refine filter_eq_nil_iff.1 hnone identity ?_ (by rw [hunknown]; rfl)
            exact mem_sortBy.2 (mem_distinct.2 hmem)
          · cases hcapture
        · cases hcapture
    · refine ih _ ?_ hrun hlater
      cases hcapture : capturePermissionEpochs workspaceId snapshot identities with
      | error error =>
        rw [h.1 error]
        trivial
      | ok entries => exact h.2 entries

/-- **The collection ends**, within 10,003 rounds. Every retry makes a key known or uses up a
repeat, of which there are two, and no more than 10,000 keys become known. A value that is returned
is that of one round, which asked for no unknown key if its collection catches no error of a
capture. -/
theorem collectWorkItemPermissionSnapshot_sound (env : Environment α) (workspaceId : JsString) :
    (∃ outcome, collectWorkItemPermissionSnapshot env workspaceId (MAX_EPOCH_IDENTITIES + 3) =
      some outcome) ∧
    (∀ p p', Retries env workspaceId p p' → p.initialized <+: p'.initialized ∧
      (p.initialized.length < p'.initialized.length ∨ p'.repeatedMissing = p.repeatedMissing + 1)) ∧
    (∀ p, Relation.ReflTransGen (Retries env workspaceId) ⟨0, [], 0⟩ p →
      p.initialized.length ≤ MAX_EPOCH_IDENTITIES ∧ p.repeatedMissing ≤ 2) ∧
    ∀ rounds value, collectWorkItemPermissionSnapshot env workspaceId rounds = some (.ok value) →
      ∃ round, (env.read round).run workspaceId (env.snapshot round) = .ok value ∧
        ((env.read round).LetsThrough →
          ¬ (env.read round).RequestsUnknown workspaceId (env.snapshot round)) := by
  have hstart : (⟨0, [], 0⟩ : Progress).Bounded := ⟨Nat.zero_le _, Nat.zero_le _⟩
  refine ⟨collectFrom_ne_none hstart ?_, fun p p' h => ?_, fun p h => ?_, fun rounds value h => ?_⟩
  · simp
  · obtain ⟨_, hpre, _, hprogress⟩ := h.progress
    exact ⟨hpre, hprogress⟩
  · have hp : p.Bounded := by
      rcases Relation.ReflTransGen.cases_tail h with rfl | ⟨_, _, hlast⟩
      · exact hstart
      · exact hlast.progress.1
    exact ⟨hp.length_le, hp.repeated_le⟩
  · obtain ⟨round, hrun⟩ := collectFrom_value h
    exact ⟨round, hrun, fun hlets => hlets.known hrun⟩

/-- A collection that catches the error of its capture returns, though the key was unknown. -/
theorem caught_missing_returns :
    let identity : PermissionEpochIdentity := ⟨lit "Role", lit "r"⟩
    let env : Environment Nat :=
      ⟨fun _ => .capture [identity] fun _ => .result 1, fun _ _ => none, fun _ => .ok ()⟩
    collectWorkItemPermissionSnapshot env (lit "w") 1 = some (.ok 1) ∧
      ∀ round, (env.read round).RequestsUnknown (lit "w") (env.snapshot round) :=
  ⟨rfl, fun _ => .inl ⟨_, .head _, rfl⟩⟩

end Corgtex.Domain.PermissionSnapshot
