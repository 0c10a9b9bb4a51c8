import Mathlib.Algebra.CharZero.Defs
import Mathlib.Data.List.Count
import Mathlib.Data.List.Induction
import Mathlib.Data.List.Nodup

/-!
# Logs of versions

Entities have a current version and a content, and a log holds a row for every version that an
entity has left. A write may leave all that alone, create an entity with version 1, or record an
entity: add the row for its version, move it on to the next version and change its content.
`Writes` follows a sequence of writes with the entities that it records. `VersionedSystem` is a
system whose steps are such sequences, and `HasHistory` is what holds of its runs then.
-/

/-- The current version and content of every entity, and the versions that entities have left. -/
structure VersionLog (ι κ σ : Type*) where
  current : ι → Option (Nat × κ)
  rows : List (ι × Nat × σ)

namespace VersionLog

variable {ι κ σ : Type*} [DecidableEq ι] {log log₁ log' : VersionLog ι κ σ} {ids ids' : List ι}
  {Stores : σ → κ → κ → Prop} {i : ι} {v : Nat} {content : κ}

/-- The versions in the rows of an entity, oldest row first. -/
def versionsOf (log : VersionLog ι κ σ) (i : ι) : List Nat :=
  (log.rows.filter fun row => row.1 = i).map fun row => row.2.1

/-- An entity has exactly one row for each version below its current one. -/
structure Sound (log : VersionLog ι κ σ) : Prop where
  missing : ∀ i, log.current i = none → log.versionsOf i = []
  versions : ∀ i v content, log.current i = some (v, content) →
    0 < v ∧ log.versionsOf i = List.range' 1 (v - 1)

/-- What a single write does, with the entities that it records. `Stores row old new` says that the
row holds what the change from `old` to `new` overwrites. -/
inductive Write (Stores : σ → κ → κ → Prop) (log log' : VersionLog ι κ σ) : List ι → Prop
  | keep : (∀ i, log'.current i = log.current i) → log'.rows = log.rows → Write Stores log log' []
  | create (i : ι) (content : κ) : log.current i = none →
      (∀ k, log'.current k = if k = i then some (1, content) else log.current k) →
      log'.rows = log.rows → Write Stores log log' []
  | record (i : ι) (v : Nat) (old new : κ) (row : σ) : log.current i = some (v, old) →
      Stores row old new →
      (∀ k, log'.current k = if k = i then some (v + 1, new) else log.current k) →
      log'.rows = log.rows ++ [(i, v, row)] → Write Stores log log' [i]

/-- How often an entity is among the recorded ones. -/
def times (ids : List ι) (i : ι) : Nat := ids.count i

@[simp] theorem times_nil : times [] i = 0 := List.count_nil

@[simp] theorem times_append : times (ids ++ ids') i = times ids i + times ids' i :=
  List.count_append

theorem times_singleton_self : times [i] i = 1 := List.count_singleton_self

theorem times_eq_zero : times ids i = 0 ↔ i ∉ ids := List.count_eq_zero

theorem times_le_one (h : ids.Nodup) : times ids i ≤ 1 := List.nodup_iff_count_le_one.1 h i

inductive Writes (Stores : σ → κ → κ → Prop) :
    VersionLog ι κ σ → List ι → VersionLog ι κ σ → Prop
  | nil {log : VersionLog ι κ σ} : Writes Stores log [] log
  | cons {log log₁ log' : VersionLog ι κ σ} {ids ids' : List ι} : Write Stores log log₁ ids →
      Writes Stores log₁ ids' log' → Writes Stores log (ids ++ ids') log'

theorem Write.writes (h : Write Stores log log' ids) : Writes Stores log ids log' :=
  List.append_nil ids ▸ .cons h .nil

theorem Writes.trans (h : Writes Stores log ids log₁) (h' : Writes Stores log₁ ids' log') :
    Writes Stores log (ids ++ ids') log' := by
  induction h with
  | nil => exact h'
  | cons hwrite _ ih =>
    rw [List.append_assoc]
    exact .cons hwrite (ih h')

/-! ## One row for each version -/

theorem versionsOf_append (row : ι × Nat × σ) (h : log'.rows = log.rows ++ [row]) :
    log'.versionsOf i = if row.1 = i then log.versionsOf i ++ [row.2.1] else log.versionsOf i := by
  unfold versionsOf
  rw [h, List.filter_append, List.map_append]
  split
  · next hi => simp [hi]
  · next hi => simp [hi]

theorem Write.sound (h : Write Stores log log' ids) (hsound : log.Sound) : log'.Sound := by
  cases h with
  | keep hcurrent hrows =>
    have hsame : ∀ i, log'.versionsOf i = log.versionsOf i := fun i => by
      rw [versionsOf, versionsOf, hrows]
    refine ⟨fun i hi => ?_, fun i v content hi => ?_⟩
    · exact hsame i ▸ hsound.missing i (hcurrent i ▸ hi)
    · exact hsame i ▸ hsound.versions i v content (hcurrent i ▸ hi)
  | create a created hnew hcurrent hrows =>
    have hsame : ∀ i, log'.versionsOf i = log.versionsOf i := fun i => by
      rw [versionsOf, versionsOf, hrows]
    refine ⟨fun i hi => ?_, fun i v content hi => ?_⟩
    · rw [hcurrent] at hi
      split at hi
      · cases hi
      · exact hsame i ▸ hsound.missing i hi
    · rw [hcurrent] at hi
      split at hi
      · next ha =>
        obtain ⟨rfl, _⟩ := Prod.mk.inj (Option.some.inj hi)
        exact ⟨Nat.one_pos, hsame i ▸ hsound.missing i (ha ▸ hnew)⟩
      · exact hsame i ▸ hsound.versions i v content hi
  | record a w old new row hfound _ hcurrent hrows =>
    refine ⟨fun i hi => ?_, fun i v content hi => ?_⟩
    · rw [hcurrent] at hi
      split at hi
      · cases hi
      · next ha => rw [versionsOf_append _ hrows, if_neg (Ne.symm ha), hsound.missing i hi]
    · rw [hcurrent] at hi
      split at hi
      · next ha =>
        obtain ⟨rfl, _⟩ := Prod.mk.inj (Option.some.inj hi)
        obtain ⟨hpos, hversions⟩ := hsound.versions a w old hfound
        refine ⟨Nat.succ_pos w, ?_⟩
        rw [versionsOf_append _ hrows, if_pos ha.symm, ha, hversions]
        have hw : w + 1 - 1 = w - 1 + 1 := by omega
        rw [hw, List.range'_concat]
        congr 2
        dsimp only
        omega
      · next ha =>
        rw [versionsOf_append _ hrows, if_neg (Ne.symm ha)]
        exact hsound.versions i v content hi

theorem Writes.sound (h : Writes Stores log ids log') (hsound : log.Sound) : log'.Sound := by
  induction h with
  | nil => exact hsound
  | cons hwrite _ ih => exact ih (hwrite.sound hsound)

/-! ## What happens to one entity -/

theorem Write.rows_subset (h : Write Stores log log' ids) : log.rows ⊆ log'.rows := by
  cases h with
  | keep _ hrows => exact hrows ▸ List.Subset.refl _
  | create _ _ _ _ hrows => exact hrows ▸ List.Subset.refl _
  | record _ _ _ _ _ _ _ _ hrows => exact hrows ▸ List.subset_append_left ..

theorem Writes.rows_subset (h : Writes Stores log ids log') : log.rows ⊆ log'.rows := by
  induction h with
  | nil => exact List.Subset.refl _
  | cons hwrite _ ih => exact List.Subset.trans hwrite.rows_subset ih

/-- A write leaves an entity alone, or records it. -/
theorem Write.current (h : Write Stores log log' ids) (hi : log.current i = some (v, content)) :
    (times ids i = 0 ∧ log'.current i = some (v, content)) ∨
      (times ids i = 1 ∧ ∃ new row, log'.current i = some (v + 1, new) ∧
        (i, v, row) ∈ log'.rows ∧ Stores row content new) := by
  cases h with
  | keep hcurrent => exact .inl ⟨times_nil, hcurrent i ▸ hi⟩
  | create a created hnew hcurrent =>
    have ha : i ≠ a := by
      rintro rfl
      cases hnew.symm.trans hi
    exact .inl ⟨times_nil, by rw [hcurrent, if_neg ha, hi]⟩
  | record a w old new row hfound hstores hcurrent hrows =>
    by_cases ha : i = a
    · subst ha
      obtain ⟨rfl, rfl⟩ := Prod.mk.inj (Option.some.inj (hi.symm.trans hfound))
      exact .inr ⟨times_singleton_self, new, row, by rw [hcurrent, if_pos rfl], by simp [hrows],
        hstores⟩
    · exact .inl ⟨times_eq_zero.2 (by simpa using ha), by rw [hcurrent, if_neg ha, hi]⟩

/-- **What a sequence of writes does to an entity.** Its version grows by the times that it is
recorded, and the first record stores its content. -/
theorem Writes.current (h : Writes Stores log ids log')
    (hi : log.current i = some (v, content)) :
    ∃ new, log'.current i = some (v + times ids i, new) ∧
      (times ids i = 0 → new = content) ∧
      (0 < times ids i → ∃ row next, (i, v, row) ∈ log'.rows ∧ Stores row content next ∧
        (times ids i = 1 → next = new)) := by
  induction h generalizing v content with
  | nil =>
    rw [times_nil]
    exact ⟨content, hi, fun _ => rfl, nofun⟩
  | @cons log log₁ log' ids ids' hwrite hrest ih =>
    rw [times_append]
    rcases hwrite.current hi with ⟨hcount, hi₁⟩ | ⟨hcount, next, row, hi₁, hrow, hstores⟩
    · rw [hcount, Nat.zero_add]
      exact ih hi₁
    · obtain ⟨new, hnew, hsame, _⟩ := ih hi₁
      rw [hcount]
      refine ⟨new, by rw [hnew, Nat.add_assoc], by omega, fun _ =>
        ⟨row, next, hrest.rows_subset hrow, hstores, fun honce => (hsame ?_).symm⟩⟩
      omega

end VersionLog

/-! ## Systems -/

/-- A system of versioned entities, whose steps may ask for the version that they expect. -/
structure VersionedSystem (S A ι κ σ ε : Type*) where
  init : S
  apply : S → A → S
  Succeeds : S → A → Prop
  /-- The step expects the entity at this version. -/
  Expects : S → A → ι → ε → Prop
  log : S → VersionLog ι κ σ
  /-- The row holds what a change of the content overwrites. -/
  Stores : σ → κ → κ → Prop
  /-- The steps that write an entity once at most. -/
  Once : S → A → ι → Prop

namespace VersionedSystem

open VersionLog

variable {S A ι κ σ ε : Type*}

/-- The state after the steps. -/
def run (system : VersionedSystem S A ι κ σ ε) (steps : List A) : S :=
  steps.foldl system.apply system.init

theorem run_append (system : VersionedSystem S A ι κ σ ε) (steps steps' : List A) :
    system.run (steps ++ steps') = steps'.foldl system.apply (system.run steps) :=
  List.foldl_append

variable [DecidableEq ι]

/-- What holds of the version history of a system. -/
structure HasHistory (system : VersionedSystem S A ι κ σ ε) : Prop where
  /-- An entity at version `v` has exactly one row for each version from 1 to `v - 1`. -/
  rows : ∀ steps i v content, (system.log (system.run steps)).current i = some (v, content) →
    0 < v ∧ (system.log (system.run steps)).versionsOf i = List.range' 1 (v - 1)
  /-- A step that changes the content of an entity moves it on to a later version, and stores the
  content under the version that it leaves; a step that writes once moves it on by one. -/
  edits : ∀ steps step i v old v' new,
    (system.log (system.run steps)).current i = some (v, old) →
    (system.log (system.apply (system.run steps) step)).current i = some (v', new) → old ≠ new →
    v < v' ∧ ∃ row next, (i, v, row) ∈ (system.log (system.apply (system.run steps) step)).rows ∧
      system.Stores row old next ∧ (system.Once (system.run steps) step i → v' = v + 1 ∧ next = new)
  /-- Of two steps that expect the same version of an entity and succeed, the first leaves the
  content of the entity alone. -/
  conflicts : ∀ done step between step' i e,
    system.Succeeds (system.run done) step → system.Expects (system.run done) step i e →
    system.Succeeds (system.run (done ++ step :: between)) step' →
    system.Expects (system.run (done ++ step :: between)) step' i e →
    ((system.log (system.apply (system.run done) step)).current i).map Prod.snd =
      ((system.log (system.run done)).current i).map Prod.snd
  /-- A step that fails changes nothing. -/
  rejected : ∀ s step, ¬ system.Succeeds s step → system.apply s step = s

variable {system : VersionedSystem S A ι κ σ ε} [AddMonoidWithOne ε] [CharZero ε]

/-- **A system has a history** if every step from a state with the invariant is a sequence of
writes, records an entity once at most where it should, and meets the versions that it expects. -/
theorem HasHistory.of (Inv : S → Prop) (hinit : Inv system.init)
    (hempty : (system.log system.init).Sound)
    (hstep : ∀ s step, Inv s → Inv (system.apply s step) ∧
      ∃ ids, Writes system.Stores (system.log s) ids (system.log (system.apply s step)) ∧
        ∀ i, system.Once s step i → times ids i ≤ 1)
    (hexpects : ∀ s step i e, system.Succeeds s step → system.Expects s step i e →
      ∃ v content, (system.log s).current i = some (v, content) ∧ e = v)
    (hrejected : ∀ s step, ¬ system.Succeeds s step → system.apply s step = s) :
    system.HasHistory := by
  have hinv : ∀ steps, Inv (system.run steps) ∧ (system.log (system.run steps)).Sound := by
    intro steps
    induction steps using List.reverseRecOn with
    | nil => exact ⟨hinit, hempty⟩
    | append_singleton steps step ih =>
      rw [run_append]
      obtain ⟨hinv, ids, hwrites, _⟩ := hstep _ step ih.1
      exact ⟨hinv, hwrites.sound ih.2⟩
  refine ⟨fun steps => (hinv steps).2.versions, ?_, ?_, hrejected⟩
  · intro steps step i v old v' new hold hnew hne
    obtain ⟨_, ids, hwrites, honce⟩ := hstep _ step (hinv steps).1
    obtain ⟨content, hcontent, hsame, hstored⟩ := hwrites.current hold
    obtain ⟨rfl, rfl⟩ := Prod.mk.inj (Option.some.inj (hcontent.symm.trans hnew))
    have hpos : 0 < times ids i := Nat.pos_of_ne_zero fun hzero => hne (hsame hzero).symm
    obtain ⟨row, next, hrow, hstores, hnext⟩ := hstored hpos
    refine ⟨Nat.lt_add_of_pos_right hpos, row, next, hrow, hstores, fun hstep => ?_⟩
    have hone : times ids i = 1 := Nat.le_antisymm (honce i hstep) hpos
    exact ⟨by rw [hone], hnext hone⟩
  · intro done step between step' i e hsucceeds hexpect hsucceeds' hexpect'
    -- the version is the expected one before the first step and before the second one
    obtain ⟨v, old, hold, hv⟩ := hexpects _ _ _ _ hsucceeds hexpect
    obtain ⟨v', new, hnew, hv'⟩ := hexpects _ _ _ _ hsucceeds' hexpect'
    obtain rfl : v = v' := Nat.cast_injective (hv.symm.trans hv')
    obtain ⟨_, ids, hwrites, _⟩ := hstep _ step (hinv done).1
    obtain ⟨content, hcontent, hsame, _⟩ := hwrites.current hold
    have hlater : ∀ steps, ∃ w content,
        (system.log (system.run (done ++ step :: steps))).current i = some (w, content) ∧
          v + times ids i ≤ w := by
      intro steps
      induction steps using List.reverseRecOn with
      | nil =>
        rw [run_append]
        exact ⟨_, content, hcontent, Nat.le_refl _⟩
      | append_singleton steps step' ih =>
        obtain ⟨w, content, hcurrent, hw⟩ := ih
        rw [← List.cons_append, ← List.append_assoc, run_append]
        obtain ⟨_, ids', hwrites', _⟩ := hstep _ step' (hinv (done ++ step :: steps)).1
        obtain ⟨content', hcontent', _⟩ := hwrites'.current hcurrent
        exact ⟨_, content', hcontent', Nat.le_trans hw (Nat.le_add_right ..)⟩
    obtain ⟨w, latest, hlatest, hw⟩ := hlater between
    obtain ⟨rfl, _⟩ := Prod.mk.inj (Option.some.inj (hlatest.symm.trans hnew))
    have hzero : times ids i = 0 := by omega
    rw [hcontent, hold, hsame hzero]
    rfl

end VersionedSystem
