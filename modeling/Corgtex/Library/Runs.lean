import Mathlib.Data.List.Induction

/-!
# Runs

A run is a fold of steps over a state. An invariant that a step keeps unless it is one of the bad
ones holds all along a run exactly if the run has no bad step where it is taken. A value whose stamp
grows at every change is the same wherever the stamp is (`List.eq_of_stamp_eq`).
-/

section
variable {σ α : Type*} {apply : σ → α → σ} {init : σ} {steps : List α}

/-- **An invariant of runs with a condition on their steps**: it holds all along a run whose steps
meet the condition where they are taken. -/
theorem List.forall_prefix_foldl {I : σ → Prop} {C : σ → α → Prop} (hinit : I init)
    (hstep : ∀ s a, I s → C s a → I (apply s a))
    (hsteps : ∀ done a, done ++ [a] <+: steps → C (done.foldl apply init) a) :
    ∀ done, done <+: steps → I (done.foldl apply init) := by
  intro done
  induction done using List.reverseRecOn with
  | nil => exact fun _ => hinit
  | append_singleton done a ih =>
    intro hpre
    have hbefore := ih ((List.prefix_append done [a]).trans hpre)
    rw [List.foldl_append]
    exact hstep _ a hbefore (hsteps done a hpre)

/-- **The exact condition for an invariant.** `hstep` says for a single step when it keeps the
invariant; the rest is induction on the run. -/
theorem List.forall_prefix_foldl_iff {Good : σ → Prop} {Bad : σ → α → Prop} (hinit : Good init)
    (hstep : ∀ s a, Good s → (Good (apply s a) ↔ ¬ Bad s a)) (steps : List α) :
    (∀ done, done <+: steps → Good (done.foldl apply init)) ↔
      ∀ done a, done ++ [a] <+: steps → ¬ Bad (done.foldl apply init) a := by
  constructor
  · intro hgood done a hpre
    have hbefore := hgood done ((List.prefix_append done [a]).trans hpre)
    have hafter := hgood _ hpre
    rw [List.foldl_append] at hafter
    exact (hstep _ a hbefore).1 hafter
  · exact List.forall_prefix_foldl hinit fun s a hgood hnot => (hstep s a hgood).2 hnot

variable {P : List α → α → Prop}

/-- A run without steps has no step to check. -/
theorem List.forall_steps_nil : ∀ done a, done ++ [a] <+: [] → P done a := by
  simp

/-- The steps of a run, each after those before it, are its first step and those of the rest. -/
theorem List.forall_steps_cons {first : α} :
    (∀ done a, done ++ [a] <+: first :: steps → P done a) ↔
      P [] first ∧ ∀ done a, done ++ [a] <+: steps → P (first :: done) a := by
  constructor
  · intro h
    refine ⟨h [] first (by simp), fun done a hpre => h (first :: done) a ?_⟩
    exact List.cons_prefix_cons.2 ⟨rfl, hpre⟩
  · rintro ⟨hfirst, hrest⟩ done a hpre
    cases done with
    | nil =>
      obtain ⟨rfl, _⟩ := List.cons_prefix_cons.1 hpre
      exact hfirst
    | cons b done =>
      obtain ⟨rfl, hrun⟩ := List.cons_prefix_cons.1 hpre
      exact hrest done a hrun

/-- Whether the steps of a run meet a condition, each where it is taken. -/
def List.checkSteps (apply : σ → α → σ) (check : σ → α → Bool) : σ → List α → Bool
  | _, [] => true
  | s, a :: steps => check s a && List.checkSteps apply check (apply s a) steps

theorem List.checkSteps_eq_true {check : σ → α → Bool} :
    List.checkSteps apply check init steps = true ↔
      ∀ done a, done ++ [a] <+: steps → check (done.foldl apply init) a = true := by
  induction steps generalizing init with
  | nil => simp [List.checkSteps]
  | cons a steps ih =>
    rw [List.checkSteps, Bool.and_eq_true, ih, List.forall_steps_cons]
    rfl

end

/-- An entry of a log that has grown is the last one, with all others before it, or an old one. -/
theorem List.append_singleton_eq_append_cons {α : Type*} {log before after : List α} {a b : α}
    (h : log ++ [a] = before ++ b :: after) :
    (before = log ∧ b = a ∧ after = []) ∨
      ∃ rest, after = rest ++ [a] ∧ log = before ++ b :: rest := by
  rcases List.eq_nil_or_concat after with rfl | ⟨rest, last, rfl⟩
  · obtain ⟨rfl, hlast⟩ := List.append_inj' h rfl
    exact .inl ⟨rfl, (List.singleton_inj.1 hlast).symm, rfl⟩
  · rw [List.concat_eq_append, ← List.cons_append, ← List.append_assoc] at h
    obtain ⟨rfl, hlast⟩ := List.append_inj' h rfl
    exact .inr ⟨rest, by rw [List.concat_eq_append, hlast], rfl⟩

section
variable {σ α β : Type*} {apply : σ → α → σ} {value : σ → β} {stamp : β → Nat}

variable (hstep : ∀ s a, value (apply s a) = value s ∨ stamp (value s) < stamp (value (apply s a)))
include hstep

/-- A stamp that grows at every change of a value never falls. -/
theorem List.stamp_le_foldl (steps : List α) (s : σ) : value (steps.foldl apply s) = value s ∨
      stamp (value s) < stamp (value (steps.foldl apply s)) := by
  induction steps generalizing s with
  | nil => exact .inl rfl
  | cons a steps ih =>
    rw [List.foldl_cons]
    rcases hstep s a with hsame | hgrows
    · rw [← hsame]
      exact ih (apply s a)
    · refine .inr ?_
      rcases ih (apply s a) with hrest | hrest
      · rwa [hrest]
      · exact Nat.lt_trans hgrows hrest

/-- **Equal stamps, equal values**: where a run ends with the stamp that it began with, the value
has not changed in between. -/
theorem List.eq_of_stamp_eq {steps done : List α} {s : σ} (hpre : done <+: steps)
    (hstamp : stamp (value (steps.foldl apply s)) ≤ stamp (value s)) :
    value (done.foldl apply s) = value s := by
  obtain ⟨rest, rfl⟩ := hpre
  rw [List.foldl_append] at hstamp
  rcases List.stamp_le_foldl hstep done s with hsame | hgrows
  · exact hsame
  · rcases List.stamp_le_foldl hstep rest (done.foldl apply s) with hrest | hrest
    · rw [hrest] at hstamp
      omega
    · omega

end
