import Corgtex.Library.ParentForest

/-!
# Registries with merges

Holders have names, and a holder may be merged into another one, which then has its names. A holder
that has been merged has none. `Step.sound` says that no name has two holders and that the merges
stay a forest; `Step.follows` says that a name that somebody has keeps a holder, the one that the
old holder has been merged into.
-/

/-- Who has which names, who has been merged into whom, and who is active. -/
structure Registry (κ ι : Type*) where
  has : ι → κ → Prop
  into : ι → Option ι
  active : ι → Prop

namespace Registry

open Relation ParentForest

variable {κ ι : Type*} {r r₁ r' : Registry κ ι} {i j : ι} {k : κ}

/-- Merges are a forest, its roots have the names, and no name has two holders. -/
structure Sound (r : Registry κ ι) : Prop where
  acyclic : Acyclic r.into
  root : ∀ i k, r.has i k → r.into i = none
  unique : ∀ i j k, r.has i k → r.has j k → i = j

/-- A later registry: merges are not taken back, and a name that somebody had is that of the holder
that it leads to. -/
structure Follows (r r' : Registry κ ι) : Prop where
  up : ∀ i j, Up r.into i j → Up r'.into i j
  has : ∀ i k, r.has i k →
    ∃ j, r'.has j k ∧ ReflTransGen (Up r'.into) i j ∧ (r.active i → r'.active j)

theorem Follows.refl (r : Registry κ ι) : Follows r r :=
  ⟨fun _ _ => id, fun i _ h => ⟨i, h, .refl, id⟩⟩

theorem Follows.trans (h : Follows r r₁) (h' : Follows r₁ r') : Follows r r' := by
  refine ⟨fun i j hup => h'.up i j (h.up i j hup), fun i k hik => ?_⟩
  obtain ⟨j, hjk, hij, hactive⟩ := h.has i k hik
  obtain ⟨j', hjk', hjj', hactive'⟩ := h'.has j k hjk
  exact ⟨j', hjk', (ReflTransGen.mono h'.up i j hij).trans hjj', hactive' ∘ hactive⟩

variable [DecidableEq ι]

/-- What may happen to a registry: nobody's names change, a holder takes a name that nobody else
has, or `source` is merged into `target`, which also takes the names in `extra`. -/
inductive Step (r : Registry κ ι) : Registry κ ι → Prop
  | keep {r' : Registry κ ι} : (∀ j k, r'.has j k ↔ r.has j k) → r'.into = r.into →
      (∀ j, r.active j → r'.active j) → Step r r'
  | take {r' : Registry κ ι} (i : ι) (k : κ) : r.into i = none → (∀ j, r.has j k → j = i) →
      (∀ j k', r'.has j k' ↔ r.has j k' ∨ j = i ∧ k' = k) → r'.into = r.into →
      (∀ j, r.active j → r'.active j) → Step r r'
  | merge {r' : Registry κ ι} (source target : ι) (extra : κ → Prop) : source ≠ target →
      r.into source = none → r.into target = none →
      (∀ k, extra k → ∀ j, r.has j k → j = source ∨ j = target) →
      (∀ j k, r'.has j k ↔ (j = target ∧ (extra k ∨ r.has source k ∨ r.has target k)) ∨
        (j ≠ source ∧ j ≠ target ∧ r.has j k)) →
      r'.into = Function.update r.into source (some target) →
      r'.active target → (∀ j, j ≠ source → r.active j → r'.active j) → Step r r'

theorem Step.sound (h : Step r r') (hsound : r.Sound) : r'.Sound := by
  cases h with
  | keep hhas hinto _ =>
    refine ⟨hinto ▸ hsound.acyclic, fun j k h => ?_, fun j j' k h h' => ?_⟩
    · rw [hinto]
      exact hsound.root j k ((hhas j k).1 h)
    · exact hsound.unique j j' k ((hhas j k).1 h) ((hhas j' k).1 h')
  | take i k hroot hfree hhas hinto _ =>
    refine ⟨hinto ▸ hsound.acyclic, fun j k' h => ?_, fun j j' k' h h' => ?_⟩
    · rw [hinto]
      rcases (hhas j k').1 h with hold | ⟨rfl, rfl⟩
      · exact hsound.root j k' hold
      · exact hroot
    · rcases (hhas j k').1 h with hold | ⟨rfl, rfl⟩
      · rcases (hhas j' k').1 h' with hold' | ⟨rfl, rfl⟩
        · exact hsound.unique j j' k' hold hold'
        · exact hfree j hold
      · rcases (hhas j' k').1 h' with hold' | ⟨rfl, _⟩
        · exact (hfree j' hold').symm
        · rfl
  | merge source target extra hne hsource htarget hextra hhas hinto _ _ =>
    refine ⟨?_, fun j k h => ?_, fun j j' k h h' => ?_⟩
    · rw [hinto]
      refine (acyclic_update_iff hsound.acyclic).2 fun hpath => ?_
      -- the target is a root, so nothing is above it
      rcases hpath.cases_head with heq | ⟨above, hup, _⟩
      · exact hne heq.symm
      · cases htarget.symm.trans hup
    · rw [hinto]
      rcases (hhas j k).1 h with ⟨rfl, _⟩ | ⟨hj, _, hold⟩
      · rw [Function.update_of_ne hne.symm]
        exact htarget
      · rw [Function.update_of_ne hj]
        exact hsound.root j k hold
    · -- a name of the target is extra or one of the two holders had it
      have hothers : ∀ j, j ≠ source → j ≠ target → r.has j k →
          ¬ (extra k ∨ r.has source k ∨ r.has target k) := by
        rintro j hjs hjt hold (hk | hk | hk)
        · exact (hextra k hk j hold).elim hjs hjt
        · exact hjs (hsound.unique j source k hold hk)
        · exact hjt (hsound.unique j target k hold hk)
      rcases (hhas j k).1 h with ⟨rfl, hk⟩ | ⟨hjs, hjt, hold⟩
      · rcases (hhas j' k).1 h' with ⟨rfl, _⟩ | ⟨hjs', hjt', hold'⟩
        · rfl
        · exact absurd hk (hothers j' hjs' hjt' hold')
      · rcases (hhas j' k).1 h' with ⟨rfl, hk⟩ | ⟨_, _, hold'⟩
        · exact absurd hk (hothers j hjs hjt hold)
        · exact hsound.unique j j' k hold hold'

theorem Step.follows (h : Step r r') : Follows r r' := by
  cases h with
  | keep hhas hinto hactive =>
    refine ⟨fun a b => ?_, fun j k h => ⟨j, (hhas j k).2 h, .refl, hactive j⟩⟩
    rw [hinto]
    exact id
  | take i k _ _ hhas hinto hactive =>
    refine ⟨fun a b => ?_, fun j k' h => ⟨j, (hhas j k').2 (.inl h), .refl, hactive j⟩⟩
    rw [hinto]
    exact id
  | merge source target extra hne hsource htarget _ hhas hinto hactive hkept =>
    have hup : Up r'.into source target := by
      rw [hinto, Up, Function.update_self]
    refine ⟨fun a b hab => ?_, fun j k h => ?_⟩
    · have ha : a ≠ source := by
        rintro rfl
        cases hsource.symm.trans hab
      rw [hinto, Up, Function.update_of_ne ha]
      exact hab
    · by_cases hjs : j = source
      · subst hjs
        exact ⟨target, (hhas target k).2 (.inl ⟨rfl, .inr (.inl h)⟩), .single hup, fun _ => hactive⟩
      by_cases hjt : j = target
      · subst hjt
        exact ⟨j, (hhas j k).2 (.inl ⟨rfl, .inr (.inr h)⟩), .refl, fun _ => hactive⟩
      · exact ⟨j, (hhas j k).2 (.inr ⟨hjs, hjt, h⟩), .refl, hkept j hjs⟩

end Registry
