import Mathlib.Logic.Relation

/-!
# Reachability with a check at every node

A node of a graph is admitted when every node reachable from it passes a check and none of them
lies on a cycle (`Admits`). The definition looks at whole paths; `admits_iff` says it again for one
step, without mentioning cycles, and `not_admits_of_cycle` is what a walk along a path may conclude
when it meets a node of the path again.
-/

namespace Reachability

open Relation

variable {α : Type*} {edge : α → α → Prop} {pass : α → Prop} {a b : α}

/-- Every node reachable from `a` passes, and none lies on a cycle. -/
def Admits (edge : α → α → Prop) (pass : α → Prop) (a : α) : Prop :=
  ∀ b, ReflTransGen edge a b → pass b ∧ ¬ TransGen edge b b

theorem Admits.self (h : Admits edge pass a) : pass a := (h a .refl).1

theorem Admits.of_edge (h : Admits edge pass a) (hab : edge a b) : Admits edge pass b :=
  fun c hbc => h c (hbc.head hab)

theorem not_admits_of_cycle (h : TransGen edge a a) : ¬ Admits edge pass a :=
  fun hadmits => (hadmits a .refl).2 h

/-- **Admission, one step at a time.** A cycle through `a` is one through a child of `a`. -/
theorem admits_iff : Admits edge pass a ↔ pass a ∧ ∀ b, edge a b → Admits edge pass b := by
  constructor
  · intro h
    exact ⟨h.self, fun b => h.of_edge⟩
  · rintro ⟨hpass, hchildren⟩ c hac
    rcases hac.cases_head with rfl | ⟨b, hab, hbc⟩
    · refine ⟨hpass, fun hcycle => ?_⟩
      obtain ⟨b, hab, hba⟩ := TransGen.head'_iff.1 hcycle
      exact (hchildren b hab a hba).2 hcycle
    · exact hchildren b hab c hbc

/-- A weaker check admits more. -/
theorem Admits.mono {pass' : α → Prop} (h : Admits edge pass a) (hpass : ∀ b, pass b → pass' b) :
    Admits edge pass' a :=
  fun b hab => ⟨hpass b (h b hab).1, (h b hab).2⟩

end Reachability
