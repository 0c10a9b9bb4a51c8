import Mathlib.Logic.Function.Basic
import Mathlib.Logic.Relation

/-!
# Locks taken in order

Agents take locks one after another and release them together at their end. An agent waits for
another that holds its next lock in a conflicting mode. If every agent takes its locks in increasing
order of their keys, no agents wait for each other in a cycle (`no_cycle`): along the waiting the
next keys increase, since an agent that holds a lock has its next one after it
(`Waits.before_next`).

Keys name locks; two keys may name the same lock only where that is not between the locks of the
agents at hand.
-/

namespace OrderedLocks

inductive LockMode
  | SHARE
  | UPDATE
deriving DecidableEq, Repr

/-- Two holders exclude each other. -/
def LockMode.conflicts (mode mode' : LockMode) : Bool := mode = UPDATE || mode' = UPDATE

/-- The mode grants no more than the other. -/
instance : LE LockMode := ⟨fun mode mode' => mode = .SHARE ∨ mode' = .UPDATE⟩

instance (mode mode' : LockMode) : Decidable (mode ≤ mode') :=
  inferInstanceAs (Decidable (mode = .SHARE ∨ mode' = .UPDATE))

@[simp] theorem LockMode.SHARE_le (mode : LockMode) : LockMode.SHARE ≤ mode := .inl rfl

@[simp] theorem LockMode.le_UPDATE (mode : LockMode) : mode ≤ LockMode.UPDATE := .inr rfl

theorem LockMode.le_refl (mode : LockMode) : mode ≤ mode := by cases mode <;> simp

/-- A request for the lock of a key. -/
structure Request (κ : Type*) where
  key : κ
  mode : LockMode
deriving DecidableEq

/-- What an agent holds, and what it has yet to take. -/
structure Progress (κ : Type*) where
  held : List (Request κ)
  pending : List (Request κ)

/-- How far every agent has come. -/
abbrev State (ι κ : Type*) := ι → Progress κ

section
variable {ι κ L : Type*} (lock : κ → L)

/-- The next lock of `i` is held by `j` in a conflicting mode. -/
def Waits (state : State ι κ) (i j : ι) : Prop :=
  i ≠ j ∧ ∃ request rest, (state i).pending = request :: rest ∧
    ∃ taken ∈ (state j).held, lock taken.key = lock request.key ∧
      taken.mode.conflicts request.mode = true

/-- One agent takes its next lock, or ends and releases what it holds. -/
inductive Step [DecidableEq ι] (state : State ι κ) : State ι κ → Prop
  | acquire (i : ι) (request : Request κ) (rest : List (Request κ))
      (hnext : (state i).pending = request :: rest) (hfree : ∀ j, ¬Waits lock state i j) :
      Step state (Function.update state i ⟨(state i).held ++ [request], rest⟩)
  | finish (i : ι) : Step state (Function.update state i ⟨[], []⟩)

variable (program : ι → List (Request κ))

/-- No agent has taken anything. -/
def initial : State ι κ := fun i => ⟨[], program i⟩

/-- The states that the agents can come to. -/
def Reachable [DecidableEq ι] : State ι κ → Prop :=
  Relation.ReflTransGen (Step lock) (initial program)

variable {lock program} {state : State ι κ}

/-- An agent that has not ended holds a beginning of its program. -/
theorem Reachable.held_append_pending [DecidableEq ι] (h : Reachable lock program state) (i : ι) :
    (state i).held ++ (state i).pending = program i ∨ state i = ⟨[], []⟩ := by
  induction h with
  | refl => exact .inl rfl
  | @tail before after _ hstep ih =>
    cases hstep with
    | acquire j request rest hnext hfree =>
      by_cases hij : i = j
      · subst hij
        rw [Function.update_self]
        rcases ih with ih | ih
        · exact .inl (by rw [← ih, hnext, List.append_assoc, List.singleton_append])
        · rw [ih] at hnext
          cases hnext
      · rwa [Function.update_of_ne hij]
    | finish j =>
      by_cases hij : i = j
      · subst hij
        exact .inr (Function.update_self ..)
      · rwa [Function.update_of_ne hij]

variable {before : κ → κ → Prop}

/-- Every agent's requests are in strictly increasing order. -/
def Ordered (before : κ → κ → Prop) (program : ι → List (Request κ)) : Prop :=
  ∀ i, (program i).Pairwise fun a b => before a.key b.key

/-- Keys of the programs name different locks. -/
def Distinguishes (lock : κ → L) (program : ι → List (Request κ)) : Prop :=
  ∀ i j, ∀ a ∈ program i, ∀ b ∈ program j, lock a.key = lock b.key → a.key = b.key

/-- **Whoever is waited for has its next lock after the one it holds.** -/
theorem Waits.before_next [DecidableEq ι] (hlock : Distinguishes lock program)
    (hordered : Ordered before program) (hreachable : Reachable lock program state) {i j : ι}
    (h : Waits lock state i j) {request request' : Request κ} {rest rest' : List (Request κ)}
    (hi : (state i).pending = request :: rest) (hj : (state j).pending = request' :: rest') :
    before request.key request'.key := by
  obtain ⟨-, next, tail, hnext, taken, htaken, hsame, -⟩ := h
  obtain ⟨rfl, rfl⟩ := List.cons.inj (hnext.symm.trans hi)
  have hprogram : (state j).held ++ request' :: rest' = program j := by
    rcases hreachable.held_append_pending j with hpart | hended
    · exact hj ▸ hpart
    · rw [hended] at htaken
      cases htaken
  have hwaiting : next ∈ program i := by
    rcases hreachable.held_append_pending i with hpart | hended
    · rw [← hpart, hi]
      simp
    · rw [hended] at hi
      cases hi
  have hheld : taken ∈ program j := hprogram ▸ List.mem_append_left _ htaken
  have hkey := hlock j i taken hheld next hwaiting hsame
  have hpairwise := hordered j
  rw [← hprogram, List.pairwise_append] at hpairwise
  exact hkey ▸ hpairwise.2.2 taken htaken request' (.head _)

/-- **No agents wait for each other in a cycle.** -/
theorem no_cycle [DecidableEq ι] [IsTrans κ before] [Std.Irrefl before]
    (hlock : Distinguishes lock program) (hordered : Ordered before program)
    (hreachable : Reachable lock program state) (i : ι) :
    ¬Relation.TransGen (Waits lock state) i i := by
  -- along a path of waiting agents the keys of the next requests increase
  have hpath : ∀ {j k : ι}, Relation.TransGen (Waits lock state) j k →
      ∀ {request request' rest rest'}, (state j).pending = request :: rest →
        (state k).pending = request' :: rest' → before request.key request'.key := by
    intro j k h
    induction h with
    | single h => exact h.before_next hlock hordered hreachable
    | tail _ hlast ih =>
      intro request request' rest rest' hj hk
      obtain ⟨-, mid, tail, hmid, -⟩ := id hlast
      exact IsTrans.trans _ _ _ (ih hj hmid) (hlast.before_next hlock hordered hreachable hmid hk)
  intro hcycle
  obtain ⟨j, hwaits, -⟩ := Relation.TransGen.head'_iff.1 hcycle
  obtain ⟨-, request, rest, hnext, -⟩ := hwaits
  exact Std.Irrefl.irrefl request.key (hpath hcycle hnext hnext)

end

end OrderedLocks
