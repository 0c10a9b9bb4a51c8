import Mathlib.Logic.Basic
import Mathlib.Tactic.Cases

/-!
# Checks that decide a condition

A computation in `Except` that succeeds exactly if a condition holds, with a value known beforehand,
and otherwise fails with one and the same error. `Decides` composes along the computation's steps,
so that what a long check accepts is read off its text.
-/

universe u v

variable {ε : Type u} {α β : Type v}

/-- The check has the value if the condition holds, and else the error. -/
structure Decides (condition : Prop) (error : ε) (value : α) (check : Except ε α) : Prop where
  ok : condition → check = .ok value
  error : ¬ condition → check = .error error

namespace Decides

variable {P Q : Prop} {e : ε} {a : α} {b : β} {check : Except ε α}

theorem pure (a : α) : Decides True e a (.ok a) := ⟨fun _ => rfl, fun h => absurd trivial h⟩

theorem throw (hP : ¬ P) (a : α) : Decides P e a (.error e) := ⟨fun h => absurd h hP, fun _ => rfl⟩

theorem ite [Decidable P] (a : α) : Decides P e a (if P then .ok a else .error e) := by
  constructor
  · intro h
    rw [if_pos h]
  · intro h
    rw [if_neg h]

theorem congr (h : Decides P e a check) (hiff : P ↔ Q) : Decides Q e a check := by
  rwa [← propext hiff]

theorem bind {next : α → Except ε β} (h : Decides P e a check)
    (hnext : P → Decides Q e b (next a)) : Decides (P ∧ Q) e b (check >>= next) := by
  by_cases hP : P
  · rw [h.ok hP]
    exact ⟨fun hPQ => (hnext hP).ok hPQ.2, fun hPQ => (hnext hP).error fun hQ => hPQ ⟨hP, hQ⟩⟩
  · rw [h.error hP]
    exact throw (fun hPQ => hP hPQ.1) b

/-- A check whose value is then made into another. -/
theorem last {next : α → Except ε β} (h : Decides P e a check) (hnext : next a = .ok b) :
    Decides P e b (check >>= next) :=
  (h.bind fun _ => hnext ▸ pure b).congr (iff_of_eq (and_true P))

theorem map (h : Decides P e a check) (f : α → β) : Decides P e (f a) (check.map f) := by
  constructor
  · intro hP
    rw [h.ok hP]
    rfl
  · intro hP
    rw [h.error hP]
    rfl

/-- A check succeeds exactly if its condition holds, and then with its value. -/
theorem eq_ok_iff {a' : α} (h : Decides P e a check) : check = .ok a' ↔ P ∧ a = a' := by
  by_cases hP : P
  · rw [h.ok hP]
    simp [hP]
  · rw [h.error hP]
    simp [hP]

theorem eq_error {e' : ε} (h : Decides P e a check) (herror : check = .error e') : e' = e := by
  by_cases hP : P
  · rw [h.ok hP] at herror
    cases herror
  · rw [h.error hP] at herror
    cases herror
    rfl

end Decides
