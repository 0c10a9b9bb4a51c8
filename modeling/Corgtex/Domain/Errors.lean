import Mathlib.Logic.Basic

/-!
# Application errors

`packages/domain/src/errors.ts`: a request that fails throws an `AppError`, most often through
`invariant`. A function of the domain that may throw returns in `Except AppError`. The other modules
of the domain name the files of this directory without it.
-/

namespace Corgtex.Domain

/-- `AppError` (line 1). -/
structure AppError where
  status : Nat
  code : String
  message : String
deriving DecidableEq, Repr

/-- `invariant` (line 12). -/
def invariant (condition : Bool) (status : Nat) (code message : String) : Except AppError Unit :=
  if condition then .ok () else .error ⟨status, code, message⟩

/-- `if (condition) check`, for a check that may throw. -/
def checkIf (condition : Bool) (check : Except AppError Unit) : Except AppError Unit :=
  if condition then check else .ok ()

theorem bind_ok {ε α β : Type} {action : Except ε α} {next : α → Except ε β} {result : β} :
    (action >>= next) = .ok result ↔ ∃ value, action = .ok value ∧ next value = .ok result := by
  cases action with
  | error e => exact ⟨nofun, fun ⟨_, h, _⟩ => nomatch h⟩
  | ok value => exact ⟨fun h => ⟨value, rfl, h⟩, fun ⟨_, h, hnext⟩ => Except.ok.inj h ▸ hnext⟩

theorem map_ok {ε α β : Type} {action : Except ε α} {f : α → β} {result : β} :
    action.map f = .ok result ↔ ∃ value, action = .ok value ∧ f value = result := by
  cases action <;> simp [Except.map]

theorem invariant_bind_ok {α : Type} {condition : Bool} {status : Nat} {code message : String}
    {next : Unit → Except AppError α} {result : α} :
    (invariant condition status code message >>= next) = .ok result ↔
      condition = true ∧ next () = .ok result := by
  cases condition with
  | true => exact ⟨fun h => ⟨rfl, h⟩, And.right⟩
  | false => exact ⟨nofun, fun h => nomatch h.1⟩

end Corgtex.Domain
