/-!
Computations that may fail: what a success, or a failure, says about the steps it was made of.
-/

namespace Entitlement

variable {ε ε' α β : Type}

theorem bind_of_ok {first : Except ε α} {a : α} (done : first = .ok a) (next : α → Except ε β) :
    (first >>= next) = next a := by
  rw [done]
  rfl

theorem ok_of_bind {first : Except ε α} {next : α → Except ε β} {b : β} (done : (first >>= next) = .ok b) :
    ∃ a, first = .ok a ∧ next a = .ok b := by
  cases first with
  | error e => cases done
  | ok a => exact ⟨a, rfl, done⟩

theorem error_of_bind {first : Except ε α} {next : α → Except ε β} {e : ε} (failed : (first >>= next) = .error e) :
    first = .error e ∨ ∃ a, first = .ok a ∧ next a = .error e := by
  cases first with
  | error e' => exact Or.inl (congrArg Except.error (Except.error.inj failed))
  | ok a => exact Or.inr ⟨a, rfl, failed⟩

theorem ok_of_map {first : Except ε α} {f : α → β} {b : β} (done : first.map f = .ok b) :
    ∃ a, first = .ok a ∧ f a = b := by
  cases first with
  | error e => cases done
  | ok a => exact ⟨a, rfl, Except.ok.inj done⟩

theorem ok_of_mapError {first : Except ε α} {f : ε → ε'} {a : α} (done : first.mapError f = .ok a) :
    first = .ok a := by
  cases first with
  | error e => cases done
  | ok a' => exact congrArg Except.ok (Except.ok.inj done)

theorem error_of_mapError {first : Except ε α} {f : ε → ε'} {e : ε'} (failed : first.mapError f = .error e) :
    ∃ e', first = .error e' ∧ f e' = e := by
  cases first with
  | error e' => exact ⟨e', rfl, Except.error.inj failed⟩
  | ok a => cases failed

theorem ok_of_toOption {first : Except ε α} {a : α} (done : first.toOption = some a) : first = .ok a := by
  cases first with
  | error e => cases done
  | ok a' => exact congrArg Except.ok (Option.some.inj done)

end Entitlement
