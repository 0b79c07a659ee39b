import QueryDefaults.Event
import QueryDefaults.QueryError

/-!
# Runs that count and log

A run ends with a result or with an error, and either way it keeps what it counted and logged on its
way there.
-/

set_option autoImplicit false

namespace QueryDefaults

/-- What a run can count: sums with a zero, where only the order of the summands may matter. -/
class Tally (κ : Type) extends Zero κ, Add κ where
  zero_add : ∀ a : κ, 0 + a = a
  add_zero : ∀ a : κ, a + 0 = a
  add_assoc : ∀ a b c : κ, a + b + c = a + (b + c)

instance : Tally Nat where
  toZero := ⟨0⟩
  toAdd := instAddNat
  zero_add := Nat.zero_add
  add_zero := Nat.add_zero
  add_assoc := Nat.add_assoc

instance : Tally RuleCounts where
  zero_add a := RuleCounts.ext_of fun rule => by simp
  add_zero a := RuleCounts.ext_of fun rule => by simp
  add_assoc a b c := RuleCounts.ext_of fun rule => by simp [Nat.add_assoc]

/-- A finished run: its outcome, what it counted and what it logged. -/
structure Traced (κ α : Type) where
  outcome : Except QueryError α
  count : κ
  log : List Event

namespace Traced

variable {κ α β : Type}

/-- The same run with its count expressed otherwise. -/
def mapCount {κ' : Type} (f : κ → κ') (x : Traced κ α) : Traced κ' α :=
  ⟨x.outcome, f x.count, x.log⟩

/-- The result of a run beside its count. -/
def counted (x : Traced κ α) : Traced κ (α × κ) :=
  ⟨x.outcome.map fun a => (a, x.count), x.count, x.log⟩

/-- Adds to the count. -/
def tally (count : κ) : Traced κ Unit := ⟨.ok (), count, []⟩

variable [Tally κ]

/-- A run that neither counts nor logs. -/
def ofExcept (outcome : Except QueryError α) : Traced κ α := ⟨outcome, 0, []⟩

/-- Adds an event to the log. -/
def emit (event : Event) : Traced κ Unit := ⟨.ok (), 0, [event]⟩

/-- Two runs one after the other. The second one starts from the result of the first, so it does not
take place when the first one failed. -/
instance : Monad (Traced κ) where
  pure a := ⟨.ok a, 0, []⟩
  bind x f :=
    match x.outcome with
    | .error e => ⟨.error e, x.count, x.log⟩
    | .ok a => ⟨(f a).outcome, x.count + (f a).count, x.log ++ (f a).log⟩

theorem pure_def (a : α) : (pure a : Traced κ α) = ⟨.ok a, 0, []⟩ := rfl

theorem bind_ok {x : Traced κ α} {a : α} (f : α → Traced κ β) (h : x.outcome = .ok a) :
    x >>= f = ⟨(f a).outcome, x.count + (f a).count, x.log ++ (f a).log⟩ := by
  obtain ⟨_, _, _⟩ := x
  cases h
  rfl

theorem bind_error {x : Traced κ α} {e : QueryError} (f : α → Traced κ β)
    (h : x.outcome = .error e) : x >>= f = ⟨.error e, x.count, x.log⟩ := by
  obtain ⟨_, _, _⟩ := x
  cases h
  rfl

/-- Runs can be grouped in any way. -/
instance : LawfulMonad (Traced κ) := LawfulMonad.mk' (Traced κ)
  (fun x => by
    obtain ⟨outcome, count, log⟩ := x
    cases outcome <;> simp [Functor.map, Tally.add_zero])
  (fun _ _ => by simp [bind, pure, Tally.zero_add])
  (fun x f g => by
    obtain ⟨outcome, count, log⟩ := x
    cases outcome with
    | error e => rfl
    | ok a => cases h : (f a).outcome <;> simp [bind, h, Tally.add_assoc])

end Traced

end QueryDefaults
