import QueryDefaults.Pass
import QueryDefaults.Proofs.Tree.Fold

/-!
# Runs side by side

Two runs go alike when they count and log the same, and end with the same error or with related
results. Binds keep that, so two passes go alike on two trees if at every pair of nodes they decide
the same before the operands and build related nodes after them (`Pass.visit_alike`).
-/

set_option autoImplicit false

namespace QueryDefaults

variable {κ α β α' β' δ : Type} {S : α → β → Prop} {S' : α' → β' → Prop}

/-- Two outcomes with the same error, or with related results. -/
inductive SameEnd (S : α → β → Prop) : Except QueryError α → Except QueryError β → Prop where
  | ok {a : α} {b : β} (related : S a b) : SameEnd S (.ok a) (.ok b)
  | error (err : QueryError) : SameEnd S (.error err) (.error err)

namespace Traced

/-- Two runs that count and log the same and end alike. -/
structure Alike (S : α → β → Prop) (x : Traced κ α) (y : Traced κ β) : Prop where
  outcome : SameEnd S x.outcome y.outcome
  count : x.count = y.count
  log : x.log = y.log

/-- Runs that go alike with equal results are equal. -/
theorem Alike.eq {x y : Traced κ α} (h : Alike Eq x y) : x = y := by
  obtain ⟨outcome, count, log⟩ := x
  obtain ⟨outcome', count', log'⟩ := y
  obtain ⟨ends, rfl, rfl⟩ := h
  cases ends with
  | ok same => rw [same]
  | error err => rfl

theorem Alike.refl (x : Traced κ α) : Alike Eq x x := by
  obtain ⟨outcome, count, log⟩ := x
  cases outcome with
  | ok a => exact ⟨.ok rfl, rfl, rfl⟩
  | error err => exact ⟨.error err, rfl, rfl⟩

variable [Tally κ]

theorem Alike.pure {a : α} {b : β} (related : S a b) :
    Alike S (Pure.pure a : Traced κ α) (Pure.pure b) :=
  ⟨.ok related, rfl, rfl⟩

theorem Alike.ofExcept {x : Except QueryError α} {y : Except QueryError β} (ends : SameEnd S x y) :
    Alike S (Traced.ofExcept x : Traced κ α) (Traced.ofExcept y) :=
  ⟨ends, rfl, rfl⟩

/-- Runs can be put behind runs that go alike. -/
theorem Alike.bind {x : Traced κ α} {y : Traced κ β} {f : α → Traced κ α'} {g : β → Traced κ β'}
    (h : Alike S x y) (next : ∀ a b, S a b → Alike S' (f a) (g b)) :
    Alike S' (x >>= f) (y >>= g) := by
  obtain ⟨outcome, count, log⟩ := x
  obtain ⟨outcome', count', log'⟩ := y
  obtain ⟨ends, rfl, rfl⟩ := h
  cases ends with
  | error err => exact ⟨.error err, rfl, rfl⟩
  | ok related =>
    obtain ⟨ends, counts, logs⟩ := next _ _ related
    exact ⟨ends, congrArg _ counts, congrArg _ logs⟩

end Traced

namespace Pass

variable [Tally κ] {p q : Pass κ δ} {V : Visit → Visit → Prop}

theorem visitAll_alike {as bs : List Expr}
    (h : List.Forall₂ (fun a b => (p.visit a).Alike V (q.visit b)) as bs) :
    (p.visitAll as).Alike (List.Forall₂ V) (q.visitAll bs) := by
  induction h with
  | nil => exact .pure .nil
  | cons first rest ih =>
    rw [visitAll_cons, visitAll_cons]
    exact first.bind fun _ _ visit => ih.bind fun _ _ visits => .pure (.cons visit visits)

/-- Passes that decide the same and build related nodes at all pairs of nodes that stand at the same
places of two trees go alike on the trees. -/
theorem visit_alike {T : Expr → Expr → Prop}
    (operands : ∀ a b, T a b → List.Forall₂ T a.operands b.operands)
    (enter : ∀ a b, T a b → p.enter a = q.enter b)
    (leave : ∀ a b, T a b → ∀ decision as bs, List.Forall₂ V as bs →
      (p.leave decision a as).Alike V (q.leave decision b bs))
    {a b : Expr} (h : T a b) : (p.visit a).Alike V (q.visit b) := by
  refine Expr.induction_pairs (P := fun a b => (p.visit a).Alike V (q.visit b)) operands
    (fun a b related below => ?_) h
  rw [visit_eq, visit_eq, enter a b related]
  refine (Traced.Alike.refl (q.enter b)).bind fun decision _ same => ?_
  subst same
  exact (visitAll_alike below).bind fun as bs visits => leave a b related decision as bs visits

/-- Passes that decide the same at every node of a tree, and build nodes in the same way, run the
same on the tree. -/
theorem visit_congr {e : Expr} (enter : ∀ node ∈ e.nodes, p.enter node = q.enter node)
    (leave : p.leave = q.leave) : p.visit e = q.visit e := by
  refine (visit_alike (T := fun a b => a = b ∧ ∀ node ∈ a.nodes, p.enter node = q.enter node)
    ?_ ?_ ?_ ⟨rfl, enter⟩).eq
  · rintro a _ ⟨rfl, same⟩
    exact List.forall₂_same.2 fun x hx => ⟨rfl, (Expr.forall_nodes_iff.1 same).2 x hx⟩
  · rintro a _ ⟨rfl, same⟩
    exact (Expr.forall_nodes_iff.1 same).1
  · rintro a _ ⟨rfl, -⟩ decision as bs visits
    obtain rfl : as = bs := List.forall₂_eq_eq_eq ▸ visits
    rw [leave]
    exact .refl _

end Pass

end QueryDefaults
