import QueryDefaults.Pass

/-!
# Passes over operands

A pass visits operands from left to right. When none of them fails, what they count and log is put
together in that order.
-/

set_option autoImplicit false

namespace QueryDefaults

variable {κ α β δ : Type} [Tally κ]

/-- Two runs one after the other end well when both do. -/
theorem Traced.bind_eq_ok {x : Traced κ α} {f : α → Traced κ β} {b : β} :
    (x >>= f).outcome = .ok b ↔ ∃ a, x.outcome = .ok a ∧ (f a).outcome = .ok b := by
  cases h : x.outcome with
  | error err => simp [bind_error f h]
  | ok a => simp [bind_ok f h]

theorem Traced.outcome_bind (x : Traced κ α) (f : α → Traced κ β) :
    (x >>= f).outcome = x.outcome.bind fun a => (f a).outcome := by
  cases h : x.outcome with
  | error err => rw [bind_error f h]; rfl
  | ok a => rw [bind_ok f h]; rfl

theorem RuleCounts.of_sum (counts : List RuleCounts) (rule : Rule) :
    counts.sum.of rule = (counts.map fun count => count.of rule).sum := by
  induction counts with
  | nil => exact of_zero rule
  | cons count counts ih => rw [List.sum_cons, of_add, ih, List.map_cons, List.sum_cons]

namespace Pass

variable {p : Pass κ δ}

/-- A pass that decides everything after the operands only acts behind them. -/
theorem visit_ofLeave (leave : Expr → List Visit → Traced κ Visit) (e : Expr) :
    (ofLeave leave).visit e = (do
      let visits ← (ofLeave leave).visitAll e.operands
      leave e visits) :=
  (visit_eq (ofLeave leave) e).trans (pure_bind () _)

theorem length_of_visitAll {es : List Expr} {visits : List Visit}
    (h : (p.visitAll es).outcome = .ok visits) : visits.length = es.length := by
  induction es generalizing visits with
  | nil =>
    cases h
    rfl
  | cons e es ih =>
    rw [visitAll_cons] at h
    obtain ⟨first, -, h⟩ := Traced.bind_eq_ok.1 h
    obtain ⟨rest, hrest, h⟩ := Traced.bind_eq_ok.1 h
    cases h
    rw [List.length_cons, ih hrest, List.length_cons]

/-- When every operand ends well, so do all of them together. -/
theorem visitAll_ok {es : List Expr} {f : Expr → Visit}
    (ok : ∀ e ∈ es, (p.visit e).outcome = .ok (f e)) :
    p.visitAll es =
      ⟨.ok (es.map f), (es.map fun e => (p.visit e).count).sum,
        es.flatMap fun e => (p.visit e).log⟩ := by
  induction es with
  | nil => rfl
  | cons e es ih =>
    have rest := ih fun a ha => ok a (List.mem_cons_of_mem e ha)
    rw [visitAll_cons, Traced.bind_ok _ (ok e List.mem_cons_self), rest, Traced.bind_ok _ rfl]
    simp [Traced.pure_def, Tally.add_zero]

/-- When it is known of every operand what it ends with and when, it is known of all together. -/
theorem visitAll_eq_ok_iff {es : List Expr} {Ends : Expr → Prop} {f : Expr → Visit}
    (h : ∀ e ∈ es, ∀ visit, (p.visit e).outcome = .ok visit ↔ Ends e ∧ visit = f e)
    {visits : List Visit} :
    (p.visitAll es).outcome = .ok visits ↔ (∀ e ∈ es, Ends e) ∧ visits = es.map f := by
  constructor
  · intro done
    induction es generalizing visits with
    | nil =>
      cases done
      simp
    | cons e es ih =>
      rw [visitAll_cons] at done
      obtain ⟨first, hfirst, done⟩ := Traced.bind_eq_ok.1 done
      obtain ⟨rest, hrest, done⟩ := Traced.bind_eq_ok.1 done
      cases done
      obtain ⟨ends, rfl⟩ := (h e List.mem_cons_self first).1 hfirst
      obtain ⟨all, rfl⟩ := ih (fun a ha => h a (List.mem_cons_of_mem e ha)) hrest
      exact ⟨List.forall_mem_cons.2 ⟨ends, all⟩, rfl⟩
  · rintro ⟨ends, rfl⟩
    rw [visitAll_ok fun e he => (h e he _).2 ⟨ends e he, rfl⟩]

end Pass

/-- When the operands that did not change are what they were, the node over its visited operands is
the node over their trees. -/
theorem Visit.rebuild_map {e : Expr} {f : Expr → Visit}
    (same : ∀ a ∈ e.operands, (f a).changed = false → (f a).tree = a) :
    rebuild e (e.operands.map f) =
      ⟨e.withOperands (e.operands.map fun a => (f a).tree),
        e.operands.any fun a => (f a).changed⟩ := by
  unfold rebuild
  cases any : (e.operands.map f).any Visit.changed with
  | true =>
    rw [List.any_map] at any
    rw [if_pos rfl, List.map_map]
    exact congrArg (mk _) any.symm
  | false =>
    rw [List.any_map] at any
    have operands : (e.operands.map fun a => (f a).tree) = e.operands := by
      have trees := List.map_congr_left fun a ha =>
        same a ha (Bool.eq_false_iff.2 (List.any_eq_false.1 any a ha))
      rw [trees, List.map_id']
    rw [if_neg Bool.false_ne_true, operands, Expr.withOperands_operands]
    exact congrArg (mk e) any.symm

end QueryDefaults
