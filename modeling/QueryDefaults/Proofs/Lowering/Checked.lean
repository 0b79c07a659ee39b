import QueryDefaults.Proofs.Lowering.Commute

/-!
# Trees of known overloads

A tree is *checked* when each of its calls names an overload of the table, as it does when all calls
were built through `call?`. Passes build nodes anew without that check, and the normalizer and the
lowering pass also change operators and arities. Still both of them turn checked trees into checked
ones, of the same type at the root (`keeps_type_and_overloads`).
-/

set_option autoImplicit false

namespace QueryDefaults

namespace Expr

/-- A node that, if it is a call, names an overload of the table. -/
def HasOverload : Expr → Prop
  | .call op _ args _ => ∃ overload, Overload.resolve op args.length = .ok overload
  | _ => True

/-- Every call of a tree names an overload of the table. -/
def Checked (e : Expr) : Prop := ∀ node ∈ e.nodes, node.HasOverload

theorem checked_iff {e : Expr} : e.Checked ↔ e.HasOverload ∧ ∀ a ∈ e.operands, a.Checked :=
  forall_nodes_iff

theorem checked_call {op : Operator} {typeArgs : List Ty} {args : List Expr} {ty : Ty}
    {overload : Overload} (known : Overload.resolve op args.length = .ok overload)
    (each : ∀ a ∈ args, a.Checked) : (call op typeArgs args ty).Checked :=
  checked_iff.2 ⟨⟨overload, known⟩, each⟩

theorem checked_binary {op : BinaryOp} {left right : Expr} {ty : Ty} (hl : left.Checked)
    (hr : right.Checked) : (binary op left right ty).Checked :=
  checked_iff.2 ⟨trivial, by simp [operands, hl, hr]⟩

theorem checked_constant (value : Value) (ty : Ty) : (constant value ty).Checked :=
  checked_iff.2 ⟨trivial, by simp [operands]⟩

theorem checked_plain {kind : PlainKind} {children : List Expr} {ty : Ty}
    (each : ∀ a ∈ children, a.Checked) : (plain kind children ty).Checked :=
  checked_iff.2 ⟨trivial, each⟩

theorem hasOverload_withOperands {e : Expr} (h : e.HasOverload) (f : Expr → Expr) :
    (e.withOperands (e.operands.map f)).HasOverload := by
  cases e with
  | call op typeArgs args ty =>
    obtain ⟨overload, known⟩ := h
    exact ⟨overload, by rw [operands, List.length_map, known]⟩
  | binary | constant | plain => trivial

/-- A node with an overload keeps it over as many checked operands. -/
theorem checked_withOperands {e : Expr} (h : e.HasOverload) {f : Expr → Expr}
    (each : ∀ a ∈ e.operands, (f a).Checked) :
    (e.withOperands (e.operands.map f)).Checked := by
  rw [checked_iff, operands_withOperands]
  exact ⟨hasOverload_withOperands h f, List.forall_mem_map.2 each⟩

/-! ## Lowering -/

theorem checked_expansion {source fallback : Expr} (elem : Ty) (hs : source.Checked)
    (hf : fallback.Checked) : (expansion elem source fallback).Checked := by
  have rows : (plain .newArray [fallback] (.sequence elem)).Checked := checked_plain (by simpa)
  have both : (call .concat [elem] [source, plain .newArray [fallback] (.sequence elem)]
      (.sequence elem)).Checked := checked_call rfl (by simp [hs, rows])
  exact checked_call rfl (by simpa)

theorem checked_lowerNode {e : Expr} (h : e.Checked) : (lowerNode e).Checked := by
  unfold lowerNode
  split
  · obtain ⟨-, each⟩ := checked_iff.1 h
    simp only [operands, List.forall_mem_cons] at each
    exact checked_expansion _ each.1 each.2.1
  · obtain ⟨-, each⟩ := checked_iff.1 h
    simp only [operands, List.forall_mem_cons] at each
    exact checked_expansion _ (checked_call rfl (by simp [each])) each.2.2.1
  · exact h

theorem checked_lowered {e : Expr} (h : e.Checked) : (lowered e).Checked := by
  induction e using induction_operands with
  | step e ih =>
    obtain ⟨root, each⟩ := checked_iff.1 h
    rw [lowered_eq]
    exact checked_lowerNode (checked_withOperands root fun a ha => ih a ha (each a ha))

end Expr

open QueryDefaults.Expr QueryDefaults.Shape

variable {p : Provider} {rules : RuleSet} {e : Expr} {shape : Shape}

/-! ## Normalizing -/

/-- An emitted node has an overload whatever its site has: each arity that a rule takes leads to one
of the table. -/
theorem Site.checked_emit (site : Site p rules e shape) (value : Value) (ty : Ty) {f : Expr → Expr}
    (each : ∀ a ∈ e.operands, (f a).Checked) :
    (shape.emit (.constant value ty) e (e.operands.map f)).Checked := by
  have settled := checked_constant value ty
  cases site with
  | empty | first | firstMatch =>
    simp only [operands, List.forall_mem_cons] at each
    simp only [operands, List.map_cons, List.map_nil, emit_empty, emit_first, emit_firstMatch]
    exact checked_call rfl (by simp [each, settled])
  | coalesce =>
    simp only [operands, List.forall_mem_cons] at each
    exact checked_binary (checked_binary each.1 each.2.1) settled
  | nullRight _ _ _ other =>
    simp only [operands, List.forall_mem_cons] at each
    simp only [operands, List.map_cons, List.map_nil, emit_nullComparison, other]
    exact checked_binary each.1 settled
  | nullLeft _ _ literal =>
    simp only [operands, List.forall_mem_cons] at each
    simp only [operands, List.map_cons, List.map_nil, emit_nullComparison, literal]
    exact checked_binary settled each.2.1

theorem checked_rewritten (p : Provider) (rules : RuleSet) (h : e.Checked) :
    (rewritten p rules e).Checked := by
  induction e using induction_operands with
  | step e ih =>
    obtain ⟨root, each⟩ := checked_iff.1 h
    have below : ∀ a ∈ e.operands, (rewritten p rules a).Checked := fun a ha => ih a ha (each a ha)
    rw [rewritten_eq]
    obtain rebuilt | ⟨shape, settled, site, done, emitted⟩ := rewriteNode_cases p rules e
      (e.operands.map (rewritten p rules))
    · rw [rebuilt]
      exact checked_withOperands root below
    · obtain ⟨value, -, rfl⟩ := settle_eq_ok.1 done
      rw [emitted]
      exact site.checked_emit value _ below

/-- **Well-formedness is kept.** The tree that the normalizer or the lowering pass gives has the
type of the tree it got, and when every call of that one names an overload of the table, so does
every call of the given one. -/
theorem keeps_type_and_overloads (n : Normalizer) (tree : Expr) {visit : Visit}
    (done : (n.run tree).outcome = .ok visit ∨ (Pass.lower.visit tree).outcome = .ok visit) :
    visit.tree.staticType = tree.staticType ∧ (tree.Checked → visit.tree.Checked) := by
  obtain done | done := done
  · obtain ⟨-, rfl⟩ := visit_eq_ok_iff.1 done
    exact ⟨(alike_rewritten n.provider n.rules tree).staticType, checked_rewritten _ _⟩
  · obtain ⟨-, rfl⟩ := Pass.lower_eq_ok_iff.1 done
    exact ⟨(alike_lowered tree).staticType, checked_lowered⟩

/-- A `FirstOrDefault` over a `DefaultIfEmpty`: after the normalizer both have one more argument,
and after lowering the outer one is a `First` over a `Concat`. -/
theorem keeps_type_and_overloads_in_turn :
    let n : Normalizer := { provider := Registry.standard.provider }
    let source : Expr := .plain (.source "rows") [] (.sequence .int64)
    let rows : Expr := .call .defaultIfEmpty [] [source] (.sequence .int64)
    let tree : Expr := .call .firstOrDefault [] [rows] .int64
    ∃ closed flat, tree.Checked ∧ (n.run tree).outcome = .ok closed ∧
      (Pass.lower.visit closed.tree).outcome = .ok flat ∧ flat.tree ≠ closed.tree ∧
      closed.tree.Checked ∧ flat.tree.Checked ∧ flat.tree.staticType = .int64 := by
  intro n source rows tree
  have checked : tree.Checked := by
    have atSource : source.Checked := checked_plain nofun
    have atRows : rows.Checked := checked_call rfl (by simpa)
    exact checked_call rfl (by simpa)
  have closed : (n.run tree).outcome = .ok ⟨rewritten n.provider n.rules tree, true⟩ := rfl
  have flat : (Pass.lower.visit (rewritten n.provider n.rules tree)).outcome =
      .ok ⟨lowered (rewritten n.provider n.rules tree), true⟩ := rfl
  obtain ⟨-, onceChecked⟩ := keeps_type_and_overloads n tree (.inl closed)
  obtain ⟨type, twiceChecked⟩ := keeps_type_and_overloads n _ (.inr flat)
  exact ⟨_, _, checked, closed, flat, nofun, onceChecked checked,
    twiceChecked (onceChecked checked), type⟩

end QueryDefaults
