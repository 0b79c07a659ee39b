import Mathlib.Data.List.Forall2
import QueryDefaults.Expr

/-!
# Folds over query trees

A fold computes something of a tree from the leaves up, and at each node it still sees the node as
it is written. `fold_eq` is its only equation: what holds of all folds is proved by induction over
operands, without a case for each sort of node. The nodes of a tree in pre-order are a fold, and so
are the nodes with their *paths*, the places to take at each operand list on the way from the root.
Many folds rebuild a node over what they made of its operands; such a node has as many operands as
before. Two trees that are related, place by place, are taken apart together (`induction_pairs`).
-/

set_option autoImplicit false

namespace QueryDefaults.Expr

section Fold

variable {α : Type}

mutual

/-- What a node gives, from the node and from what its operands give. -/
def fold (step : Expr → List α → α) : Expr → α
  | .call op typeArgs args ty => step (.call op typeArgs args ty) (foldAll step args)
  | .binary op left right ty =>
    step (.binary op left right ty) [left.fold step, right.fold step]
  | .constant value ty => step (.constant value ty) []
  | .plain kind children ty => step (.plain kind children ty) (foldAll step children)

/-- What several trees give, in order. -/
def foldAll (step : Expr → List α → α) : List Expr → List α
  | [] => []
  | e :: es => e.fold step :: foldAll step es

end

theorem foldAll_eq_map (step : Expr → List α → α) (es : List Expr) :
    foldAll step es = es.map (fold step) := by
  induction es with
  | nil => rfl
  | cons e es ih => rw [foldAll, ih, List.map_cons]

/-- A fold at a node is its step on the node and the folds of the operands. -/
theorem fold_eq (step : Expr → List α → α) (e : Expr) :
    e.fold step = step e (e.operands.map (fold step)) := by
  cases e <;> simp [fold, operands, foldAll_eq_map]

end Fold

/-! ## Nodes over other operands -/

theorem operands_withOperands (e : Expr) (f : Expr → Expr) :
    (e.withOperands (e.operands.map f)).operands = e.operands.map f := by
  cases e <;> rfl

theorem withOperands_withOperands (e : Expr) (f g : Expr → Expr) :
    (e.withOperands (e.operands.map f)).withOperands (e.operands.map g) =
      e.withOperands (e.operands.map g) := by
  cases e <;> rfl

/-! ## Nodes in order -/

/-- The nodes of a tree, each before its operands and these from left to right. -/
def nodes : Expr → List Expr := fold fun e below => e :: below.flatten

/-- The nodes of a tree, each behind its operands and these from left to right. -/
def postorder : Expr → List Expr := fold fun e below => below.flatten ++ [e]

/-- The nodes of several operands, each with the place of its operand in front of its path; the
first operand has the given place. -/
def placed (place : Nat) (below : List (List (List Nat × Expr))) : List (List Nat × Expr) :=
  (below.zipIdx place).flatMap fun (nodes, here) => nodes.map fun node => (here :: node.1, node.2)

/-- The nodes of a tree in the same order, each with its path. -/
def positions : Expr → List (List Nat × Expr) := fold fun e below => ([], e) :: placed 0 below

theorem nodes_eq (e : Expr) : e.nodes = e :: e.operands.flatMap nodes := by
  unfold nodes
  rw [fold_eq, List.flatMap_def]

theorem postorder_eq (e : Expr) : e.postorder = e.operands.flatMap postorder ++ [e] := by
  unfold postorder
  rw [fold_eq, List.flatMap_def]

/-- Both orders have the same nodes. -/
theorem mem_postorder {node e : Expr} : node ∈ e.postorder ↔ node ∈ e.nodes := by
  induction e using induction_operands with
  | step e ih =>
    rw [postorder_eq, nodes_eq, List.mem_append, List.mem_singleton, or_comm, List.mem_cons,
      List.mem_flatMap, List.mem_flatMap]
    exact or_congr_right (exists_congr fun a => and_congr_right fun ha => ih a ha)

/-- A property of all nodes is one of the root and of all nodes below each operand. -/
theorem forall_nodes_iff {P : Expr → Prop} {e : Expr} :
    (∀ node ∈ e.nodes, P node) ↔ P e ∧ ∀ a ∈ e.operands, ∀ node ∈ a.nodes, P node := by
  rw [nodes_eq, List.forall_mem_cons]
  simp only [List.mem_flatMap]
  exact and_congr_right fun _ =>
    ⟨fun h a ha node hnode => h node ⟨a, ha, hnode⟩, fun h node ⟨a, ha, hnode⟩ => h a ha node hnode⟩

theorem any_nodes (p : Expr → Bool) (e : Expr) :
    e.nodes.any p = (p e || e.operands.any fun a => a.nodes.any p) := by
  rw [nodes_eq, List.any_cons, List.any_flatMap]

/-- What only rebuilds the nodes of a tree over their operands leaves the tree as it is. -/
theorem eq_self_of_rebuilds {f : Expr → Expr} {e : Expr}
    (rebuilds : ∀ node ∈ e.nodes, f node = node.withOperands (node.operands.map f)) : f e = e := by
  induction e using induction_operands with
  | step e ih =>
    obtain ⟨root, below⟩ := forall_nodes_iff.1 rebuilds
    have same : e.operands.map f = e.operands := by
      rw [List.map_congr_left fun a ha => ih a ha (below a ha), List.map_id']
    rw [root, same, withOperands_operands]

theorem positions_eq (e : Expr) : e.positions = ([], e) :: placed 0 (e.operands.map positions) := by
  unfold positions
  rw [fold_eq]

@[simp] theorem placed_nil (place : Nat) : placed place [] = [] := rfl

theorem placed_cons (place : Nat) (nodes : List (List Nat × Expr))
    (below : List (List (List Nat × Expr))) :
    placed place (nodes :: below) =
      nodes.map (fun node => (place :: node.1, node.2)) ++ placed (place + 1) below := by
  simp [placed, List.zipIdx_cons]

/-- Paths under later operands start at later places. -/
theorem head_of_mem_placed {place : Nat} {below : List (List (List Nat × Expr))}
    {node : List Nat × Expr} (h : node ∈ placed place below) :
    ∃ first rest, node.1 = first :: rest ∧ place ≤ first := by
  obtain ⟨⟨nodes, first⟩, hmem, hnode⟩ := List.mem_flatMap.1 h
  obtain ⟨inner, -, rfl⟩ := List.mem_map.1 hnode
  exact ⟨first, inner.1, rfl, List.le_snd_of_mem_zipIdx hmem⟩

theorem map_snd_placed (place : Nat) (below : List (List (List Nat × Expr))) :
    (placed place below).map Prod.snd = below.flatMap (List.map Prod.snd) := by
  induction below generalizing place with
  | nil => rfl
  | cons nodes below ih => simp [placed_cons, ih, Function.comp_def]

/-- Without their paths, the positions of a tree are its nodes. -/
theorem map_snd_positions (e : Expr) : e.positions.map Prod.snd = e.nodes := by
  induction e using induction_operands with
  | step e ih =>
    rw [positions_eq, nodes_eq, List.map_cons, map_snd_placed, List.flatMap_map,
      List.flatMap_congr ih]

/-- A property of pairs holds of related trees, if the relation passes to the operands of a node and
the property passes back from them. -/
theorem induction_pairs {T P : Expr → Expr → Prop}
    (operands : ∀ a b, T a b → List.Forall₂ T a.operands b.operands)
    (step : ∀ a b, T a b → List.Forall₂ P a.operands b.operands → P a b) {a b : Expr}
    (h : T a b) : P a b := by
  induction a using induction_operands generalizing b with
  | step a ih =>
    have each : ∀ x ∈ a.operands, ∀ y, T x y → P x y := fun x hx y => ih x hx
    have paired := (List.forall₂_and_left _ _).2 ⟨each, operands a b h⟩
    exact step a b h (paired.imp fun x y both => both.1 y both.2)

end QueryDefaults.Expr
