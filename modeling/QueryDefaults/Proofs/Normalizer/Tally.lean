import QueryDefaults.Proofs.Normalizer.Failure
import QueryDefaults.Registry.Default

/-!
# What a normalizer counts

A normalizer goes on counting from tree to tree. What it makes of a tree does not depend on what it
counted before, and a tree that ends well adds every one of its sites once, to the count of the rule
of the site (`every_site_counted_once`).
-/

set_option autoImplicit false

namespace QueryDefaults

variable {p : Provider} {rules : RuleSet}

/-- The sites of a rule among the nodes of a tree are the shapes of that rule. -/
theorem countP_nodes (p : Provider) (rules : RuleSet) (rule : Rule) (e : Expr) :
    e.nodes.countP (fun node => SiteOf p rules rule node) =
      (e.sites p rules).countP fun shape => shape.rule = rule := by
  rw [← countP_siteOf, ← Expr.map_snd_positions, List.countP_map]
  rfl

namespace Normalizer

/-- The normalizer after several trees, one after another. A tree may have failed. -/
def afterAll (n : Normalizer) (trees : List Expr) : Normalizer := trees.foldl after n

theorem afterAll_cons (n : Normalizer) (tree : Expr) (trees : List Expr) :
    n.afterAll (tree :: trees) = (n.after tree).afterAll trees := rfl

theorem of_counts_after (n : Normalizer) (tree : Expr) (rule : Rule) :
    (n.after tree).counts.of rule = n.counts.of rule + (n.run tree).count.of rule :=
  RuleCounts.of_add _ _ rule

/-- Trees change the counts of a normalizer only. -/
theorem run_afterAll (n : Normalizer) (trees : List Expr) : (n.afterAll trees).run = n.run := by
  induction trees generalizing n with
  | nil => rfl
  | cons tree trees ih =>
    rw [afterAll_cons, ih]
    rfl

/-- The counts after several trees are those before, and what each tree adds. -/
theorem of_counts_afterAll (n : Normalizer) (trees : List Expr) (rule : Rule) :
    (n.afterAll trees).counts.of rule =
      n.counts.of rule + (trees.map fun tree => (n.run tree).count.of rule).sum := by
  induction trees generalizing n with
  | nil => rfl
  | cons tree trees ih =>
    have same : (n.after tree).run = n.run := rfl
    rw [afterAll_cons, ih, same, of_counts_after, List.map_cons, List.sum_cons, Nat.add_assoc]

end Normalizer

/-- **The tally.** After any trees, failed ones too, a normalizer makes of a tree what a fresh one
makes of it. It ends well exactly when the tree has no failing site; then the tree is the one with
every site replaced, and each count has grown by the number of nodes that are sites of its rule. -/
theorem every_site_counted_once (n : Normalizer) (earlier : List Expr) (tree : Expr) :
    let used := n.afterAll earlier
    let fresh : Normalizer := { provider := n.provider, rules := n.rules }
    (used.run tree).outcome = (fresh.run tree).outcome ∧
    ((∃ visit, (used.run tree).outcome = .ok visit) ↔
      ∀ node ∈ tree.nodes, ¬ FailingSite n.provider n.rules node) ∧
    (∀ visit, (used.run tree).outcome = .ok visit →
      visit.tree = rewritten n.provider n.rules tree ∧
      ∀ rule, (used.after tree).counts.of rule = used.counts.of rule +
        tree.nodes.countP fun node => SiteOf n.provider n.rules rule node) ∧
    ∀ rule, used.counts.of rule =
      n.counts.of rule + (earlier.map fun tree => (n.run tree).count.of rule).sum := by
  intro used fresh
  have same : used.run = n.run := n.run_afterAll earlier
  refine ⟨by rw [same]; rfl, ?_, ?_, n.of_counts_afterAll earlier⟩
  · rw [same, ← settled_iff]
    exact ⟨fun ⟨_, done⟩ => (visit_eq_ok_iff.1 done).1, fun ok => ⟨_, visit_eq_ok_iff.2 ⟨ok, rfl⟩⟩⟩
  · intro visit done
    rw [same] at done
    obtain ⟨ok, rfl⟩ := visit_eq_ok_iff.1 done
    refine ⟨rfl, fun rule => ?_⟩
    rw [Normalizer.of_counts_after, same, countP_nodes]
    exact congrArg _ ((visit_settled ok).2 rule)

/-- A tree that fails behind its first site leaves one `??` counted. The tree after it has a `??` in
a lambda below another site, and each of the two is counted once. -/
theorem every_site_counted_once_after_failure :
    let n : Normalizer := { provider := (Registry.standard.registerFamily "Pair" [2]).provider }
    let param (name : String) (ty : Ty) : Expr := .plain (.parameter name) [] ty
    let pair : Ty := .optional "Pair" .int64
    let body : Expr := .binary .coalesce (param "x" .int64) (param "y" .int64) .int64
    let stuck : Expr := .plain .newArray
      [body, .binary .equal (param "p" pair) (.constant .null pair) .bool] (.sequence .int64)
    let selector : Expr := .plain (.lambda ["x"]) [body] (.function [.int64] .int64)
    let source : Expr := .plain (.source "rows") [] (.sequence .int64)
    let tree : Expr := .call .firstOrDefault []
      [.call .select [] [source, selector] (.sequence .int64)] .int64
    let used := n.afterAll [stuck]
    (n.run stuck).outcome = .error (.wrapperArity pair 2) ∧ used.counts = ⟨0, 0, 1, 0⟩ ∧
      (used.run tree).outcome = .ok ⟨rewritten n.provider n.rules tree, true⟩ ∧
      (used.after tree).counts = ⟨0, 1, 2, 0⟩ := by
  intro n param pair body stuck selector source tree used
  obtain ⟨-, -, counted, before⟩ := every_site_counted_once n [stuck] tree
  have counts : used.counts = ⟨0, 0, 1, 0⟩ := by
    refine RuleCounts.ext_of fun rule => ?_
    rw [before rule]
    cases rule <;> rfl
  have done : (used.run tree).outcome = .ok ⟨rewritten n.provider n.rules tree, true⟩ := rfl
  obtain ⟨-, grows⟩ := counted _ done
  refine ⟨rfl, counts, done, RuleCounts.ext_of fun rule => ?_⟩
  rw [grows rule, counts]
  cases rule <;> rfl

end QueryDefaults
