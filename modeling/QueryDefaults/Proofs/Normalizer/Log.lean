import QueryDefaults.Proofs.Normalizer.Tally

/-!
# What the normalizer logs

A rule logs a node that it passes by before the operands of the node, and a node that it applies to
behind them, together with counting it. So at every moment, and in particular when an error ends the
run, the log has reported as many applications of each rule as are counted (`accounts_visit`). A run
that ends well has come by every node, so its log is known node by node (`log_visit_settled`), and
each node that a rule looks for is reported once: as applied to, or as passed by
(`log_agrees_with_counts`).
-/

set_option autoImplicit false

namespace QueryDefaults

open Shape

variable {p : Provider} {rules : RuleSet} {rule : Rule} {e : Expr} {shape : Shape}

/-! ## Runs that count what they log -/

/-- How often a log reports that a rule was applied. -/
def appliedIn (log : List Event) (rule : Rule) : Nat :=
  log.countP fun event => event.appliedRule? = some rule

/-- How often a log reports that a rule skipped a node. -/
def skippedIn (log : List Event) (rule : Rule) : Nat :=
  log.countP fun event => event.skippedRule? = some rule

theorem appliedIn_append (first second : List Event) (rule : Rule) :
    appliedIn (first ++ second) rule = appliedIn first rule + appliedIn second rule :=
  List.countP_append

theorem skippedIn_append (first second : List Event) (rule : Rule) :
    skippedIn (first ++ second) rule = skippedIn first rule + skippedIn second rule :=
  List.countP_append

namespace Traced

variable {α β : Type}

/-- A run has counted as many applications of each rule as it has logged. -/
def Accounts (x : Traced RuleCounts α) : Prop := ∀ rule, x.count.of rule = appliedIn x.log rule

theorem accounts_pure (a : α) : (pure a : Traced RuleCounts α).Accounts := RuleCounts.of_zero

theorem accounts_ofExcept (x : Except QueryError α) :
    (ofExcept x : Traced RuleCounts α).Accounts := RuleCounts.of_zero

theorem Accounts.bind {x : Traced RuleCounts α} {f : α → Traced RuleCounts β} (h : x.Accounts)
    (next : ∀ a, (f a).Accounts) : (x >>= f).Accounts := by
  intro rule
  cases done : x.outcome with
  | error err =>
    rw [bind_error f done]
    exact h rule
  | ok a =>
    rw [bind_ok f done, RuleCounts.of_add, appliedIn_append, h rule, next a rule]

/-- An event that reports no application needs no count. -/
theorem accounts_emit {event : Event} (silent : event.appliedRule? = none) :
    (emit event : Traced RuleCounts Unit).Accounts := fun rule => by
  simp [emit, appliedIn, silent]

/-- An application is to be counted when it is logged. -/
theorem accounts_applied {event : Event} (reports : event.appliedRule? = some rule) :
    (do emit event; tally (.one rule) : Traced RuleCounts Unit).Accounts := fun other => by
  simp [emit, tally, Bind.bind, appliedIn, reports, RuleCounts.of_one]

end Traced

/-- If a pass accounts for what it does at each node, it accounts for its whole run. -/
theorem Pass.accounts_visit {δ : Type} {pass : Pass RuleCounts δ}
    (enter : ∀ e, (pass.enter e).Accounts)
    (leave : ∀ decision e visits, (pass.leave decision e visits).Accounts) (e : Expr) :
    (pass.visit e).Accounts := by
  have all : ∀ es : List Expr, (∀ a ∈ es, (pass.visit a).Accounts) → (pass.visitAll es).Accounts := by
    intro es each
    induction es with
    | nil => exact Traced.accounts_pure []
    | cons e es ih =>
      obtain ⟨first, rest⟩ := List.forall_mem_cons.1 each
      rw [visitAll_cons]
      exact first.bind fun _ => (ih rest).bind fun _ => Traced.accounts_pure _
  induction e using Expr.induction_operands with
  | step e ih =>
    rw [visit_eq]
    exact (enter e).bind fun decision => (all _ ih).bind fun visits => leave decision e visits

theorem accounts_enter (p : Provider) (rules : RuleSet) (e : Expr) :
    ((defaultValues p rules).enter e).Accounts := by
  simp only [defaultValues]
  split
  · exact Traced.accounts_pure none
  · split
    · exact (Traced.accounts_ofExcept _).bind fun _ =>
        (Traced.accounts_ofExcept _).bind fun _ => Traced.accounts_pure _
    · exact (Traced.accounts_emit rfl).bind fun _ => Traced.accounts_pure none

theorem accounts_leave (p : Provider) (rules : RuleSet) (decision : Option (Shape × Expr)) (e : Expr)
    (visits : List Visit) : ((defaultValues p rules).leave decision e visits).Accounts := by
  cases decision with
  | none => exact Traced.accounts_pure _
  | some decided =>
    obtain ⟨shape, settled⟩ := decided
    have counted := Traced.accounts_applied (shape.rule_applied visits.length)
    have built : (do
        let tree ← Traced.ofExcept (shape.replacement settled e (visits.map Visit.tree))
        return ⟨tree, true⟩ : Traced RuleCounts Visit).Accounts :=
      (Traced.accounts_ofExcept _).bind fun _ => Traced.accounts_pure _
    have grouped := counted.bind fun _ => built
    rw [bind_assoc] at grouped
    exact grouped

/-- Whether a run of the normalizer ends well or not, it has counted what it has logged. -/
theorem accounts_visit (p : Provider) (rules : RuleSet) (e : Expr) :
    ((defaultValues p rules).visit e).Accounts :=
  Pass.accounts_visit (accounts_enter p rules) (accounts_leave p rules) e

/-! ## What a run comes by -/

/-- The provider that takes every type for one that can be built without arguments. -/
def Provider.ungated (p : Provider) : Provider := { p with hasDefault := fun _ => true }

/-- The nodes that a rule looks for, each with its shape: they would be sites if every type could be
built without arguments. -/
def Candidate (p : Provider) (rules : RuleSet) (e : Expr) (shape : Shape) : Prop :=
  Site p.ungated rules e shape

/-- A node that the given rule looks for. -/
def CandidateOf (p : Provider) (rules : RuleSet) (rule : Rule) (e : Expr) : Prop :=
  ∃ shape, Candidate p rules e shape ∧ shape.rule = rule

/-- A node that the given rule looks for, and whose governing type cannot be built. -/
def SkippedBy (p : Provider) (rules : RuleSet) (rule : Rule) (e : Expr) : Prop :=
  ∃ shape, Candidate p rules e shape ∧ shape.rule = rule ∧ p.hasDefault shape.governing = false

theorem candidate_iff : Candidate p rules e shape ↔ find? p rules e = some shape := by
  have ungated : site? p.ungated rules e = (find? p rules e).filter fun _ => true := rfl
  rw [Candidate, ← site?_eq_some_iff, ungated, Option.filter_eq_some_iff, and_iff_left rfl]

/-- The sites are the candidates that the gate lets through. -/
theorem site_iff_candidate :
    Site p rules e shape ↔ Candidate p rules e shape ∧ p.hasDefault shape.governing = true := by
  rw [← site?_eq_some_iff, candidate_iff, site?, Option.filter_eq_some_iff]

instance : Decidable (CandidateOf p rules rule e) :=
  decidable_of_iff ((find? p rules e).any fun shape => shape.rule = rule) (by
    simp [CandidateOf, candidate_iff, Option.any_eq_true])

instance : Decidable (SkippedBy p rules rule e) :=
  decidable_of_iff
    ((find? p rules e).any fun shape => shape.rule = rule ∧ p.hasDefault shape.governing = false)
    (by simp [SkippedBy, candidate_iff, Option.any_eq_true])

theorem skippedIn_skips (p : Provider) (rules : RuleSet) (e : Expr) (rule : Rule) :
    skippedIn (skips p rules e) rule = if SkippedBy p rules rule e then 1 else 0 := by
  simp only [skips, SkippedBy, candidate_iff]
  cases find? p rules e with
  | none => simp [skippedIn]
  | some shape =>
    cases gate : p.hasDefault shape.governing <;>
    simp [skippedIn, Event.skippedRule?, gate]

/-- A rule skips the candidates that are no sites of it. -/
theorem skippedBy_iff :
    SkippedBy p rules rule e ↔ CandidateOf p rules rule e ∧ ¬ SiteOf p rules rule e := by
  simp only [SkippedBy, CandidateOf, SiteOf, site_iff_candidate, candidate_iff]
  cases find? p rules e with
  | none => simp
  | some shape => cases p.hasDefault shape.governing <;> simp_all

theorem candidateOf_of_siteOf (site : SiteOf p rules rule e) : CandidateOf p rules rule e := by
  obtain ⟨shape, here, is⟩ := site
  exact ⟨shape, (site_iff_candidate.1 here).1, is⟩

theorem countP_candidates (p : Provider) (rules : RuleSet) (rule : Rule) (nodes : List Expr) :
    nodes.countP (fun node => CandidateOf p rules rule node) =
      nodes.countP (fun node => SiteOf p rules rule node) +
        nodes.countP fun node => SkippedBy p rules rule node := by
  rw [List.countP_eq_countP_filter_add nodes _ fun node => SiteOf p rules rule node,
    List.countP_filter, List.countP_filter]
  congr 1 <;> refine List.countP_congr fun node _ => ?_
  · simpa using candidateOf_of_siteOf
  · simp [skippedBy_iff]

/-- What is logged at a node behind its operands: the application of a rule, at a site. -/
def applies (p : Provider) (rules : RuleSet) (e : Expr) : List Event :=
  (site? p rules e).toList.map fun shape => shape.applied e.operands.length

/-- What a run logs that comes by every node of a tree. -/
def Expr.events (p : Provider) (rules : RuleSet) : Expr → List Event :=
  fold fun e below => skips p rules e ++ below.flatten ++ applies p rules e

theorem Expr.events_eq (p : Provider) (rules : RuleSet) (e : Expr) :
    e.events p rules =
      skips p rules e ++ e.operands.flatMap (events p rules) ++ applies p rules e := by
  unfold events
  rw [fold_eq, List.flatMap_def]

/-- At a site nothing is skipped. -/
theorem Site.skips_eq (site : Site p rules e shape) : skips p rules e = [] := by
  obtain ⟨found, gate⟩ := Option.filter_eq_some_iff.1 site.site?_eq
  simp only [skips, found, gate, if_true]

/-- A run that ends well has logged what there is to log at every node. -/
theorem log_visit_settled (ok : Settled p rules e) :
    ((defaultValues p rules).visit e).log = e.events p rules := by
  induction e using Expr.induction_operands with
  | step e ih =>
    obtain ⟨root, rest⟩ := settled_iff_operands.1 ok
    have visited := Pass.visitAll_ok fun a ha => (visit_settled (rest a ha)).1
    have below : ((defaultValues p rules).visitAll e.operands).log =
        e.operands.flatMap (Expr.events p rules) := by
      rw [visited]
      exact List.flatMap_congr fun a ha => ih a ha (rest a ha)
    rw [Expr.events_eq, ← below]
    cases found : site? p rules e with
    | none => simp [visit_of_none found, applies, found]
    | some shape =>
      have site := site?_eq_some_iff.1 found
      obtain ⟨settled, ok⟩ := root shape site
      simp [visit_of_site site ok (congrArg Traced.outcome visited), applies, found, site.skips_eq]

/-- Among these events, each node that a rule skips is reported once. -/
theorem skippedIn_events (p : Provider) (rules : RuleSet) (rule : Rule) (e : Expr) :
    skippedIn (e.events p rules) rule = e.nodes.countP fun node => SkippedBy p rules rule node := by
  induction e using Expr.induction_operands with
  | step e ih =>
    have behind : skippedIn (applies p rules e) rule = 0 := by
      unfold applies
      cases site? p rules e with
      | none => rfl
      | some shape => cases shape <;> rfl
    have below : skippedIn (e.operands.flatMap (Expr.events p rules)) rule =
        (e.operands.flatMap Expr.nodes).countP fun node => SkippedBy p rules rule node := by
      rw [skippedIn, List.countP_flatMap, List.countP_flatMap]
      exact congrArg List.sum (List.map_congr_left ih)
    rw [Expr.events_eq, skippedIn_append, skippedIn_append, skippedIn_skips, below, behind,
      Expr.nodes_eq, List.countP_cons]
    simp [Nat.add_comm]

/-- **The log agrees with the counts.** However a run ends, it has counted as many applications of
each rule as it has logged. When it ends well, the log reports each node that a rule looks for once:
the sites as applied to, and the nodes with a governing type that cannot be built as skipped. -/
theorem log_agrees_with_counts (n : Normalizer) (tree : Expr) :
    let log := (n.run tree).log
    (∀ rule, (n.after tree).counts.of rule = n.counts.of rule + appliedIn log rule) ∧
    ∀ visit, (n.run tree).outcome = .ok visit → ∀ rule,
      appliedIn log rule = tree.nodes.countP (fun node => SiteOf n.provider n.rules rule node) ∧
      skippedIn log rule = tree.nodes.countP (fun node => SkippedBy n.provider n.rules rule node) ∧
      appliedIn log rule + skippedIn log rule =
        tree.nodes.countP fun node => CandidateOf n.provider n.rules rule node := by
  intro log
  have counted : ∀ rule, (n.run tree).count.of rule = appliedIn log rule :=
    accounts_visit n.provider n.rules tree
  refine ⟨fun rule => ?_, fun visit done rule => ?_⟩
  · rw [n.of_counts_after, counted]
  · obtain ⟨ok, -⟩ := visit_eq_ok_iff.1 done
    have applied : appliedIn log rule =
        tree.nodes.countP fun node => SiteOf n.provider n.rules rule node := by
      rw [← counted, countP_nodes]
      exact (visit_settled ok).2 rule
    have skipped : skippedIn log rule =
        tree.nodes.countP fun node => SkippedBy n.provider n.rules rule node :=
      (congrArg (skippedIn · rule) (log_visit_settled ok)).trans
        (skippedIn_events n.provider n.rules rule tree)
    exact ⟨applied, skipped, by rw [applied, skipped, countP_candidates]⟩

/-- Of two `FirstOrDefault` calls one is skipped, because a nullable integer has no default; the other
one is applied to inside a `??`, before a comparison. Behind all of them a comparison fails whose
wrapper takes two arguments, and the log of that run holds the same events. -/
theorem log_agrees_with_counts_skipped :
    let n : Normalizer :=
      { provider := (Registry.standard.registerFamily "Pair" [2]).provider, counts := ⟨1, 0, 0, 0⟩ }
    let wrapper : Ty := .optional "Nullable" .int64
    let pair : Ty := .optional "Pair" .int64
    let param (name : String) (ty : Ty) : Expr := .plain (.parameter name) [] ty
    let first (elem : Ty) : Expr :=
      .call .firstOrDefault [] [.plain (.source "rows") [] (.sequence elem)] elem
    let isNull (name : String) (ty : Ty) : Expr :=
      .binary .equal (param name ty) (.constant .null ty) .bool
    let tree : Expr := .plain .newArray [first wrapper,
      .binary .coalesce (param "x" .int64) (first .int64) .int64, isNull "w" wrapper]
      (.sequence .int64)
    let stuck : Expr := .plain .newArray [tree, isNull "p" pair] (.sequence .int64)
    let events : List Event := [.skipped .firstOrDefault wrapper, .routedCall 1 .int64,
      .terminatedCoalesce .int64, .replacedLiteral wrapper]
    ((n.run tree).log = events ∧ (n.after tree).counts = ⟨1, 1, 1, 1⟩ ∧
      tree.nodes.countP (fun node => SkippedBy n.provider n.rules .firstOrDefault node) = 1 ∧
      tree.nodes.countP (fun node => CandidateOf n.provider n.rules .firstOrDefault node) = 2) ∧
    (n.run stuck).outcome = .error (.wrapperArity pair 2) ∧ (n.run stuck).log = events ∧
      (n.after stuck).counts = ⟨1, 1, 1, 1⟩ := by
  intro n wrapper pair param first isNull tree stuck events
  have logged : (n.run tree).log = events := by decide +kernel
  have stopped : (n.run stuck).log = events := by decide +kernel
  have done : (n.run tree).outcome = .ok ⟨rewritten n.provider n.rules tree, true⟩ := rfl
  obtain ⟨counts, ends⟩ := log_agrees_with_counts n tree
  obtain ⟨counts', -⟩ := log_agrees_with_counts n stuck
  obtain ⟨-, skipped, all⟩ := ends _ done .firstOrDefault
  rw [logged] at counts skipped all
  rw [stopped] at counts'
  exact ⟨⟨logged, RuleCounts.ext_of fun rule => (counts rule).trans (by cases rule <;> rfl),
    skipped.symm, all.symm⟩, rfl, stopped,
    RuleCounts.ext_of fun rule => (counts' rule).trans (by cases rule <;> rfl)⟩

end QueryDefaults
