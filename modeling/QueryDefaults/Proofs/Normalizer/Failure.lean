import QueryDefaults.Proofs.Normalizer.Run

/-!
# Where a run fails

A run of the normalizer fails exactly when the tree has a site that cannot be settled. It stops at
the first such site in pre-order, with the provider's error there, and by then it has counted the
sites that were left before: those earlier in pre-order, without the ancestors of the failing site,
which were entered only (`fails_at_first_failing_site`).
-/

set_option autoImplicit false

namespace QueryDefaults

open Shape

/-- What the provider answers at a site that cannot be settled. The wrapper is asked for only after
the default has been built. -/
inductive SiteError (p : Provider) (rules : RuleSet) (e : Expr) (err : QueryError) : Prop where
  | default {shape : Shape} (site : Site p rules e shape)
      (fails : p.constructDefault shape.governing = .error err)
  | wrapper {wrapper inner : Ty} {value : Value}
      (site : Site p rules e (.nullComparison wrapper inner))
      (built : p.constructDefault inner = .ok value)
      (fails : p.constructWrapper wrapper value = .error err)

/-- A site that cannot be settled. -/
def FailingSite (p : Provider) (rules : RuleSet) (e : Expr) : Prop := ∃ err, SiteError p rules e err

/-- A site of the given rule. -/
def SiteOf (p : Provider) (rules : RuleSet) (rule : Rule) (e : Expr) : Prop :=
  ∃ shape, Site p rules e shape ∧ shape.rule = rule

variable {p : Provider} {rules : RuleSet} {e : Expr} {shape : Shape} {err : QueryError}

theorem any_site?_iff {rule : Rule} :
    (site? p rules e).any (fun shape => shape.rule = rule) = true ↔ SiteOf p rules rule e := by
  simp [Option.any_eq_true, SiteOf, site?_eq_some_iff]

instance (rule : Rule) : Decidable (SiteOf p rules rule e) := decidable_of_iff _ any_site?_iff

theorem siteError_iff :
    SiteError p rules e err ↔ ∃ shape, Site p rules e shape ∧ shape.settle p = .error err := by
  constructor
  · rintro (⟨site, fails⟩ | ⟨site, built, fails⟩)
    · exact ⟨_, site, settle_eq_error.2 (by simp only [filler, fails])⟩
    · exact ⟨_, site, settle_eq_error.2 (by simp only [filler, governing, built, fails])⟩
  · rintro ⟨shape, site, fails⟩
    rw [settle_eq_error] at fails
    unfold filler at fails
    split at fails
    · cases fails
      exact .default site ‹_›
    · exact .wrapper site ‹_› fails
    · cases fails

theorem failingSite_iff :
    FailingSite p rules e ↔ ∃ shape, Site p rules e shape ∧ ∃ err, shape.settle p = .error err := by
  simp only [FailingSite, siteError_iff]
  exact ⟨fun ⟨err, shape, site, fails⟩ => ⟨shape, site, err, fails⟩,
    fun ⟨shape, site, err, fails⟩ => ⟨err, shape, site, fails⟩⟩

/-- At a node without a failing site, a site can be settled. -/
theorem settles_of_not_failing (sound : ¬ FailingSite p rules e) (site : Site p rules e shape) :
    ∃ settled, shape.settle p = .ok settled := by
  cases ok : shape.settle p with
  | ok settled => exact ⟨settled, rfl⟩
  | error err => exact absurd (failingSite_iff.2 ⟨shape, site, err, ok⟩) sound

theorem settled_iff : Settled p rules e ↔ ∀ node ∈ e.nodes, ¬ FailingSite p rules node := by
  unfold Settled Expr.sites
  constructor
  · intro h node hnode failing
    obtain ⟨shape, site, err, fails⟩ := failingSite_iff.1 failing
    obtain ⟨settled, ok⟩ := h shape (List.mem_filterMap.2 ⟨node, hnode, site.site?_eq⟩)
    cases ok.symm.trans fails
  · intro h shape hshape
    obtain ⟨node, hnode, found⟩ := List.mem_filterMap.1 hshape
    exact settles_of_not_failing (h node hnode) (site?_eq_some_iff.1 found)

theorem countP_siteOf (p : Provider) (rules : RuleSet) (rule : Rule) (e : Expr) :
    e.positions.countP (fun x => SiteOf p rules rule x.2) =
      (e.sites p rules).countP fun shape => shape.rule = rule := by
  rw [Expr.sites, List.countP_filterMap, ← Expr.map_snd_positions, List.countP_map]
  refine List.countP_congr fun x _ => ?_
  rw [decide_eq_true_iff, ← any_site?_iff]
  cases found : site? p rules x.2 <;> simp [found]

/-! ## The first failing site -/

/-- How many of the given nodes are sites of a rule that are left before the node at `path` is
entered, that is, sites which are not on the way to it. -/
def leftBefore (p : Provider) (rules : RuleSet) (rule : Rule) (path : List Nat)
    (nodes : List (List Nat × Expr)) : Nat :=
  nodes.countP fun x => SiteOf p rules rule x.2 ∧ ¬ x.1 <+: path

theorem leftBefore_append (rule : Rule) (path : List Nat) (first second : List (List Nat × Expr)) :
    leftBefore p rules rule path (first ++ second) =
      leftBefore p rules rule path first + leftBefore p rules rule path second :=
  List.countP_append

/-- A run over the given nodes ended at the first failing site among them. -/
def StopsAtFirst {α : Type} (p : Provider) (rules : RuleSet) (nodes : List (List Nat × Expr))
    (run : Traced RuleCounts α) : Prop :=
  ∃ before path node after err,
    nodes = before ++ (path, node) :: after ∧ (∀ x ∈ before, ¬ FailingSite p rules x.2) ∧
      SiteError p rules node err ∧ run.outcome = .error err ∧
      ∀ rule, run.count.of rule = leftBefore p rules rule path before

/-- Sites under an earlier operand are left before a later operand is entered. -/
theorem leftBefore_earlier (rule : Rule) {place first : Nat} (later : place < first)
    (rest : List Nat) (e : Expr) :
    leftBefore p rules rule (first :: rest) (e.positions.map fun x => (place :: x.1, x.2)) =
      (e.sites p rules).countP fun shape => shape.rule = rule := by
  rw [← countP_siteOf, leftBefore, List.countP_map]
  refine List.countP_congr fun x _ => ?_
  have apart : place ≠ first := Nat.ne_of_lt later
  simp [List.cons_prefix_cons, apart]

/-- Under one operand, the way to a node is the way from the operand on. -/
theorem leftBefore_under (rule : Rule) (place : Nat) (path : List Nat)
    (nodes : List (List Nat × Expr)) :
    leftBefore p rules rule (place :: path) (nodes.map fun x => (place :: x.1, x.2)) =
      leftBefore p rules rule path nodes := by
  rw [leftBefore, leftBefore, List.countP_map]
  refine List.countP_congr fun x _ => ?_
  simp [List.cons_prefix_cons]

/-- Operands are visited in order, so they stop at the first operand that does. -/
theorem visitAll_stops {es : List Expr} (place : Nat)
    (ih : ∀ a ∈ es, ¬ Settled p rules a →
      StopsAtFirst p rules a.positions ((defaultValues p rules).visit a))
    (stuck : ¬ ∀ a ∈ es, Settled p rules a) :
    StopsAtFirst p rules (Expr.placed place (es.map Expr.positions))
      ((defaultValues p rules).visitAll es) := by
  induction es generalizing place with
  | nil => simp at stuck
  | cons e es ihs =>
    rw [List.map_cons, Expr.placed_cons, Pass.visitAll_cons]
    by_cases ok : Settled p rules e
    -- The first operand ends well and is left before the stop, so all its sites count.
    · obtain ⟨done, counts⟩ := visit_settled ok
      have clear : ∀ x ∈ e.positions, ¬ FailingSite p rules x.2 := fun x hx =>
        settled_iff.1 ok x.2 (Expr.map_snd_positions e ▸ List.mem_map_of_mem hx)
      obtain ⟨before, path, node, after, err, split, sound, fails, stops, count⟩ :=
        ihs (place + 1) (fun a ha => ih a (List.mem_cons_of_mem e ha)) (by simpa [ok] using stuck)
      obtain ⟨first, rest, rfl, later⟩ : ∃ first rest, path = first :: rest ∧ place + 1 ≤ first :=
        Expr.head_of_mem_placed (by rw [split]; exact List.mem_append_right _ List.mem_cons_self)
      rw [Traced.bind_ok _ done, Traced.bind_error _ stops]
      refine ⟨e.positions.map (fun x => (place :: x.1, x.2)) ++ before, first :: rest, node, after,
        err, by rw [split, List.append_assoc], ?_, fails, rfl, fun rule => ?_⟩
      · intro x hx
        obtain hx | hx := List.mem_append.1 hx
        · obtain ⟨inner, hinner, rfl⟩ := List.mem_map.1 hx
          exact clear inner hinner
        · exact sound x hx
      · rw [RuleCounts.of_add, counts, count, leftBefore_append, leftBefore_earlier rule later]
    -- The stop is inside the first operand, and the later ones are not visited.
    · obtain ⟨before, path, node, after, err, split, sound, fails, stops, count⟩ :=
        ih e List.mem_cons_self ok
      rw [Traced.bind_error _ stops]
      refine ⟨before.map fun x => (place :: x.1, x.2), place :: path, node,
        after.map (fun x => (place :: x.1, x.2)) ++ Expr.placed (place + 1) (es.map Expr.positions),
        err, by simp [split], ?_, fails, rfl, fun rule => ?_⟩
      · intro x hx
        obtain ⟨inner, hinner, rfl⟩ := List.mem_map.1 hx
        exact sound inner hinner
      · rw [count, leftBefore_under]

/-- A tree with a failing site stops the run at the first one. The root of the tree is on the way to
every node, so it is not counted. -/
theorem visit_stops (stuck : ¬ Settled p rules e) :
    StopsAtFirst p rules e.positions ((defaultValues p rules).visit e) := by
  induction e using Expr.induction_operands with
  | step e ih =>
    rw [Expr.positions_eq]
    by_cases failing : FailingSite p rules e
    · obtain ⟨err, fails⟩ := failing
      obtain ⟨shape, site, unsettled⟩ := siteError_iff.1 fails
      refine ⟨[], [], e, _, err, rfl, by simp, fails, ?_, fun rule => ?_⟩ <;>
        rw [visit_of_failing site unsettled]
      exact RuleCounts.of_zero rule
    · have root : ∀ shape, Site p rules e shape → ∃ settled, shape.settle p = .ok settled :=
        fun shape site => settles_of_not_failing failing site
      have below : ¬ ∀ a ∈ e.operands, Settled p rules a :=
        fun all => stuck (settled_iff_operands.2 ⟨root, all⟩)
      obtain ⟨before, path, node, after, err, split, sound, fails, stops, count⟩ :=
        visitAll_stops 0 ih below
      have stopped : ((defaultValues p rules).visit e).outcome = .error err ∧
          ((defaultValues p rules).visit e).count =
            ((defaultValues p rules).visitAll e.operands).count := by
        cases found : site? p rules e with
        | none => simp [visit_of_none found, stops, Except.map]
        | some shape =>
          have site := site?_eq_some_iff.1 found
          obtain ⟨settled, ok⟩ := root shape site
          simp [visit_of_site_error site ok stops]
      refine ⟨([], e) :: before, path, node, after, err, by rw [split, List.cons_append], ?_, fails,
        stopped.1, fun rule => ?_⟩
      · intro x hx
        obtain rfl | hx := List.mem_cons.1 hx
        · exact failing
        · exact sound x hx
      · rw [stopped.2, count, leftBefore, leftBefore, List.countP_cons_of_neg]
        simp

/-! ## The law -/

/-- A site fails in one way only. -/
theorem SiteError.unique {other : QueryError} (h : SiteError p rules e err)
    (h' : SiteError p rules e other) : err = other := by
  obtain ⟨shape, site, fails⟩ := siteError_iff.1 h
  obtain ⟨shape', site', fails'⟩ := siteError_iff.1 h'
  obtain rfl : shape = shape' := Option.some.inj (site.site?_eq.symm.trans site'.site?_eq)
  exact Except.error.inj (fails.symm.trans fails')

/-- A list has one first place where a property holds. -/
theorem first_unique {α : Type} (holds : α → Prop) {before before' after after' : List α} {x x' : α}
    (split : before ++ x :: after = before' ++ x' :: after') (sound : ∀ y ∈ before, ¬ holds y)
    (hx : holds x) (sound' : ∀ y ∈ before', ¬ holds y) (hx' : holds x') :
    before = before' ∧ x = x' := by
  induction before generalizing before' with
  | nil =>
    cases before' with
    | nil => exact ⟨rfl, (List.cons.inj split).1⟩
    | cons y before' =>
      obtain rfl := (List.cons.inj split).1
      exact absurd hx (sound' x List.mem_cons_self)
  | cons y before ih =>
    cases before' with
    | nil =>
      obtain rfl := (List.cons.inj split).1
      exact absurd hx' (sound y List.mem_cons_self)
    | cons y' before' =>
      obtain ⟨rfl, tails⟩ := List.cons.inj split
      obtain ⟨rfl, rfl⟩ := ih tails (fun z hz => sound z (List.mem_cons_of_mem y hz))
        fun z hz => sound' z (List.mem_cons_of_mem y hz)
      exact ⟨rfl, rfl⟩

/-- A run ends well exactly on the trees whose sites can all be settled. -/
theorem visit_eq_ok_iff {visit : Visit} :
    ((defaultValues p rules).visit e).outcome = .ok visit ↔
      Settled p rules e ∧ visit = ⟨rewritten p rules e, !(e.sites p rules).isEmpty⟩ := by
  constructor
  · intro done
    by_cases ok : Settled p rules e
    · exact ⟨ok, Except.ok.inj (done.symm.trans (visit_settled ok).1)⟩
    · obtain ⟨_, _, _, _, err, -, -, -, stops, -⟩ := visit_stops ok
      cases done.symm.trans stops
  · rintro ⟨ok, rfl⟩
    exact (visit_settled ok).1

/-- What a run ends with is what the provider answers at some site of the tree. -/
theorem siteError_of_visit (fails : ((defaultValues p rules).visit e).outcome = .error err) :
    ∃ node ∈ e.nodes, SiteError p rules node err := by
  have stuck : ¬ Settled p rules e := fun ok => by cases fails.symm.trans (visit_settled ok).1
  obtain ⟨before, path, node, after, other, split, -, here, stops, -⟩ := visit_stops stuck
  cases fails.symm.trans stops
  refine ⟨node, ?_, here⟩
  rw [← Expr.map_snd_positions, split]
  simp

/-- A run ends with an error exactly on the trees with a site that cannot be settled. -/
theorem visit_fails_iff :
    (∃ err, ((defaultValues p rules).visit e).outcome = .error err) ↔
      ∃ node ∈ e.nodes, FailingSite p rules node := by
  constructor
  · rintro ⟨err, fails⟩
    by_contra clear
    have ok : Settled p rules e :=
      settled_iff.2 fun node hnode failing => clear ⟨node, hnode, failing⟩
    cases fails.symm.trans (visit_settled ok).1
  · rintro ⟨node, hnode, failing⟩
    obtain ⟨_, _, _, _, err, -, -, -, stops, -⟩ := visit_stops fun ok : Settled p rules e =>
      settled_iff.1 ok node hnode failing
    exact ⟨err, stops⟩

/-- **The failure law.** A run fails exactly when the tree has a failing site. It fails with an
error exactly when this is the provider's error at the first failing site in pre-order, and then the
counts have grown by the sites that come before it and are not on the way to it. -/
theorem fails_at_first_failing_site (n : Normalizer) (tree : Expr) :
    ((∃ err, (n.run tree).outcome = .error err) ↔
      ∃ node ∈ tree.nodes, FailingSite n.provider n.rules node) ∧
    ∀ err, (n.run tree).outcome = .error err ↔
      ∃ before path node after, tree.positions = before ++ (path, node) :: after ∧
        (∀ x ∈ before, ¬ FailingSite n.provider n.rules x.2) ∧
        SiteError n.provider n.rules node err ∧
        ∀ rule, (n.after tree).counts.of rule =
          n.counts.of rule + leftBefore n.provider n.rules rule path before := by
  refine ⟨visit_fails_iff, fun err => ⟨fun fails => ?_, ?_⟩⟩
  · have stuck : ¬ Settled n.provider n.rules tree := fun ok => by
      cases fails.symm.trans (visit_settled ok).1
    obtain ⟨before, path, node, after, other, split, sound, here, stops, count⟩ := visit_stops stuck
    obtain rfl : err = other := Except.error.inj (fails.symm.trans stops)
    refine ⟨before, path, node, after, split, sound, here, fun rule => ?_⟩
    rw [← count rule]
    exact RuleCounts.of_add _ _ rule
  · rintro ⟨before, path, node, after, split, sound, here, -⟩
    have inside : node ∈ tree.nodes := by
      rw [← Expr.map_snd_positions, split]
      simp
    have stuck : ¬ Settled n.provider n.rules tree := fun ok =>
      settled_iff.1 ok node inside ⟨err, here⟩
    obtain ⟨before', path', node', after', other, split', sound', here', stops, -⟩ :=
      visit_stops stuck
    obtain ⟨-, same⟩ := first_unique (fun x => FailingSite n.provider n.rules x.2)
      (split.symm.trans split') sound ⟨err, here⟩ sound' ⟨other, here'⟩
    cases same
    rw [here.unique here']
    exact stops

end QueryDefaults
