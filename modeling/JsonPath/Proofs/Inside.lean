import JsonPath.Proofs.Agreement
import JsonPath.Proofs.Descent
import JsonPath.Proofs.Parameters
import JsonPath.Proofs.Singular

/-!
# What is found is in the document

A selector picks among the children of a node. So whatever the functions do, a segment finds only
what is inside the nodes that it is applied to, and nothing below a scalar (`Segment.apply_returns`,
`applyAll_yields`). The value of an expression may have passed through functions. It holds nodes of
the document as long as no function makes up any (`Expr.evaluate_isInside`).
-/

namespace JsonPath

open JsonPath.Function (Kind)

/-! ## Nodes inside nodes -/

namespace Json

variable {n m k : Json}

/-- A value is inside another one if it is found at a location there. -/
theorem mem_nodes_iff : m ∈ n.nodes ↔ ∃ l, n.locate? l = some m := by
  rw [nodes, List.mem_filterMap]
  constructor
  · rintro ⟨l, -, hl⟩
    exact ⟨l, hl⟩
  · rintro ⟨l, hl⟩
    refine ⟨l, ?_, hl⟩
    rw [mem_locations, hl]
    rfl

theorem mem_nodes_self (n : Json) : n ∈ n.nodes := mem_nodes_iff.mpr ⟨[], by rw [locate?]⟩

/-- What is inside a value inside another one is inside that one. -/
theorem mem_nodes_trans (h : m ∈ n.nodes) (hk : k ∈ m.nodes) : k ∈ n.nodes := by
  obtain ⟨l, hl⟩ := mem_nodes_iff.mp h
  obtain ⟨l', hl'⟩ := mem_nodes_iff.mp hk
  refine mem_nodes_iff.mpr ⟨l ++ l', ?_⟩
  rw [locate?_append, hl, Option.bind_some, hl']

/-- It is one of the children of a value, or inside one of them. -/
def IsBelow (m n : Json) : Prop := ∃ c ∈ n.children, m ∈ c.nodes

/-- What is below a value is inside it. -/
theorem IsBelow.mem_nodes (h : m.IsBelow n) : m ∈ n.nodes := by
  obtain ⟨c, hc, hm⟩ := h
  rw [nodes_eq]
  exact List.mem_cons_of_mem n (List.mem_flatMap.mpr ⟨c, hc, hm⟩)

theorem isBelow_of_mem_children (h : m ∈ n.children) : m.IsBelow n := ⟨m, h, m.mem_nodes_self⟩

/-- What is below a node inside a value is below the value. -/
theorem IsBelow.of_mem_nodes (h : k.IsBelow m) (hm : m ∈ n.nodes) : k.IsBelow n := by
  rw [nodes_eq] at hm
  rcases List.mem_cons.mp hm with rfl | hm
  · exact h
  · obtain ⟨c, hc, hm⟩ := List.mem_flatMap.mp hm
    exact ⟨c, hc, mem_nodes_trans hm h.mem_nodes⟩

/-- The value of a member is a child of the object. -/
theorem mem_children_of_member? {name : String} {members : List (String × Json)} {n : Json}
    (h : member? name members = some n) : n ∈ (object members).children := by
  obtain ⟨m, hm, rfl⟩ := Option.map_eq_some_iff.mp h
  exact List.mem_map_of_mem (List.mem_of_find?_eq_some hm)

end Json

/-! ## What segments find -/

namespace Query

/-- Every selector but a filter picks among the children. -/
theorem Selector.picks_subset (s : Selector) (n : Json) : s.picks n ⊆ n.children := by
  intro m hm
  -- A name picks from objects only and an index from arrays only; all other pairs pick nothing.
  match s, n with
  | .name _, .object _ => exact Json.mem_children_of_member? (Option.mem_toList.mp hm)
  | .shorthand _, .object _ => exact Json.mem_children_of_member? (Option.mem_toList.mp hm)
  | .wildcard, _ => exact hm
  | .index i, .array items =>
    obtain ⟨k, -, hk⟩ := Option.bind_eq_some_iff.mp (Option.mem_toList.mp hm)
    exact List.mem_of_getElem? hk
  | .slice s, .array items =>
    obtain ⟨k, -, hk⟩ := List.mem_filterMap.mp hm
    exact List.mem_of_getElem? hk
  | .filter _, _ => cases hm

section Lists

variable {visit : Json → Eval (List Json)} {ns : List Json}

/-- What passes a test was there before. -/
theorem keep_returns (test : Json → Eval Bool) (ns : List Json) :
    (keep test ns).Returns fun found => found ⊆ ns := by
  induction ns with
  | nil => exact Eval.returns_pure (List.Subset.refl _)
  | cons n ns ih =>
    refine (Eval.returns_true _).bind fun holds _ => ih.bind fun others h => Eval.returns_pure ?_
    split
    · exact List.cons_subset_cons n h
    · exact List.subset_cons_of_subset n h

/-- What is gathered was found from one of the nodes, and has what is known of such a find. -/
theorem gather_returns {P : Json → Json → Prop}
    (hv : ∀ n ∈ ns, (visit n).Returns fun found => ∀ m ∈ found, P m n) :
    (gather visit ns).Returns fun found => ∀ m ∈ found, ∃ n ∈ ns, P m n := by
  induction ns with
  | nil => exact Eval.returns_pure nofun
  | cons n ns ih =>
    obtain ⟨hn, hns⟩ := List.forall_mem_cons.mp hv
    refine hn.bind fun here h => (ih hns).bind fun others h' => Eval.returns_pure ?_
    refine List.forall_mem_append.mpr ⟨fun m hm => ?_, fun m hm => ?_⟩
    · exact ⟨n, List.mem_cons_self, h m hm⟩
    · obtain ⟨n', hn', hP⟩ := h' m hm
      exact ⟨n', List.mem_cons_of_mem n hn', hP⟩

end Lists

variable (ctx : Context)

/-- A selector picks among the children. -/
theorem Selector.select_returns (s : Selector) (n : Json) :
    (s.select ctx n).Returns fun found => found ⊆ n.children := by
  cases s with
  | filter e => exact keep_returns _ _
  | name | shorthand | wildcard | index | slice =>
    rw [Selector.select_eq_picks]
    · exact Eval.returns_pure (Selector.picks_subset _ n)
    · intro e h
      cases h

/-- Several selectors pick among the children. -/
theorem selectAll_returns (ss : List Selector) (n : Json) :
    (selectAll ctx ss n).Returns fun found => found ⊆ n.children := by
  induction ss with
  | nil => exact Eval.returns_pure nofun
  | cons s ss ih =>
    exact (s.select_returns ctx n).bind fun _ h => ih.bind fun _ h' =>
      Eval.returns_pure (List.append_subset.mpr ⟨h, h'⟩)

/-- Visits that find children find what is below the node where the visiting started. -/
theorem Reach.visit_returns {visit : Json → Eval (List Json)}
    (hv : ∀ n, (visit n).Returns fun found => found ⊆ n.children) (reach : Reach) (n : Json) :
    (reach.visit visit n).Returns fun found => ∀ m ∈ found, m.IsBelow n := by
  have hbelow : ∀ n, (visit n).Returns fun found => ∀ m ∈ found, m.IsBelow n :=
    fun n => (hv n).imp fun found h m hm => Json.isBelow_of_mem_children (h hm)
  cases reach with
  | children => exact hbelow n
  | descendants =>
    rw [Reach.visit, descend_eq_gather]
    refine (gather_returns (P := Json.IsBelow) fun m _ => ?_).imp fun found h m hm => ?_
    · exact (Eval.returns_true _).bind fun _ _ => hbelow m
    · obtain ⟨k, hk, hmk⟩ := h m hm
      exact hmk.of_mem_nodes hk

/-- A segment finds what is below the node that it visits. -/
theorem Segment.visit_returns (s : Segment) (n : Json) :
    (s.visit ctx n).Returns fun found => ∀ m ∈ found, m.IsBelow n := by
  cases s with
  | dot reach s => exact reach.visit_returns (s.select_returns ctx) n
  | brackets reach ss => exact reach.visit_returns (selectAll_returns ctx ss) n

/-- A segment finds what is below the nodes that it is applied to. -/
theorem Segment.apply_returns (s : Segment) (ns : List Json) :
    (s.apply ctx ns).Returns fun found => ∀ m ∈ found, ∃ n ∈ ns, m.IsBelow n := by
  rw [s.apply_eq]
  exact (Eval.returns_true _).bind fun _ _ => gather_returns fun n _ => s.visit_returns ctx n

/-- Segments find what is inside the nodes that they are applied to. -/
theorem applyAll_returns (ss : List Segment) (ns : List Json) :
    (applyAll ctx ss ns).Returns fun found => ∀ m ∈ found, ∃ n ∈ ns, m ∈ n.nodes := by
  -- The nodes found by one segment are where the next one starts.
  induction ss generalizing ns with
  | nil => exact Eval.returns_pure fun m hm => ⟨m, hm, m.mem_nodes_self⟩
  | cons s ss ih =>
    refine (s.apply_returns ctx ns).bind fun between hbetween => ?_
    refine (ih between).imp fun found h m hm => ?_
    obtain ⟨k, hk, hmk⟩ := h m hm
    obtain ⟨n, hn, hkn⟩ := hbetween k hk
    exact ⟨n, hn, Json.mem_nodes_trans hkn.mem_nodes hmk⟩

/-! ### Nothing is below a scalar -/

variable {n : Json}

/-- Every selector picks nothing from a value without children, and no filter starts there. -/
theorem Selector.select_of_children_eq_nil (h : n.children = []) (s : Selector) :
    s.select ctx n = pure [] := by
  cases s with
  | filter e => rw [Selector.select, h, keep]
  | name | shorthand | wildcard | index | slice =>
    rw [Selector.select_eq_picks]
    · exact congrArg pure (List.eq_nil_of_subset_nil (h ▸ Selector.picks_subset _ n))
    · intro e h
      cases h

/-- Several selectors pick nothing from a value without children. -/
theorem selectAll_of_children_eq_nil (h : n.children = []) (ss : List Selector) :
    selectAll ctx ss n = pure [] := by
  induction ss with
  | nil => rfl
  | cons s ss ih => rw [selectAll, s.select_of_children_eq_nil ctx h, ih]; rfl

theorem Reach.visit_yields {visit : Json → Eval (List Json)} (hv : visit n = pure [])
    (h : n.children = []) (reach : Reach) : (reach.visit visit n).Yields [] := by
  cases reach with
  | children => rw [Reach.visit, hv]; exact .pure []
  | descendants =>
    rw [Reach.visit, descend_eq, hv, h]
    exact .bind .poll (.pure [])

/-- A segment finds nothing from a value without children. -/
theorem Segment.visit_yields (h : n.children = []) (s : Segment) :
    (s.visit ctx n).Yields [] := by
  cases s with
  | dot reach s => exact reach.visit_yields (s.select_of_children_eq_nil ctx h) h
  | brackets reach ss => exact reach.visit_yields (selectAll_of_children_eq_nil ctx h ss) h

theorem gather_yields {visit : Json → Eval (List Json)} {ns : List Json}
    (hv : ∀ n ∈ ns, (visit n).Yields []) : (gather visit ns).Yields [] := by
  induction ns with
  | nil => exact .pure []
  | cons n ns ih =>
    obtain ⟨hn, hns⟩ := List.forall_mem_cons.mp hv
    exact hn.bind ((ih hns).bind (.pure []))

/-- From values without children, a segment finds nothing. -/
theorem Segment.apply_yields {ns : List Json} (h : ∀ n ∈ ns, n.children = []) (s : Segment) :
    (s.apply ctx ns).Yields [] := by
  rw [s.apply_eq]
  exact .bind .poll (gather_yields fun n hn => s.visit_yields ctx (h n hn))

/-- From values without children, segments find nothing. -/
theorem applyAll_yields {ss : List Segment} (hss : ss ≠ []) {ns : List Json}
    (h : ∀ n ∈ ns, n.children = []) : (applyAll ctx ss ns).Yields [] := by
  induction ss generalizing ns with
  | nil => exact absurd rfl hss
  | cons s ss ih =>
    rw [applyAll]
    refine (s.apply_yields ctx h).bind ?_
    cases ss with
    | nil => exact .pure []
    | cons s' ss => exact ih (List.cons_ne_nil s' ss) nofun

end Query

/-! ## What values hold -/

/-- The nodes that a value stands for. -/
def Value.held : Value → List Json
  | .node n => [n]
  | .nodes ns => ns
  | _ => []

/-- The value stands for nodes of a document only. -/
def Value.IsInside (v : Value) (document : Json) : Prop := ∀ n ∈ v.held, n ∈ document.nodes

theorem Value.isInside_of_held_eq_nil {v : Value} (h : v.held = []) (document : Json) :
    v.IsInside document := by
  intro n hn
  rw [h] at hn
  cases hn

namespace Function

/-- To hand over a value as another kind may lose its nodes, but makes up none. -/
theorem Kind.held_coerce_subset (k : Kind) (v : Value) : (k.coerce v).held ⊆ v.held := by
  match k, v with
  | .value, .nodes [n] => exact List.Subset.refl _
  | .value, .nodes [] | .value, .nodes (_ :: _ :: _) => exact List.nil_subset _
  | .value, .nothing | .value, .logical _ | .value, .node _ | .value, .primitive _ =>
    exact List.Subset.refl _
  | .logical, _ => exact List.nil_subset _
  | .nodes, .nothing | .nodes, .logical _ | .nodes, .node _ | .nodes, .nodes _
  | .nodes, .primitive _ => exact List.Subset.refl _

/-- The function makes up no nodes: each one that it answers with is among its arguments, or inside
one of them. -/
def StaysInside (f : Function) : Prop :=
  ∀ vs, List.Forall₂ Kind.Grants f.parameters vs →
    (f.body.run vs).Returns fun v => ∀ n ∈ v.held, ∃ m ∈ vs.flatMap Value.held, n ∈ m.nodes

/-- A pure function that answers with nodes of its arguments makes up none. -/
theorem staysInside_ofPure {f : Function} {g : List Value → Value} (hbody : f.body = .ofPure g)
    (hg : ∀ vs, (g vs).held ⊆ vs.flatMap Value.held) : f.StaysInside := by
  intro vs _
  rw [hbody]
  have hrun : ((Body.ofPure g).run vs).Returns (· = g vs) :=
    (Eval.returns_true _).bind fun _ _ => Eval.returns_pure rfl
  refine hrun.imp fun v hv n hn => ⟨n, hg vs (hv ▸ hn), n.mem_nodes_self⟩

/-- Functions of one value hold what is made of their first argument. -/
theorem held_unary_subset {f : Value → Value} (hf : ∀ v, (f v).held ⊆ v.held) (vs : List Value) :
    ((vs.head?.map f).getD .nothing).held ⊆ vs.flatMap Value.held := by
  cases vs with
  | nil => exact List.nil_subset _
  | cons v vs => exact List.Subset.trans (hf v) (List.subset_append_left _ _)

/-- A function that matches a pattern answers with a truth value and holds no nodes. -/
theorem staysInside_matching {f : Function} {extent : Regex.Extent}
    (hbody : f.body = .matching extent) : f.StaysInside := by
  intro vs _
  rw [hbody]
  refine (Eval.returns_true _).bind fun subject _ => ?_
  cases subject with
  | none => exact Eval.returns_pure nofun
  | some texts => exact (Eval.returns_true _).bind fun compiled _ => Eval.returns_pure nofun

theorem held_countValue (n : Nat) : (countValue n).held = [] := by
  unfold countValue
  split <;> rfl

theorem held_lengthOf (v : Value) : (lengthOf v).held = [] := by
  unfold lengthOf
  split
  · exact held_countValue _
  · exact held_countValue _
  · split
    · exact held_countValue _
    · rfl

theorem held_countOf (v : Value) : (countOf v).held = [] := by
  unfold countOf
  split
  · exact held_countValue _
  · rfl

/-- The value of a list of nodes is its only node. -/
theorem held_valueOf_subset (v : Value) : (valueOf v).held ⊆ v.held := by
  unfold valueOf
  split
  · exact List.Subset.refl _
  · exact List.nil_subset _

end Function

namespace Registry

/-- No function makes up nodes. -/
def StaysInside (functions : Registry) : Prop := ∀ f ∈ functions.functions, f.StaysInside

/-- Whatever is called by name, with values of the document, answers with such a value. -/
theorem call_isInside {functions : Registry} (hf : functions.StaysInside) {document : Json}
    {vs : List Value} (hvs : ∀ v ∈ vs, v.IsInside document) (name : String) :
    (functions.call name vs).Returns (·.IsInside document) := by
  have hnothing : (pure .nothing : Eval Value).Returns (·.IsInside document) :=
    Eval.returns_pure (Value.isInside_of_held_eq_nil rfl _)
  unfold call
  cases hlookup : functions.lookup? name with
  | none => exact hnothing
  | some f =>
    simp only [Function.invoke]
    split
    · next hlen =>
      have hgrants := Function.forall₂_grants hlen
      refine (hf f (List.mem_of_find?_eq_some hlookup) _ hgrants).imp fun v h n hn => ?_
      obtain ⟨m, hm, hnm⟩ := h n hn
      obtain ⟨w, hw, hmw⟩ := List.mem_flatMap.mp hm
      -- what is handed over stands for nodes of the argument that it is made from
      rw [← List.map_uncurry_zip_eq_zipWith] at hw
      obtain ⟨⟨k, v'⟩, hmem, rfl⟩ := List.mem_map.mp hw
      have hm' := hvs v' (List.of_mem_zip hmem).2 m (k.held_coerce_subset v' hmw)
      exact Json.mem_nodes_trans hm' hnm
    · exact hnothing

/-- No function that is built in makes up nodes. -/
theorem builtin_staysInside : builtin.StaysInside := by
  refine forall_mem_extend (List.forall_mem_nil _) ?_
  simp only [Function.builtins, List.forall_mem_cons]
  refine ⟨?_, ?_, ?_, Function.staysInside_matching rfl, Function.staysInside_matching rfl,
    List.forall_mem_nil _⟩
  · refine Function.staysInside_ofPure rfl (Function.held_unary_subset fun v => ?_)
    exact Function.held_lengthOf v ▸ List.nil_subset _
  · refine Function.staysInside_ofPure rfl (Function.held_unary_subset fun v => ?_)
    exact Function.held_countOf v ▸ List.nil_subset _
  · exact Function.staysInside_ofPure rfl (Function.held_unary_subset Function.held_valueOf_subset)

end Registry

namespace Query

variable {ctx : Context} {current : Json}

/-- From nodes of the document, segments find nodes of the document. -/
theorem applyAll_isInside (ss : List Segment) {ns : List Json}
    (h : ∀ n ∈ ns, n ∈ ctx.root.nodes) :
    (applyAll ctx ss ns).Returns fun found => ∀ m ∈ found, m ∈ ctx.root.nodes := by
  refine (applyAll_returns ctx ss ns).imp fun found hfound m hm => ?_
  obtain ⟨n, hn, hmn⟩ := hfound m hm
  exact Json.mem_nodes_trans (h n hn) hmn

theorem Anchor.node_mem (a : Anchor) (h : current ∈ ctx.root.nodes) :
    ∀ n ∈ [a.node ctx current], n ∈ ctx.root.nodes := by
  refine List.forall_mem_singleton.mpr ?_
  cases a with
  | root => exact ctx.root.mem_nodes_self
  | current => exact h

mutual

/-- At a node of the document, every expression stands for nodes of the document only. -/
theorem Expr.evaluate_isInside (hf : ctx.functions.StaysInside) (h : current ∈ ctx.root.nodes)
    (e : Expr) : (e.evaluate ctx current).Returns (·.IsInside ctx.root) := by
  -- Truth values and literals hold no nodes, so only embedded queries and calls are left, and what
  -- hands their values on.
  match e with
  | .integer _ | .float _ | .string _ | .bool _ | .null =>
    exact Eval.returns_pure (Value.isInside_of_held_eq_nil rfl _)
  | .single a ss =>
    refine (applyAll_isInside ss (a.node_mem h)).bind fun found hfound => Eval.returns_pure ?_
    split
    · exact hfound
    · exact hfound
  | .nodes a ss =>
    exact (applyAll_isInside ss (a.node_mem h)).bind fun found hfound => Eval.returns_pure hfound
  | .not e =>
    refine (e.evaluate_isInside hf h).bind fun v hv => Eval.returns_pure ?_
    split
    · exact hv
    · exact Value.isInside_of_held_eq_nil rfl _
  | .paren e => exact e.evaluate_isInside hf h
  | .binary .and l r =>
    refine (Eval.returns_true _).bind fun v _ => ?_
    split
    · exact (Eval.returns_true _).bind fun w _ =>
        Eval.returns_pure (Value.isInside_of_held_eq_nil rfl _)
    · exact Eval.returns_pure (Value.isInside_of_held_eq_nil rfl _)
  | .binary .or l r =>
    refine (Eval.returns_true _).bind fun v _ => ?_
    split
    · exact Eval.returns_pure (Value.isInside_of_held_eq_nil rfl _)
    · exact (Eval.returns_true _).bind fun w _ =>
        Eval.returns_pure (Value.isInside_of_held_eq_nil rfl _)
  | .binary (.compare c) l r =>
    exact (Eval.returns_true _).bind fun v _ => (Eval.returns_true _).bind fun w _ =>
      Eval.returns_pure (Value.isInside_of_held_eq_nil rfl _)
  | .call f es =>
    exact (evaluateAll_isInside hf h es).bind fun vs hvs => Registry.call_isInside hf hvs f

/-- The arguments of a call stand for nodes of the document. -/
theorem evaluateAll_isInside (hf : ctx.functions.StaysInside) (h : current ∈ ctx.root.nodes)
    (es : List Expr) :
    (evaluateAll ctx es current).Returns fun vs => ∀ v ∈ vs, v.IsInside ctx.root := by
  match es with
  | [] => exact Eval.returns_pure nofun
  | e :: es =>
    exact (e.evaluate_isInside hf h).bind fun v hv => (evaluateAll_isInside hf h es).bind
      fun vs hvs => Eval.returns_pure (List.forall_mem_cons.mpr ⟨hv, hvs⟩)

end

end Query

/-! ## Main statement -/

namespace Prepared

/-- Evaluation of a query stays inside the document. -/
structure StaysInDocument (p : Prepared) (document : Json) : Prop where
  /-- what is found is in the document, whatever the functions do -/
  found : ∀ s found, (p.executeUnder document s).1 = .ok found → ∀ m ∈ found, m ∈ document.nodes
  /-- also under a signal of its own -/
  executed : ∀ found, p.execute document = .ok found → ∀ m ∈ found, m ∈ document.nodes
  /-- and so are the nodes that any expression stands for at any node, if no function makes up
  nodes -/
  values : p.functions.StaysInside → ∀ (e : Query.Expr), ∀ current ∈ document.nodes,
    (e.evaluate ⟨document, p.functions⟩ current).Returns
      fun v => ∀ n ∈ v.held, n ∈ document.nodes
  /-- no selector picks anything from a scalar, which has no children -/
  scalar : ∀ n : Json, n.children = [] →
    ∀ s : Query.Selector, s.select ⟨document, p.functions⟩ n = pure []
  /-- and no segments find anything below scalars -/
  below : ∀ ss, ss ≠ [] → ∀ ns : List Json, (∀ n ∈ ns, n.children = []) →
    (Query.applyAll ⟨document, p.functions⟩ ss ns).Yields []

/-- **Confinement.** Evaluation of any query on any document stays inside the document. Each step
leads from nodes to nodes inside of them, so functions can say which nodes are found, but cannot
bring in others. -/
theorem staysInDocument (p : Prepared) (document : Json) : p.StaysInDocument document := by
  have hrun : (p.run document).Returns fun found => ∀ m ∈ found, m ∈ document.nodes :=
    Query.applyAll_isInside _ (List.forall_mem_singleton.mpr document.mem_nodes_self)
  have hunder : ∀ s found, (p.executeUnder document s).1 = .ok found →
      ∀ m ∈ found, m ∈ document.nodes :=
    fun s found h => hrun (.start s) _ found (Prod.ext h rfl)
  exact {
    found := hunder
    executed := by
      intro found h
      unfold execute at h
      split at h
      · next heq =>
        cases h
        exact hunder _ _ heq
      · cases h
        exact nofun
      · cases h
    values := fun hf e current h => e.evaluate_isInside hf h
    scalar := fun n h s => s.select_of_children_eq_nil _ h
    below := fun ss hss ns h => Query.applyAll_yields _ hss h }

/-- The expression `value(@[*])` on `[[null]]` stands for the array inside. -/
theorem staysInDocument_value :
    let e : Query.Expr := .call "value" [.nodes .current [.brackets .children [.wildcard]]]
    let document := Json.array [.array [.null]]
    let v := Value.node (.array [.null])
    Registry.builtin.StaysInside ∧
      ((e.evaluate ⟨document, .builtin⟩ document).runFrom .down).1 = .ok v ∧
      ∀ n ∈ v.held, n ∈ document.nodes := by
  intro e document v
  have hrun : ((e.evaluate ⟨document, .builtin⟩ document).runFrom .down).1 = .ok v := rfl
  have hstays := staysInDocument ⟨⟨[]⟩, .builtin⟩ document
  have hinside := hstays.values Registry.builtin_staysInside e document document.mem_nodes_self
  exact ⟨Registry.builtin_staysInside, hrun, hinside (.start .down) _ v (Prod.ext hrun rfl)⟩

end Prepared

end JsonPath
