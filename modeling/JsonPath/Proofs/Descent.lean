import JsonPath.Proofs.Composition
import JsonPath.Proofs.Locations

/-!
# Descendants in the order of the document

A segment for descendants goes through a node and all that is inside it, in the order of the
document, and visits each once (`descend_eq_gather`). So it finds what its selectors pick at each of
these locations in turn (`descend_visitsInOrder`), and the wildcard finds each node below the first
one exactly once. Nodes are told apart by their locations; what they hold can be equal.
-/

namespace JsonPath.Query

open Eval (Gives)
open Json (Location)

/-! ## One node after the other -/

section Course

variable (visit : Json → Eval (List Json))

/-- To descend into items is to gather what is found below each. -/
theorem descendItems_eq (ns : List Json) : descendItems visit ns = gather (descend visit) ns := by
  induction ns with
  | nil => rfl
  | cons n ns ih => rw [descendItems, gather, ih]

/-- To descend into members is to gather what is found below their values. -/
theorem descendMembers_eq (ms : List (String × Json)) :
    descendMembers visit ms = gather (descend visit) (ms.map (·.2)) := by
  induction ms with
  | nil => rfl
  | cons m ms ih => rw [descendMembers, ih, List.map_cons, gather]

/-- A node comes first, and then its children with what is inside them. -/
theorem descend_eq (n : Json) : descend visit n = do
    Eval.poll
    let here ← visit n
    let below ← gather (descend visit) n.children
    return here ++ below := by
  cases n with
  | array items => rw [descend, descendItems_eq, Json.children]
  | object members => rw [descend, descendMembers_eq, Json.children]
  | _ => simp only [descend, Json.children, gather, pure_bind, List.append_nil, bind_pure]

/-- Nodes that are listed in groups are visited group by group. -/
theorem gather_flatMap (f : Json → List Json) (ns : List Json) :
    gather visit (ns.flatMap f) = gather (fun n => gather visit (f n)) ns := by
  induction ns with
  | nil => rfl
  | cons n ns ih => rw [List.flatMap_cons, gather_append, ih, gather]

theorem gather_congr {visit visit' : Json → Eval (List Json)} {ns : List Json}
    (h : ∀ n ∈ ns, visit n = visit' n) : gather visit ns = gather visit' ns := by
  induction ns with
  | nil => rfl
  | cons n ns ih =>
    rw [gather, gather, h n List.mem_cons_self, ih fun m hm => h m (List.mem_cons_of_mem n hm)]

/-- To descend from a node is to visit it and all that is inside it, in order. In front of each
visit the run looks at its signal. -/
theorem descend_eq_gather (n : Json) : descend visit n =
    gather (fun m => do Eval.poll; visit m) n.nodes := by
  induction n using Json.children_induction with
  | h n ih =>
    -- the nodes inside the children, child by child, are the nodes behind the first one
    rw [descend_eq, gather_congr ih, ← gather_flatMap, n.nodes_eq, gather, bind_assoc]

end Course

/-! ## Outcomes -/

section Outcomes

/-- Where the parts of a result are found in turn, the result is made of the results for all
parts. -/
theorem gives_iff_forall₂ {α : Type} (run : List α → Eval (List Json))
    (part : α → Eval (List Json)) {well : Prop} (hnil : run [] = pure [])
    (hcons : ∀ a as, run (a :: as) = do
      let here ← part a
      let others ← run as
      return here ++ others)
    (hpart : ∀ a, (part a).IsSettled well) (as : List α) (found : List Json) :
    (run as).Gives (.ok found) ↔
      ∃ parts, List.Forall₂ (fun a found => (part a).Gives (.ok found)) as parts ∧
        found = parts.flatten := by
  have hkept := Eval.IsSettled.isKept well
  have hrun : ∀ as, (run as).IsSettled well := by
    intro as
    induction as with
    | nil => exact hnil ▸ hkept.pure []
    | cons a as ih => exact hcons a as ▸ hkept.bind (hpart a) fun _ => hkept.map _ ih
  -- Whether the rest is settled is needed at each step, so that comes first, by an induction of its
  -- own.
  induction as generalizing found with
  | nil =>
    rw [hnil, Eval.gives_pure_iff]
    constructor
    · rintro rfl
      exact ⟨[], .nil, rfl⟩
    · rintro ⟨_, hparts, rfl⟩
      cases hparts
      rfl
  | cons a as ih =>
    rw [hcons, Eval.gives_bind_iff (hpart a) fun _ => hkept.map _ (hrun as)]
    simp only [Eval.gives_bind_iff (hrun as) fun _ => hkept.pure _, Eval.gives_pure_iff]
    constructor
    · rintro ⟨here, hhere, others, hothers, rfl⟩
      obtain ⟨parts, hparts, rfl⟩ := (ih others).mp hothers
      exact ⟨here :: parts, .cons hhere hparts, rfl⟩
    · rintro ⟨_, hparts, rfl⟩
      cases hparts with
      | cons hhere hparts => exact ⟨_, hhere, _, (ih _).mpr ⟨_, hparts, rfl⟩, rfl⟩

variable {ctx : Context}

theorem select_isSettled (hf : ctx.functions.IgnoresSignal) (s : Selector) (n : Json) :
    (s.select ctx n).IsSettled ctx.functions.Answers :=
  (Eval.IsSettled.isKept _).select (Registry.call_isSettled hf) s n

/-- What several selectors find is what each finds, one behind the other. -/
theorem gives_selectAll_iff (hf : ctx.functions.IgnoresSignal) (ss : List Selector) (n : Json)
    (found : List Json) : (selectAll ctx ss n).Gives (.ok found) ↔
      ∃ picks, List.Forall₂ (fun s pick => (s.select ctx n).Gives (.ok pick)) ss picks ∧
        found = picks.flatten := by
  refine gives_iff_forall₂ (selectAll ctx · n) (·.select ctx n) ?_ ?_
    (fun s => select_isSettled hf s n) ss found
  · rw [selectAll]
  · intro s ss
    rw [selectAll]

/-- What is so for a node and each of those inside it, in order, is so for what is located at each
of their locations. -/
theorem forall₂_nodes_iff {β : Type} {R : Json → β → Prop} {d n : Json} {start : Location}
    (hn : d.locate? start = some n) (bs : List β) : List.Forall₂ R n.nodes bs ↔
      List.Forall₂ (fun l b => ∃ m, d.locate? l = some m ∧ R m b) (d.locationsFrom start) bs := by
  rw [← List.forall₂_map_left_iff (f := d.locate?) (R := fun o b => ∃ m, o = some m ∧ R m b),
    Json.map_locate?_locationsFrom hn, List.forall₂_map_left_iff]
  simp only [Option.some.injEq, exists_eq_left']

/-- What is found from a node and all that is inside it is what is picked at each location in
turn. -/
theorem gives_descend_iff (hf : ctx.functions.IgnoresSignal) {start : Location} {n : Json}
    (hn : ctx.root.locate? start = some n) (ss : List Selector) (found : List Json) :
    (descend (selectAll ctx ss) n).Gives (.ok found) ↔
      ∃ parts, List.Forall₂
        (fun l part => ∃ m, ctx.root.locate? l = some m ∧ (selectAll ctx ss m).Gives (.ok part))
        (ctx.root.locationsFrom start) parts ∧ found = parts.flatten := by
  have hkept := Eval.IsSettled.isKept ctx.functions.Answers
  have hselect : ∀ m, (selectAll ctx ss m).IsSettled ctx.functions.Answers :=
    hkept.selectAll (Registry.call_isSettled hf) ss
  -- nobody stops the run, so its looks at the signal make no difference
  have hvisit : ∀ m part, (Eval.poll >>= fun _ => selectAll ctx ss m).Gives (.ok part) ↔
      (selectAll ctx ss m).Gives (.ok part) := by
    intro m part
    rw [Eval.gives_bind_iff hkept.poll fun _ => hselect m]
    exact ⟨fun ⟨_, _, h⟩ => h, fun h => ⟨(), Eval.gives_poll, h⟩⟩
  rw [descend_eq_gather, gives_iff_forall₂ (gather _) _ rfl (fun _ _ => rfl)
    fun m => hkept.bind hkept.poll fun _ => hselect m]
  simp only [hvisit, forall₂_nodes_iff hn]

/-! ### The wildcard -/

/-- Visits that only look at the signal find what they are made to find. -/
theorem gives_gather_pure (f : Json → List Json) (ns : List Json) :
    (gather (fun m => do Eval.poll; return f m) ns).Gives (.ok (ns.flatMap f)) := by
  induction ns with
  | nil => exact Eval.gives_pure []
  | cons n ns ih =>
    have hhere : (do Eval.poll; return f n : Eval (List Json)).Gives (.ok (f n)) :=
      Eval.gives_poll.bind (Eval.gives_pure (f n))
    exact hhere.bind (ih.bind (Eval.gives_pure _))

/-- The wildcard finds the children of a node, and then in turn of each node that is inside it. -/
theorem gives_wildcard (ctx : Context) (n : Json) :
    (applyAll ctx [.dot .descendants .wildcard] [n]).Gives
      (.ok (n.nodes.flatMap Json.children)) := by
  have happly : applyAll ctx [.dot .descendants .wildcard] [n] =
      Eval.poll >>= fun _ => gather (fun m => do Eval.poll; return m.children) n.nodes := by
    simp only [applyAll, Segment.apply, Reach.visit, gather, descend_eq_gather, Selector.select,
      pure_bind, List.append_nil, bind_pure]
  rw [happly]
  exact Eval.gives_poll.bind (gives_gather_pure Json.children n.nodes)

end Outcomes

/-! ## Each node once -/

/-- From the node `n`, which is located at `start`, a segment for descendants visits each node
once, in the order of the document. -/
structure VisitsInOrder (ctx : Context) (ss : List Selector) (start : Location) (n : Json) :
    Prop where
  /-- the locations that are visited are those of the node and of all that is inside it -/
  mem_iff : ∀ l, l ∈ ctx.root.locationsFrom start ↔ start <+: l ∧ (ctx.root.locate? l).isSome
  /-- each is visited once: a node before its children, and a child and all that is inside it before
  the next child -/
  inOrder : (ctx.root.locationsFrom start).Pairwise (· < ·)
  /-- what is found is, one after the other, what each selector in turn picks at each location -/
  found_iff : ∀ found, (descend (selectAll ctx ss) n).Gives (.ok found) ↔
    ∃ parts, List.Forall₂
      (fun l part => ∃ m picks, ctx.root.locate? l = some m ∧
        List.Forall₂ (fun s pick => (s.select ctx m).Gives (.ok pick)) ss picks ∧
        part = picks.flatten)
      (ctx.root.locationsFrom start) parts ∧ found = parts.flatten
  /-- there is a result, unless a function fails -/
  succeeds : ctx.functions.Answers → ∃ found, (descend (selectAll ctx ss) n).Gives (.ok found)
  /-- the wildcard finds what is located below the node -/
  wildcard_iff : ∀ found, (applyAll ctx [.dot .descendants .wildcard] [n]).Gives (.ok found) ↔
    found.map some = (ctx.root.locationsBelow start).map ctx.root.locate?
  mem_below_iff : ∀ l, l ∈ ctx.root.locationsBelow start ↔
    start <+: l ∧ l ≠ start ∧ (ctx.root.locate? l).isSome
  nodup_below : (ctx.root.locationsBelow start).Nodup
  /-- there, a node comes before its children -/
  parent_first : ∀ l k, l ∈ ctx.root.locationsBelow start →
    l ++ [k] ∈ ctx.root.locationsBelow start →
    [l, l ++ [k]].Sublist (ctx.root.locationsBelow start)
  /-- the children of a node come one directly after the other, in order -/
  siblings_together : ∀ l ∈ ctx.root.locationsFrom start,
    ctx.root.childLocations l <:+: ctx.root.locationsBelow start

/-- **Pre-order.** A descendant segment visits a node and everything below it once, in the order
of the document. -/
theorem descend_visitsInOrder {ctx : Context} (hf : ctx.functions.IgnoresSignal)
    {start : Location} {n : Json} (hn : ctx.root.locate? start = some n) (ss : List Selector) :
    VisitsInOrder ctx ss start n where
  mem_iff _ := Json.mem_locationsFrom
  inOrder := Json.pairwise_locationsFrom ctx.root start
  found_iff found := by
    simp only [gives_descend_iff hf hn, gives_selectAll_iff hf, exists_and_left]
  succeeds hw := by
    have hkept := Eval.IsSettled.isKept ctx.functions.Answers
    obtain ⟨_, hr, hsucceeds⟩ := Eval.IsSettled.exists_gives
      (hkept.descend (hkept.selectAll (Registry.call_isSettled hf) ss) n)
    obtain ⟨found, rfl⟩ := hsucceeds hw
    exact ⟨found, hr⟩
  wildcard_iff found := by
    rw [Json.map_locate?_locationsBelow hn, (Option.some_injective Json).list_map.eq_iff]
    constructor
    · intro h
      exact Except.ok.inj (h.unique (gives_wildcard ctx n))
    · rintro rfl
      exact gives_wildcard ctx n
  mem_below_iff _ := Json.mem_locationsBelow
  nodup_below := Json.nodup_locationsBelow ctx.root start
  parent_first _ _ := Json.sublist_locationsBelow
  siblings_together _ := Json.childLocations_infix

/-- The array that is visited holds equal values at different locations. -/
theorem descend_visitsInOrder_repeated :
    let n : Json := .array [.null, .array [.null, .null]]
    let ctx : Context := ⟨.object [("a", n), ("b", n)], .builtin⟩
    Registry.builtin.IgnoresSignal ∧ ctx.root.locate? [1] = some n ∧
      VisitsInOrder ctx [.wildcard, .index 0] [1] n := by
  intro n ctx
  exact ⟨Registry.builtin_ignoresSignal, rfl,
    descend_visitsInOrder Registry.builtin_ignoresSignal rfl [.wildcard, .index 0]⟩

end JsonPath.Query
