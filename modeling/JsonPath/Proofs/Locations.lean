import Mathlib.Data.List.Flatten
import Mathlib.Data.List.Lex
import Mathlib.Data.List.Perm.Subperm
import Mathlib.Data.List.Sort
import JsonPath.Json

/-!
# Locations in a document

A location is a way from a value to a node inside it: the numbers of the children that are gone to,
one after the other (`Json.locate?`). Different nodes can hold equal values, but they have different
locations. The locations of a value and of all that is inside it are listed in the order of the
document (`Json.locations`): each location occurs once, a node comes before its children, and a
child with all that is inside it comes before the next child. That is the lexicographic order
(`Json.pairwise_locations`).
-/

namespace JsonPath.Json

/-! ## Locations -/

/-- A way into a document: which child to go to, at each step. -/
abbrev Location := List Nat

/-- The node at a location. -/
def locate? : Json → Location → Option Json
  | n, [] => some n
  | n, k :: l => n.children[k]?.bind (locate? · l)

/-- A location in two parts is followed part by part. -/
theorem locate?_append (n : Json) (l m : Location) :
    n.locate? (l ++ m) = (n.locate? l).bind (·.locate? m) := by
  induction l generalizing n with
  | nil => rfl
  | cons k l ih =>
    rw [List.cons_append, locate?, locate?, Option.bind_assoc]
    exact congrArg _ (funext fun child => ih child)

/-- A location leads on from where its first part leads to. -/
theorem isSome_locate?_append_iff {n : Json} {l m : Location} :
    (n.locate? (l ++ m)).isSome ↔ ∃ c, n.locate? l = some c ∧ (c.locate? m).isSome := by
  rw [locate?_append]
  cases n.locate? l <;> simp

theorem locate?_singleton (n : Json) (k : Nat) : n.locate? [k] = n.children[k]? := by
  rw [locate?]
  cases n.children[k]? <;> rfl

/-! ## All locations, in order -/

mutual

/-- The locations of a value itself and of all that is inside it, in order. -/
def locations : Json → List Location
  | array items => [] :: itemLocations 0 items
  | object members => [] :: memberLocations 0 members
  | _ => [[]]

/-- The locations of the items of an array, from the one of a given number on, and of all that is
inside them. -/
def itemLocations (k : Nat) : List Json → List Location
  | [] => []
  | n :: ns => n.locations.map (k :: ·) ++ itemLocations (k + 1) ns

/-- The locations of the members of an object, from the one of a given number on, and of all that is
inside them. -/
def memberLocations (k : Nat) : List (String × Json) → List Location
  | [] => []
  | (_, n) :: ms => n.locations.map (k :: ·) ++ memberLocations (k + 1) ms

end

/-- The locations in items are those in each item, behind its number. -/
theorem itemLocations_eq (k : Nat) (ns : List Json) :
    itemLocations k ns = (ns.zipIdx k).flatMap fun c => c.1.locations.map (c.2 :: ·) := by
  induction ns generalizing k with
  | nil => rfl
  | cons n ns ih => rw [itemLocations, ih, List.zipIdx_cons, List.flatMap_cons]

/-- The locations in members are those in their values. -/
theorem memberLocations_eq (k : Nat) (ms : List (String × Json)) :
    memberLocations k ms = itemLocations k (ms.map (·.2)) := by
  induction ms generalizing k with
  | nil => rfl
  | cons m ms ih => rw [memberLocations, ih, List.map_cons, itemLocations]

/-- First the value itself, and then its children in turn. -/
theorem locations_eq (n : Json) : n.locations =
    [] :: n.children.zipIdx.flatMap fun c => c.1.locations.map (c.2 :: ·) := by
  cases n with
  | array items => rw [locations, itemLocations_eq, children]
  | object members => rw [locations, memberLocations_eq, itemLocations_eq, children]
  | _ => rfl

/-- A child is smaller than what it is a child of. -/
theorem sizeOf_lt_of_mem_children {n m : Json} (h : m ∈ n.children) : sizeOf m < sizeOf n := by
  match n with
  | array items =>
    have hm : m ∈ items := h
    have hlt := List.sizeOf_lt_of_mem hm
    rw [array.sizeOf_spec]
    omega
  | object members =>
    obtain ⟨⟨name, m⟩, hm, rfl⟩ := List.mem_map.mp h
    have hlt := List.sizeOf_lt_of_mem hm
    rw [Prod.mk.sizeOf_spec] at hlt
    rw [object.sizeOf_spec]
    change sizeOf m < _
    omega

/-- What holds of a value whenever it holds of its children holds of all values. -/
theorem children_induction {P : Json → Prop} (h : ∀ n, (∀ m ∈ n.children, P m) → P n) (n : Json) :
    P n :=
  h n fun m _ => children_induction h m
termination_by sizeOf n
decreasing_by exact sizeOf_lt_of_mem_children ‹_›

/-- The locations are the ones where something is located. -/
theorem mem_locations {n : Json} {l : Location} : l ∈ n.locations ↔ (n.locate? l).isSome := by
  induction l generalizing n with
  | nil =>
    rw [locations_eq]
    exact iff_of_true List.mem_cons_self rfl
  | cons k l ih =>
    rw [← List.singleton_append, isSome_locate?_append_iff, locate?_singleton, locations_eq]
    constructor
    · intro h
      obtain ⟨⟨m, j⟩, hm, hl⟩ := List.mem_flatMap.mp
        (List.mem_of_ne_of_mem (List.cons_ne_nil k l) h)
      obtain ⟨l', hl', heq⟩ := List.mem_map.mp hl
      obtain ⟨rfl, rfl⟩ := List.cons.inj heq
      exact ⟨m, List.mk_mem_zipIdx_iff_getElem?.mp hm, ih.mp hl'⟩
    · rintro ⟨m, hm, hl⟩
      exact List.mem_cons_of_mem _ (List.mem_flatMap.mpr
        ⟨(m, k), List.mk_mem_zipIdx_iff_getElem?.mpr hm, List.mem_map.mpr ⟨l, ih.mpr hl, rfl⟩⟩)

theorem pairwise_snd_zipIdx {α : Type} (as : List α) :
    as.zipIdx.Pairwise fun a b => a.2 < b.2 := by
  rw [← List.pairwise_map (f := Prod.snd), List.zipIdx_map_snd]
  exact List.pairwise_lt_range'

/-- The locations are listed in lexicographic order. -/
theorem pairwise_locations (n : Json) : n.locations.Pairwise (· < ·) := by
  induction n using children_induction with
  | h n ih =>
    rw [locations_eq, List.pairwise_cons, List.pairwise_flatMap]
    refine ⟨fun l hl => ?_, fun ⟨m, k⟩ hm => ?_,
      (pairwise_snd_zipIdx _).imp fun hlt l hl l' hl' => ?_⟩
    · -- the value itself comes before all that is inside it
      obtain ⟨c, -, hl⟩ := List.mem_flatMap.mp hl
      obtain ⟨l, -, rfl⟩ := List.mem_map.mp hl
      exact List.nil_lt_cons _ _
    · -- inside one child
      have hchild : m ∈ n.children := List.mem_of_getElem? (List.mk_mem_zipIdx_iff_getElem?.mp hm)
      refine List.pairwise_map.mpr ((ih m hchild).imp fun hlt => ?_)
      exact List.cons_lt_cons_iff.mpr (.inr ⟨rfl, hlt⟩)
    · -- one child and a later one
      obtain ⟨l, -, rfl⟩ := List.mem_map.mp hl
      obtain ⟨l', -, rfl⟩ := List.mem_map.mp hl'
      exact List.cons_lt_cons_iff.mpr (.inl hlt)

/-! ## All nodes, in order -/

/-- A value and all that is inside it, in order. -/
def nodes (n : Json) : List Json := n.locations.filterMap n.locate?

/-- The nodes of a value are the value and the nodes of its children, in this order. -/
theorem nodes_eq (n : Json) : n.nodes = n :: n.children.flatMap nodes := by
  -- below a child, the location inside the child leads to the same node
  have hchild : ∀ c ∈ n.children.zipIdx,
      (c.1.locations.map (c.2 :: ·)).filterMap n.locate? = c.1.nodes := by
    intro ⟨m, k⟩ hm
    rw [List.filterMap_map, nodes]
    refine congrArg (List.filterMap · _) (funext fun l => ?_)
    rw [Function.comp, locate?, List.mk_mem_zipIdx_iff_getElem?.mp hm, Option.bind_some]
  calc n.nodes
      = n :: n.children.zipIdx.flatMap fun c =>
          (c.1.locations.map (c.2 :: ·)).filterMap n.locate? := by
        rw [nodes, locations_eq, List.filterMap_cons_some (b := n) (by rw [locate?]),
          List.filterMap_flatMap]
    _ = n :: n.children.zipIdx.flatMap fun c => c.1.nodes :=
        congrArg (n :: ·.flatten) (List.map_congr_left hchild)
    _ = n :: n.children.flatMap nodes := by
        rw [← List.flatMap_map Prod.fst nodes, List.zipIdx_map_fst]

/-- Something is located at each of the locations. -/
theorem map_locate? (n : Json) : n.locations.map n.locate? = n.nodes.map some := by
  rw [nodes, List.map_filterMap, ← List.filterMap_eq_map]
  refine List.filterMap_congr fun l hl => ?_
  obtain ⟨m, hm⟩ := Option.isSome_iff_exists.mp (mem_locations.mp hl)
  rw [Function.comp, hm]
  rfl

/-! ## A node of a document, and what is inside it -/

variable {d : Json} {start l m : Location}

/-- The locations in a document of a node and of all that is inside it, in order. -/
def locationsFrom (d : Json) (start : Location) : List Location :=
  match d.locate? start with
  | none => []
  | some n => n.locations.map (start ++ ·)

/-- The locations of the children of a node, in order. -/
def childLocations (d : Json) (l : Location) : List Location :=
  match d.locate? l with
  | none => []
  | some n => (List.range n.children.length).map fun k => l ++ [k]

/-- The locations of the children of a node, and then in turn of the children of each node that is
inside it. -/
def locationsBelow (d : Json) (start : Location) : List Location :=
  (d.locationsFrom start).flatMap d.childLocations

/-- The locations from a start on are those that lead on from it to something. -/
theorem mem_locationsFrom :
    l ∈ d.locationsFrom start ↔ start <+: l ∧ (d.locate? l).isSome := by
  rw [locationsFrom]
  constructor
  · intro h
    cases hn : d.locate? start with
    | none => simp [hn] at h
    | some n =>
      obtain ⟨l, hl, rfl⟩ : ∃ l' ∈ n.locations, start ++ l' = l := by simpa [hn] using h
      exact ⟨List.prefix_append start l,
        isSome_locate?_append_iff.mpr ⟨n, hn, mem_locations.mp hl⟩⟩
  · rintro ⟨⟨l, rfl⟩, h⟩
    obtain ⟨n, hn, hl⟩ := isSome_locate?_append_iff.mp h
    rw [hn]
    exact List.mem_map.mpr ⟨l, mem_locations.mpr hl, rfl⟩

theorem append_lt_append (start : Location) (h : l < m) : start ++ l < start ++ m := by
  induction start with
  | nil => exact h
  | cons k start ih => exact List.cons_lt_cons_iff.mpr (.inr ⟨rfl, ih⟩)

/-- They are listed in order, and each of them once. -/
theorem pairwise_locationsFrom (d : Json) (start : Location) :
    (d.locationsFrom start).Pairwise (· < ·) := by
  rw [locationsFrom]
  cases d.locate? start with
  | none => exact .nil
  | some n => exact List.pairwise_map.mpr (n.pairwise_locations.imp (append_lt_append start))

theorem lt_append_singleton (l : Location) (k : Nat) : l < l ++ [k] := by
  have h := append_lt_append l (List.nil_lt_cons k [])
  rwa [List.append_nil] at h

/-- The locations of children are one step longer. -/
theorem mem_childLocations :
    m ∈ d.childLocations l ↔ ∃ k, m = l ++ [k] ∧ (d.locate? m).isSome := by
  rw [childLocations]
  constructor
  · intro h
    cases hn : d.locate? l with
    | none => simp [hn] at h
    | some n =>
      obtain ⟨k, hk, rfl⟩ : ∃ k < n.children.length, l ++ [k] = m := by simpa [hn] using h
      exact ⟨k, rfl, isSome_locate?_append_iff.mpr ⟨n, hn, by simpa [locate?_singleton] using hk⟩⟩
  · rintro ⟨k, rfl, h⟩
    obtain ⟨n, hn, hk⟩ := isSome_locate?_append_iff.mp h
    simpa [hn, locate?_singleton] using hk

/-- Every child is listed once. -/
theorem nodup_childLocations (d : Json) (l : Location) : (d.childLocations l).Nodup := by
  rw [childLocations]
  cases d.locate? l with
  | none => exact .nil
  | some n =>
    refine List.nodup_range.map fun j k h => ?_
    exact (List.cons.inj (List.append_cancel_left h)).1

/-- The locations below a start are those that lead further than it. -/
theorem mem_locationsBelow : m ∈ d.locationsBelow start ↔
    start <+: m ∧ m ≠ start ∧ (d.locate? m).isSome := by
  rw [locationsBelow, List.mem_flatMap]
  constructor
  · rintro ⟨l, hl, hm⟩
    obtain ⟨k, rfl, hsome⟩ := mem_childLocations.mp hm
    obtain ⟨⟨l, rfl⟩, -⟩ := mem_locationsFrom.mp hl
    refine ⟨⟨l ++ [k], (List.append_assoc ..).symm⟩, fun h => ?_, hsome⟩
    have hlength := congrArg List.length h
    simp at hlength
  · rintro ⟨⟨l, rfl⟩, hne, hsome⟩
    -- the last step leads there from the parent
    rcases List.eq_nil_or_concat l with rfl | ⟨l, k, rfl⟩
    · exact absurd (List.append_nil start) hne
    · rw [List.concat_eq_append, ← List.append_assoc] at *
      obtain ⟨n, hn, -⟩ := isSome_locate?_append_iff.mp hsome
      have hparent : start ++ l ∈ d.locationsFrom start :=
        mem_locationsFrom.mpr ⟨List.prefix_append start l, hn ▸ rfl⟩
      exact ⟨start ++ l, hparent, mem_childLocations.mpr ⟨k, rfl, hsome⟩⟩

/-- Every location below is listed once. -/
theorem nodup_locationsBelow (d : Json) (start : Location) : (d.locationsBelow start).Nodup := by
  refine List.nodup_flatMap.mpr ⟨fun l _ => d.nodup_childLocations l, ?_⟩
  -- a node has one parent only
  refine (pairwise_locationsFrom d start).nodup.imp fun hne m hm hm' => ?_
  obtain ⟨j, rfl, -⟩ := mem_childLocations.mp hm
  obtain ⟨k, h, -⟩ := mem_childLocations.mp hm'
  exact hne (List.append_inj_left' h rfl)

theorem sublist_locationsBelow {k : Nat} (hl : l ∈ d.locationsBelow start)
    (hk : l ++ [k] ∈ d.locationsBelow start) : [l, l ++ [k]].Sublist (d.locationsBelow start) := by
  obtain ⟨hfront, -, hsome⟩ := mem_locationsBelow.mp hl
  obtain ⟨-, -, hsome'⟩ := mem_locationsBelow.mp hk
  obtain ⟨p, hp, hchild⟩ := List.mem_flatMap.mp hl
  obtain ⟨j, rfl, -⟩ := mem_childLocations.mp hchild
  -- the parent of the node is gone through before the node itself, and so are their children
  have hpair : [p, p ++ [j]].Pairwise (· < ·) := List.pairwise_pair.mpr (lt_append_singleton p j)
  have hsub : [p, p ++ [j]] ⊆ d.locationsFrom start :=
    List.forall_mem_cons.mpr ⟨hp, List.forall_mem_singleton.mpr
      (mem_locationsFrom.mpr ⟨hfront, hsome⟩)⟩
  have hsteps : [p, p ++ [j]].Sublist (d.locationsFrom start) :=
    List.sublist_of_subperm_of_pairwise (hpair.nodup.subperm hsub) hpair
      (pairwise_locationsFrom d start)
  have hnode : [p ++ [j]].Sublist (d.childLocations p) := List.singleton_sublist.mpr hchild
  have hbelow : [p ++ [j] ++ [k]].Sublist (d.childLocations (p ++ [j])) :=
    List.singleton_sublist.mpr (mem_childLocations.mpr ⟨k, rfl, hsome'⟩)
  have hboth : [p ++ [j], p ++ [j] ++ [k]].Sublist ([p, p ++ [j]].flatMap d.childLocations) := by
    simpa using hnode.append hbelow
  exact hboth.trans (hsteps.flatMap _)

/-- The children of a node come one directly after the other. -/
theorem childLocations_infix (hl : l ∈ d.locationsFrom start) :
    d.childLocations l <:+: d.locationsBelow start := List.infix_flatMap_of_mem hl _

example : (array [array [null, null], array [null]]).locationsBelow [] =
    [[0], [1], [0, 0], [0, 1], [1, 0]] := by decide

/-! ### What is located there -/

/-- At the locations from a node on stand its nodes. -/
theorem map_locate?_locationsFrom {n : Json} (hn : d.locate? start = some n) :
    (d.locationsFrom start).map d.locate? = n.nodes.map some := by
  rw [locationsFrom, hn, ← n.map_locate?, List.map_map]
  refine List.map_congr_left fun l _ => ?_
  rw [Function.comp, locate?_append, hn, Option.bind_some]

/-- At the locations of children stand the children, if there is a node at all. -/
theorem map_locate?_childLocations (d : Json) (l : Location) :
    (d.childLocations l).map d.locate? = (d.locate? l).elim [] fun n => n.children.map some := by
  rw [childLocations]
  cases hn : d.locate? l with
  | none => rfl
  | some n =>
    refine List.ext_getElem (by simp) fun k _ _ => ?_
    simp [locate?_append, hn, locate?_singleton]

/-- The children of a node, and then in turn of each node that is inside it. -/
theorem map_locate?_locationsBelow {n : Json} (hn : d.locate? start = some n) :
    (d.locationsBelow start).map d.locate? = (n.nodes.flatMap children).map some := by
  calc (d.locationsBelow start).map d.locate?
      = ((d.locationsFrom start).map d.locate?).flatMap
          (·.elim [] fun n => n.children.map some) := by
        rw [locationsBelow, List.map_flatMap, List.flatMap_map]
        simp only [map_locate?_childLocations]
    _ = (n.nodes.flatMap children).map some := by
        rw [map_locate?_locationsFrom hn, List.flatMap_map, List.map_flatMap]
        rfl

end JsonPath.Json
