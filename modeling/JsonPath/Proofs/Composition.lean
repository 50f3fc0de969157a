import Mathlib.Data.List.Forall2
import JsonPath.Proofs.Agreement
import JsonPath.Proofs.Outcome

/-!
# Queries one behind the other

The segments of one query, run behind those of another, find in each node that the others find what
they find in it if it is taken for a document (`goesOn`). Two things are behind it. Segments treat
the nodes that they are given one by one, so what is found from two lists, one behind the other, is
what is found from each (`gives_applyAll_append_iff`). And where no embedded query starts at the
root, the root makes no difference (`applyAll_root`).
-/

namespace JsonPath.Query

open Eval (Gives)

/-! ## The root of the document -/

section Root

variable {functions : Registry} {d d' : Json}

/-- None of the queries starts at the root. -/
def StayInside (ms : List Embedding) : Prop := ∀ m ∈ ms, m.anchor = .current

/-- Where no embedded query starts at the root, the root makes no difference. -/
theorem applyAll_root {ss : List Segment} (h : StayInside (segmentEmbeddings ss)) :
    applyAll ⟨d, functions⟩ ss = applyAll ⟨d', functions⟩ ss := by
  refine applyAll_congr ⟨fun m hm => ?_, fun c _ vs _ => rfl⟩
  rw [h m hm]
  rfl

end Root

/-! ## Lists of nodes -/

section Lists

variable {ctx : Context}

/-- What is found from two lists, one behind the other, is what is found from each. -/
theorem gather_append (visit : Json → Eval (List Json)) (ns ms : List Json) :
    gather visit (ns ++ ms) = do
      let here ← gather visit ns
      let others ← gather visit ms
      return here ++ others := by
  induction ns with
  | nil => simp only [List.nil_append, gather, pure_bind, bind_pure]
  | cons n ns ih =>
    simp only [List.cons_append, gather, ih, bind_assoc, pure_bind, List.append_assoc]

/-- A row of segments in two parts is applied part by part. -/
theorem applyAll_append (ss ts : List Segment) (ns : List Json) :
    applyAll ctx (ss ++ ts) ns = applyAll ctx ss ns >>= applyAll ctx ts := by
  induction ss generalizing ns with
  | nil => rfl
  | cons s ss ih => simp only [List.cons_append, applyAll, ih, bind_assoc]

end Lists

/-! ## Outcomes from lists of nodes -/

section Outcomes

variable {ctx : Context}

/-- Nodes in two groups are visited group by group. -/
theorem gives_gather_append_iff (hf : ctx.functions.IgnoresSignal) (s : Segment)
    (ns ms found : List Json) :
    (gather (s.visit ctx) (ns ++ ms)).Gives (.ok found) ↔
      ∃ a b, (gather (s.visit ctx) ns).Gives (.ok a) ∧ (gather (s.visit ctx) ms).Gives (.ok b) ∧
        found = a ++ b := by
  have hkept := Eval.IsSettled.isKept ctx.functions.Answers
  have hgather : ∀ ns, Eval.IsSettled ctx.functions.Answers (gather (s.visit ctx) ns) :=
    hkept.gather fun n => hkept.visit (Registry.call_isSettled hf) s n
  rw [gather_append, Eval.gives_bind_iff (hgather ns) fun _ => hkept.map _ (hgather ms)]
  simp only [Eval.gives_bind_iff (hgather ms) fun _ => hkept.pure _, Eval.gives_pure_iff,
    exists_and_left]

theorem gives_apply_iff (hf : ctx.functions.IgnoresSignal) (s : Segment) (ns found : List Json) :
    (s.apply ctx ns).Gives (.ok found) ↔ (gather (s.visit ctx) ns).Gives (.ok found) := by
  have hkept := Eval.IsSettled.isKept ctx.functions.Answers
  rw [s.apply_eq, Eval.gives_bind_iff hkept.poll fun _ =>
    hkept.gather (fun n => hkept.visit (Registry.call_isSettled hf) s n) ns]
  exact ⟨fun ⟨_, _, h⟩ => h, fun h => ⟨(), Eval.gives_poll, h⟩⟩

/-- What a row finds is what its rest finds from what its first segment finds. -/
theorem gives_applyAll_cons_iff (hf : ctx.functions.IgnoresSignal) (s : Segment)
    (ss : List Segment) (ns found : List Json) :
    (applyAll ctx (s :: ss) ns).Gives (.ok found) ↔
      ∃ between, (gather (s.visit ctx) ns).Gives (.ok between) ∧
        (applyAll ctx ss between).Gives (.ok found) := by
  have hkept := Eval.IsSettled.isKept ctx.functions.Answers
  rw [applyAll, Eval.gives_bind_iff (hkept.apply (Registry.call_isSettled hf) s ns)
    fun between => applyAll_isSettled hf ss between]
  simp only [gives_apply_iff hf]

/-- What segments find from two lists of nodes, one behind the other, is what they find from
each. -/
theorem gives_applyAll_append_iff (hf : ctx.functions.IgnoresSignal) (ss : List Segment)
    (ns ms found : List Json) :
    (applyAll ctx ss (ns ++ ms)).Gives (.ok found) ↔
      ∃ a b, (applyAll ctx ss ns).Gives (.ok a) ∧ (applyAll ctx ss ms).Gives (.ok b) ∧
        found = a ++ b := by
  induction ss generalizing ns ms found with
  | nil =>
    simp only [applyAll, Eval.gives_pure_iff]
    exact ⟨fun h => ⟨ns, ms, rfl, rfl, h⟩, fun ⟨_, _, ha, hb, h⟩ => ha ▸ hb ▸ h⟩
  | cons s ss ih =>
    simp only [gives_applyAll_cons_iff hf, gives_gather_append_iff hf]
    constructor
    · rintro ⟨_, ⟨a, b, ha, hb, rfl⟩, h⟩
      obtain ⟨a', b', ha', hb', rfl⟩ := (ih a b found).mp h
      exact ⟨a', b', ⟨a, ha, ha'⟩, ⟨b, hb, hb'⟩, rfl⟩
    · rintro ⟨a', b', ⟨a, ha, ha'⟩, ⟨b, hb, hb'⟩, rfl⟩
      exact ⟨a ++ b, ⟨a, b, ha, hb, rfl⟩, (ih a b _).mpr ⟨a', b', ha', hb', rfl⟩⟩

theorem gives_applyAll_nil (ss : List Segment) : (applyAll ctx ss []).Gives (.ok []) := by
  induction ss with
  | nil => exact Eval.gives_pure []
  | cons s ss ih =>
    rw [applyAll, s.apply_eq]
    exact (Eval.gives_poll.bind (Eval.gives_pure [])).bind ih

/-- Segments treat the nodes of a list one by one. -/
theorem gives_applyAll_iff_forall₂ (hf : ctx.functions.IgnoresSignal) (ss : List Segment)
    (ns found : List Json) :
    (applyAll ctx ss ns).Gives (.ok found) ↔
      ∃ parts, List.Forall₂ (fun n part => (applyAll ctx ss [n]).Gives (.ok part)) ns parts ∧
        found = parts.flatten := by
  induction ns generalizing found with
  | nil =>
    constructor
    · intro h
      exact ⟨[], .nil, Except.ok.inj (h.unique (gives_applyAll_nil ss))⟩
    · rintro ⟨_, hparts, rfl⟩
      cases hparts
      exact gives_applyAll_nil ss
  | cons n ns ih =>
    rw [← List.singleton_append, gives_applyAll_append_iff hf]
    constructor
    · rintro ⟨a, b, ha, hb, rfl⟩
      obtain ⟨parts, hparts, rfl⟩ := (ih b).mp hb
      exact ⟨a :: parts, .cons ha hparts, rfl⟩
    · rintro ⟨_, hparts, rfl⟩
      cases hparts with
      | cons ha hparts => exact ⟨_, _, ha, (ih _).mpr ⟨_, hparts, rfl⟩, rfl⟩

end Outcomes

/-! ## Queries -/

/-- To execute a query is to apply its segments to the document. -/
theorem Prepared.execute_iff_gives {functions : Registry} (hf : functions.IgnoresSignal)
    (ss : List Segment) (document : Json) (found : List Json) :
    Prepared.execute ⟨⟨ss⟩, functions⟩ document = .ok found ↔
      (applyAll ⟨document, functions⟩ ss [document]).Gives (.ok found) := by
  have hsettled : Eval.IsSettled functions.Answers
      (applyAll ⟨document, functions⟩ ss [document]) := applyAll_isSettled hf ss [document]
  obtain ⟨r, hr, -⟩ := hsettled.exists_gives
  exact Prepared.execute_eq_ok_iff (p := ⟨⟨ss⟩, functions⟩) hr

/-- The segments `ts` behind the segments `ss` go on from what these find. -/
structure GoesOn (functions : Registry) (ss ts : List Segment) (document : Json) : Prop where
  /-- what is found is what `ts` find, one after the other, in the nodes that `ss` find, each of
  which is taken for a document -/
  found_iff : ∀ found, Prepared.execute ⟨⟨ss ++ ts⟩, functions⟩ document = .ok found ↔
    ∃ ns parts, Prepared.execute ⟨⟨ss⟩, functions⟩ document = .ok ns ∧
      List.Forall₂ (fun n part => Prepared.execute ⟨⟨ts⟩, functions⟩ n = .ok part) ns parts ∧
      found = parts.flatten
  /-- there is a result, unless a function fails -/
  succeeds : functions.Answers →
    ∃ found, Prepared.execute ⟨⟨ss ++ ts⟩, functions⟩ document = .ok found
  /-- from two lists of nodes, one behind the other, `ts` find what they find from each -/
  append_iff : ∀ ns ms found, (applyAll ⟨document, functions⟩ ts (ns ++ ms)).Gives (.ok found) ↔
    ∃ a b, (applyAll ⟨document, functions⟩ ts ns).Gives (.ok a) ∧
      (applyAll ⟨document, functions⟩ ts ms).Gives (.ok b) ∧ found = a ++ b

/-- **Composition.** A query goes on from what another finds if none of the queries embedded in
it starts at the root. -/
theorem goesOn (functions : Registry) (hf : functions.IgnoresSignal) (ss ts : List Segment)
    (hts : StayInside (segmentEmbeddings ts)) (document : Json) :
    GoesOn functions ss ts document := by
  have hsettled : ∀ us ns,
      Eval.IsSettled functions.Answers (applyAll ⟨document, functions⟩ us ns) :=
    applyAll_isSettled hf
  refine ⟨fun found => ?_, fun h => ?_, gives_applyAll_append_iff hf ts⟩
  · -- The segments `ts` are run with the document as the root; each node can take its place.
    have hroot : ∀ n part, (applyAll ⟨document, functions⟩ ts [n]).Gives (.ok part) ↔
        Prepared.execute ⟨⟨ts⟩, functions⟩ n = .ok part := by
      intro n part
      rw [Prepared.execute_iff_gives hf, applyAll_root hts]
    rw [Prepared.execute_iff_gives hf, applyAll_append,
      Eval.gives_bind_iff (hsettled ss _) fun ns => hsettled ts ns]
    refine exists_congr fun ns => ?_
    rw [exists_and_left, Prepared.execute_iff_gives hf, gives_applyAll_iff_forall₂ hf ts]
    simp only [hroot]
  · obtain ⟨_, hr, hw⟩ := (hsettled (ss ++ ts) [document]).exists_gives
    obtain ⟨found, rfl⟩ := hw h
    exact ⟨found, (Prepared.execute_iff_gives hf _ _ _).mpr hr⟩

/-- The query `$..a[?@[?length(@) == 1]]` goes on from `$..a`. -/
theorem goesOn_builtin :
    let e : Expr := .binary (.compare .equal) (.call "length" [.nodes .current []]) (.integer 1)
    let ss := [Segment.dot .descendants (.shorthand "a")]
    let ts := [Segment.brackets .children
      [.filter (.nodes .current [.brackets .children [.filter e]])]]
    Registry.builtin.IgnoresSignal ∧ StayInside (segmentEmbeddings ts) ∧
      GoesOn .builtin ss ts (.object [("a", .array [.array [.string "b"]])]) := by
  intro e ss ts
  have hts : StayInside (segmentEmbeddings ts) := by
    simp [StayInside, ts, e, segmentEmbeddings, Segment.embeddings, selectorEmbeddings,
      Selector.embeddings, Expr.embeddings, argumentEmbeddings]
  exact ⟨Registry.builtin_ignoresSignal, hts, goesOn _ Registry.builtin_ignoresSignal ss ts hts _⟩

end JsonPath.Query
