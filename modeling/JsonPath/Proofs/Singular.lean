import JsonPath.Proofs.Embedding
import JsonPath.Proofs.Outcome

/-!
# Singular queries

A singular query picks by names and indices alone. From one node each of its segments finds one node
or none (`Segment.visit_singular`), and it calls no function, so every run comes to the same list of
at most one node unless the signal ends it (`Eval.Yields`). In what is read from a text, the
operands of comparisons are such queries and stand for their nodes; hence an operand has one node
for its value or none.
-/

namespace JsonPath

namespace Eval

variable {α β : Type}

/-- Every run of the computation comes to one value, unless the signal ends it. -/
structure Yields (x : Eval α) (a : α) : Prop where
  /-- a run that nobody stops comes to the value -/
  gives : x.Gives (.ok a)
  /-- and any run comes to it or is stopped -/
  run_eq : ∀ r, (x.run.run r).1 = .ok a ∨ (x.run.run r).1 = .error .cancelled

namespace Yields

theorem pure (a : α) : Yields (pure a) a := ⟨gives_pure a, fun _ => .inl rfl⟩

theorem poll : Yields Eval.poll () := by
  refine ⟨gives_poll, fun r => ?_⟩
  rw [run_poll r.signal r.memo]
  cases r.signal.look.raised with
  | true => exact .inr rfl
  | false => exact .inl rfl

theorem bind {x : Eval α} {f : α → Eval β} {a : α} {b : β} (hx : x.Yields a)
    (hf : (f a).Yields b) : (x >>= f).Yields b := by
  refine ⟨hx.gives.bind hf.gives, fun r => ?_⟩
  cases hr : x.run.run r with
  | mk result r' =>
    rcases hx.run_eq r with h | h
    · obtain rfl : result = .ok a := by rw [← h, hr]
      rw [run_bind_ok hr]
      exact hf.run_eq r'
    · obtain rfl : result = .error .cancelled := by rw [← h, hr]
      rw [run_bind_error hr]
      exact .inr rfl

end Yields

end Eval

namespace Query

variable (ctx : Context)

/-! ## At most one node -/

/-- From one node, a singular segment finds one node or none, without a look at the signal. -/
theorem Segment.visit_singular {s : Segment} (h : s.isSingular = true) (n : Json) :
    ∃ found : Option Json, s.visit ctx n = pure found.toList := by
  match s, h with
  | .dot .children (.shorthand name), _ =>
    match n with
    | .object members => exact ⟨Json.member? name members, rfl⟩
    | .null | .bool _ | .number _ | .string _ | .array _ => exact ⟨none, rfl⟩
  | .brackets .children [.name name], _ =>
    simp only [Segment.visit, Reach.visit, selectAll_singleton]
    match n with
    | .object members => exact ⟨Json.member? name members, rfl⟩
    | .null | .bool _ | .number _ | .string _ | .array _ => exact ⟨none, rfl⟩
  | .brackets .children [.index i], _ =>
    simp only [Segment.visit, Reach.visit, selectAll_singleton]
    match n with
    | .array items => exact ⟨(place? i items.length).bind (items[·]?), rfl⟩
    | .null | .bool _ | .number _ | .string _ | .object _ => exact ⟨none, rfl⟩

/-- From one node or none a singular segment finds one or none. -/
theorem Segment.apply_singular {s : Segment} (h : s.isSingular = true) (node : Option Json) :
    ∃ found : Option Json, (s.apply ctx node.toList).Yields found.toList := by
  rw [s.apply_eq]
  match node with
  | none => exact ⟨none, .bind .poll (.pure [])⟩
  | some n =>
    obtain ⟨found, hfound⟩ := s.visit_singular ctx h n
    refine ⟨found, .bind .poll ?_⟩
    have hgather : gather (s.visit ctx) [n] = pure found.toList := by
      rw [gather, hfound, gather, pure_bind, pure_bind, List.append_nil]
    change (gather (s.visit ctx) [n]).Yields _
    rw [hgather]
    exact .pure _

/-- Singular segments find one node or none, and what they find depends on no function. -/
theorem applyAll_singular {ss : List Segment} (h : ss.all Segment.isSingular = true)
    (node : Option Json) :
    ∃ found : Option Json, (applyAll ctx ss node.toList).Yields found.toList := by
  induction ss generalizing node with
  | nil => exact ⟨node, .pure _⟩
  | cons s ss ih =>
    obtain ⟨hs, hss⟩ := Bool.and_eq_true_iff.mp h
    obtain ⟨between, hbetween⟩ := s.apply_singular ctx hs node
    obtain ⟨found, hfound⟩ := ih hss between
    exact ⟨found, hbetween.bind hfound⟩

/-! ## Operands -/

/-- The value of a query that stands for its single node: the node, or no node at all. -/
def nodeValue : Option Json → Value
  | some n => .node n
  | none => .nodes []

/-- An embedded query that is singular stands for one node or for nothing. -/
theorem Expr.evaluate_single {ss : List Segment} (h : ss.all Segment.isSingular = true)
    (a : Anchor) (current : Json) :
    ∃ found, ((Expr.single a ss).evaluate ctx current).Yields (nodeValue found) := by
  obtain ⟨found, hfound⟩ := applyAll_singular ctx h (some (a.node ctx current))
  refine ⟨found, hfound.bind ?_⟩
  cases found with
  | none => exact .pure _
  | some n => exact .pure _

/-- The expression that an embedded query is. -/
def Embedding.expr (m : Embedding) : Expr :=
  if m.isSingle then .single m.anchor m.segments else .nodes m.anchor m.segments

/-! ## Main statement -/

/-- **Singular queries.** A singular query finds at most one node, whatever the functions and
whoever stops the run. In a query that is read from a text, the embedded queries that are
operands stand for their single nodes and no others do. Each of them is singular, and its value
is one node or none. -/
theorem singular_finds_one :
    (∀ (p : Prepared) (document : Json), p.query.isSingular = true →
      ∃ found : Option Json, p.execute document = .ok found.toList ∧
        ∀ s : Signal, (p.executeUnder document s).1 = .ok found.toList ∨
          (p.executeUnder document s).1 = .error .cancelled) ∧
    ∀ (octets : List UInt8) (q : Query), ofBytes octets = .ok q → ∀ m ∈ q.embeddings,
      m.isSingle = m.isOperand ∧
        (m.isOperand = true → m.segments.all Segment.isSingular = true ∧
          ∀ (ctx : Context) (current : Json), ∃ found,
            (m.expr.evaluate ctx current).Yields (nodeValue found)) := by
  refine ⟨fun p document h => ?_, fun octets q h m hm => ?_⟩
  · obtain ⟨found, hfound⟩ :=
      applyAll_singular ⟨document, p.functions⟩ h (some document)
    exact ⟨found, (p.execute_eq_ok_iff hfound.gives).mpr hfound.gives,
      fun s => hfound.run_eq (.start s)⟩
  · obtain ⟨hsingle, hsingular⟩ := isPlaced_of_ofBytes h m hm
    refine ⟨hsingle, fun hoperand => ⟨hsingular hoperand, fun ctx current => ?_⟩⟩
    rw [Embedding.expr, hsingle, if_pos hoperand]
    exact Expr.evaluate_single ctx (hsingular hoperand) m.anchor current

/-- The query `$.a[0]`, and the operand `@.a` in the filter of `$..[?(!f(@.a == $.b))]`. -/
theorem singular_finds_one_example :
    let p : Prepared :=
      ⟨⟨[.dot .children (.shorthand "a"), .brackets .children [.index 0]]⟩, .builtin⟩
    let octets := "$..[?(!f(@.a == $.b))]".toUTF8.toList
    let path : List Segment := [.dot .children (.shorthand "a")]
    let other : Expr := .single .root [.dot .children (.shorthand "b")]
    let e : Expr := .call "f" [.binary (.compare .equal) (.single .current path) other]
    let q : Query := ⟨[.brackets .descendants [.filter (.paren (.not e))]]⟩
    let m : Embedding := ⟨true, true, .current, path⟩
    let document := Json.object [("a", .array [.null, .bool true])]
    p.query.isSingular = true ∧
      (∃ found : Option Json, p.execute document = .ok found.toList) ∧
      ofBytes octets = .ok q ∧ m ∈ q.embeddings ∧ m.isOperand = true ∧
      ∀ (ctx : Context) (current : Json), ∃ found,
        (m.expr.evaluate ctx current).Yields (nodeValue found) := by
  intro p octets path other e q m document
  have hp : p.query.isSingular = true := rfl
  have htokens : Token.tokenize octets = [⟨.root, "$"⟩, ⟨.dotDot, ".."⟩, ⟨.openBracket, "["⟩,
      ⟨.questionMark, "?"⟩, ⟨.openParen, "("⟩, ⟨.negation, "!"⟩, ⟨.name, "f"⟩, ⟨.openParen, "("⟩,
      ⟨.current, "@"⟩, ⟨.dot, "."⟩, ⟨.name, "a"⟩, ⟨.equal, "=="⟩, ⟨.root, "$"⟩, ⟨.dot, "."⟩,
      ⟨.name, "b"⟩, ⟨.closeParen, ")"⟩, ⟨.closeParen, ")"⟩, ⟨.closeBracket, "]"⟩,
      Token.endOfInput] := by decide +kernel
  have hq : ofBytes octets = .ok q := by
    rw [ofBytes, htokens]
    unfold q e other path
    cbv
  have hm : m ∈ q.embeddings := List.mem_cons_self
  obtain ⟨hsingular, hembedded⟩ := singular_finds_one
  obtain ⟨found, hfound, -⟩ := hsingular p document hp
  obtain ⟨-, hoperand⟩ := hembedded octets q hq m hm
  exact ⟨hp, ⟨found, hfound⟩, hq, hm, rfl, (hoperand rfl).2⟩

end Query

end JsonPath
