import JsonPath.Proofs.Cancellation
import JsonPath.Proofs.Guarded
import JsonPath.Proofs.Lexing.Recognition

/-!
# No query meets a hazard

Whatever octets are read as a query and whatever document it is run on, no operation on the way is
without a result (`MeetsNoHazard`). String literals, slices, indices and single nodes come to the
same with guards as without; this needs of literals that the lexer has accepted them, and of slices
and indices nothing. A call reaches a body only with the arguments that it has parameters for, so a
built-in function always answers, and a run ends with nodes or because it was stopped.
-/

namespace JsonPath

/-! ## What runs keep -/

namespace Eval

variable {α β : Type}

/-- Where `P` holds at the start of the computation, `P` holds at its end, or the computation ends
early as `E` says. -/
structure Maintains (P : Run → Prop) (E : Fault → Run → Prop) (x : Eval α) : Prop where
  ok : ∀ {r r' a}, P r → x.run.run r = (.ok a, r') → P r'
  error : ∀ {r r' e}, P r → x.run.run r = (.error e, r') → E e r'

/-- A property of runs that looks at the signal maintain is maintained by all steps. -/
theorem Maintains.isKept {P : Run → Prop} {E : Fault → Run → Prop} (hpoll : poll.Maintains P E) :
    IsKept fun {α} => Maintains (α := α) P E where
  pure a := by
    refine ⟨fun {r r' b} hP hrun => ?_, fun {r r' e} _ hrun => ?_⟩
    · cases hrun
      exact hP
    · cases hrun
  bind hx hf := by
    refine ⟨fun {r r' b} hP hrun => ?_, fun {r r' e} hP hrun => ?_⟩
    · obtain ⟨a, r₁, hr, hrun⟩ | ⟨e, -, he⟩ := run_bind_cases hrun
      · exact (hf a).ok (hx.ok hP hr) hrun
      · cases he
    · obtain ⟨a, r₁, hr, hrun⟩ | ⟨e', hr, he⟩ := run_bind_cases hrun
      · exact (hf a).error (hx.ok hP hr) hrun
      · cases he
        exact hx.error hP hr
  poll := hpoll

/-- No run of the computation ends with a defect. -/
def IsFlawless (x : Eval α) : Prop := ∀ r d, (x.run.run r).1 ≠ .error (.defect d)

theorem isFlawless_iff {x : Eval α} :
    x.IsFlawless ↔ x.Maintains (fun _ => True) fun e _ => ∀ d, e ≠ .defect d := by
  refine ⟨fun h => ⟨fun _ _ => trivial, fun {r r' e} _ hrun d he => ?_⟩, fun h r d hr => ?_⟩
  · exact h r d (by rw [hrun, he])
  · exact h.error trivial (Prod.ext hr rfl) d rfl

/-- To be flawless is kept by all steps of an evaluation. -/
theorem IsFlawless.isKept : IsKept fun {α} => IsFlawless (α := α) := by
  have hpoll : poll.IsFlawless := by
    intro r d
    rw [run_poll r.signal r.memo]
    split
    · exact nofun
    · exact nofun
  have hkept := Maintains.isKept (isFlawless_iff.mp hpoll)
  refine ⟨fun a => isFlawless_iff.mpr (hkept.pure a), fun hx hf => ?_, hpoll⟩
  exact isFlawless_iff.mpr (hkept.bind (isFlawless_iff.mp hx) fun a => isFlawless_iff.mp (hf a))

end Eval

/-! ## Calls -/

/-- A function that answers does so in every run. -/
theorem Function.invoke_ok {f : Function} (ha : f.Answers) (vs : List Value) (r : Run) :
    ∃ v, ((f.invoke vs).run.run r).1 = .ok v := by
  obtain ⟨name, result, parameters, body⟩ := f
  unfold invoke
  split
  · next hlen =>
    have hws : (List.zipWith Kind.coerce parameters vs).length = parameters.length := by
      rw [List.length_zipWith, hlen, Nat.min_self]
    generalize List.zipWith Kind.coerce parameters vs = ws at hws
    cases body with
    | answer g =>
      obtain ⟨v, hv⟩ := ha ws r.signal.raised hws
      have hraised : Eval.isRaised.run.run r = (.ok r.signal.raised, r) := rfl
      simp only [Body.run]
      rw [Eval.run_bind_ok hraised, hv]
      cases (g ws r.signal.raised).stops with
      | true => exact ⟨v, rfl⟩
      | false => exact ⟨v, rfl⟩
    | matching extent =>
      have hlength : 2 ≤ parameters.length := ha
      have hlength : 2 ≤ ws.length := hws.symm ▸ hlength
      obtain ⟨subject, hsubject⟩ := subject?_ok hlength
      simp only [Body.run, hsubject]
      cases subject with
      | none => exact ⟨_, rfl⟩
      | some p => exact ⟨_, rfl⟩
  · exact ⟨.nothing, rfl⟩

/-- Every call has a value if the functions answer. -/
theorem Registry.call_ok {functions : Registry} (ha : functions.Answers) (name : String)
    (vs : List Value) (r : Run) : ∃ v, ((functions.call name vs).run.run r).1 = .ok v := by
  unfold call
  cases hf : functions.lookup? name with
  | none => exact ⟨.nothing, rfl⟩
  | some f => exact Function.invoke_ok (ha f (List.mem_of_find?_eq_some hf)) vs r

theorem Registry.call_isFlawless {functions : Registry} (ha : functions.Answers) (name : String)
    (vs : List Value) : (functions.call name vs).IsFlawless := by
  intro r d
  obtain ⟨v, hv⟩ := call_ok ha name vs r
  rw [hv]
  exact nofun

/-! ## Single nodes -/

namespace Guarded

/-- The value of an operand that has found nodes. -/
def operand (found : List Json) : Guarded Value := do
  match ← only found with
  | some n => return .node n
  | none => return .nodes found

/-- The value of the function that takes the single node of a list. -/
def valueOf : Value → Guarded Value
  | .nodes ns => do
    match ← only ns with
    | some n => return .node n
    | none => return .nothing
  | _ => return .nothing

/-- An operand is a node if exactly one was found. -/
theorem operand_eq (found : List Json) :
    operand found = pure (match found with | [n] => .node n | ns => .nodes ns) := by
  match found with
  | [] => rfl
  | [_] => rfl
  | _ :: _ :: _ => rfl

theorem valueOf_eq (v : Value) : valueOf v = pure (Function.valueOf v) := by
  match v with
  | .nodes [] => rfl
  | .nodes [_] => rfl
  | .nodes (_ :: _ :: _) => rfl
  | .nothing => rfl
  | .logical _ => rfl
  | .node _ => rfl
  | .primitive _ => rfl

end Guarded

/-! ## Main statement -/

open Query in
/-- Nothing on the way from octets to the nodes that they select in a document is without a
result. -/
structure MeetsNoHazard (octets : List UInt8) (document : Json) : Prop where
  /-- the difference of a surrogate and the first one of its half is never negative -/
  literals : ∀ t ∈ Token.tokenize octets, t.kind = .string →
    Guarded.unescape t.text = .ok (Token.Literal.unescape t.text)
  /-- the bounds of a slice and each step have 64 bits, the bounds are moved into ranges, and each
  index on the way is the place of an item, however many there may be -/
  slices : ∀ (ctx : Context) (s : Slice) (items : List Json), ∃ picked,
    (∀ count, items.length ≤ count → Guarded.slice s count items = .ok picked) ∧
      (Selector.slice s).select ctx (.array items) = pure picked
  /-- the place of an index that counts from the end has 64 bits -/
  indices : ∀ (ctx : Context) (i : Int64) (items : List Json), ∃ picked,
    Guarded.index i items = .ok picked ∧
      (Selector.index i).select ctx (.array items) = pure picked.toList
  /-- an operand takes the first of its nodes only if it has one -/
  operands : ∀ (ctx : Context) (a : Anchor) (ss : List Segment) (current : Json),
    ∃ value : List Json → Value, (∀ found, Guarded.operand found = .ok (value found)) ∧
      (Expr.single a ss).evaluate ctx current = do
        let found ← applyAll ctx ss [a.node ctx current]
        return value found
  /-- and so does the function for the value of a list -/
  values : ∀ v : Value, Guarded.valueOf v = .ok (Function.valueOf v)
  /-- built-in functions find the arguments that they look for, and ask for no form that a value may
  not have -/
  calls : ∀ (name : String) (vs : List Value) (r : Run),
    ∃ v, ((Registry.builtin.call name vs).run.run r).1 = .ok v
  /-- so every run comes to nodes, unless the signal ends it -/
  runs : ∀ p, Prepared.ofBytes octets .builtin = .ok p → ∀ s : Signal,
    (∃ found, (p.executeUnder document s).1 = .ok found) ∨
      (p.executeUnder document s).1 = .error .cancelled

open Query in
/-- **Absence of hazards.** No query meets a hazard, in whatever document. With a guard in front
of each difference, each place in a list and each argument, everything comes out as it does
without. -/
theorem meetsNoHazard (octets : List UInt8) (document : Json) : MeetsNoHazard octets document where
  literals t ht hk := by
    obtain ⟨cs, hcs⟩ := Token.Literal.isQuoted_of_mem_tokenize ht hk
    exact Guarded.unescape_eq hcs
  slices ctx s items := ⟨_, fun _ h => Guarded.slice_eq s items h, rfl⟩
  indices ctx i items := ⟨_, Guarded.index_eq i items, rfl⟩
  operands ctx a ss current := ⟨_, Guarded.operand_eq, rfl⟩
  values := Guarded.valueOf_eq
  calls := Registry.call_ok Registry.builtin_answers
  runs p hp s := by
    obtain ⟨q, -, rfl⟩ : ∃ q, Query.ofBytes octets = .ok q ∧ p = ⟨q, .builtin⟩ := by
      unfold Prepared.ofBytes at hp
      cases hq : Query.ofBytes octets with
      | error e => rw [hq] at hp; cases hp
      | ok q => rw [hq] at hp; exact ⟨q, rfl, (Except.ok.inj hp).symm⟩
    have hrun : Eval.IsFlawless (applyAll ⟨document, .builtin⟩ q.segments [document]) :=
      Eval.IsFlawless.isKept.applyAll (Registry.call_isFlawless Registry.builtin_answers)
        q.segments [document]
    cases h : (Prepared.executeUnder ⟨q, .builtin⟩ document s).1 with
    | ok found => exact .inl ⟨found, rfl⟩
    | error e =>
      cases e with
      | cancelled => exact .inr rfl
      | defect d => exact absurd h (hrun (.start s) d)

end JsonPath
