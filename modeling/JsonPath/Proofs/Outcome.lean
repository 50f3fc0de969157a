import JsonPath.Proofs.Cancellation

/-!
# The outcome of a run that nobody stops

What a computation remembers makes no difference to what comes of it (`Eval.IgnoresMemo`). So where
no function asks for the signal, a computation that nobody stops always comes to the same outcome
(`Eval.Gives`), and the outcomes of two computations, one behind the other, can be told from the
outcomes of each (`Eval.gives_bind_iff`).
-/

namespace JsonPath

namespace Eval

variable {α β : Type}

/-! ## What is remembered -/

/-- What comes of the computation, and what becomes of the signal, is the same whatever is
remembered at its start. -/
def IgnoresMemo (x : Eval α) : Prop :=
  ∀ s, ∃ r s', ∀ memo, ∃ memo', x.run.run ⟨s, memo⟩ = (r, ⟨s', memo'⟩)

namespace IgnoresMemo

theorem pure (a : α) : IgnoresMemo (pure a : Eval α) :=
  fun s => ⟨.ok a, s, fun memo => ⟨memo, rfl⟩⟩

theorem throw (e : Fault) : IgnoresMemo (throw e : Eval α) :=
  fun s => ⟨.error e, s, fun memo => ⟨memo, rfl⟩⟩

/-- Two computations that ignore the memo do so one behind the other. -/
theorem bind {x : Eval α} {f : α → Eval β} (hx : IgnoresMemo x) (hf : ∀ a, IgnoresMemo (f a)) :
    IgnoresMemo (x >>= f) := by
  intro s
  obtain ⟨r, s₁, hr⟩ := hx s
  cases r with
  | error e =>
    refine ⟨.error e, s₁, fun memo => ?_⟩
    obtain ⟨memo₁, hrun⟩ := hr memo
    exact ⟨memo₁, run_bind_error hrun⟩
  | ok a =>
    obtain ⟨r', s₂, hr'⟩ := hf a s₁
    refine ⟨r', s₂, fun memo => ?_⟩
    obtain ⟨memo₁, hrun⟩ := hr memo
    obtain ⟨memo₂, hrun'⟩ := hr' memo₁
    exact ⟨memo₂, (run_bind_ok hrun).trans hrun'⟩

theorem isRaised : IgnoresMemo Eval.isRaised :=
  fun s => ⟨.ok s.raised, s, fun memo => ⟨memo, rfl⟩⟩

theorem raise : IgnoresMemo Eval.raise :=
  fun s => ⟨.ok (), s.raise, fun memo => ⟨memo, rfl⟩⟩

/-- A look at the signal does not touch the memo. -/
theorem poll : IgnoresMemo Eval.poll :=
  fun s => ⟨_, s.look, fun memo => ⟨memo, run_poll s memo⟩⟩

/-- A pattern that is remembered is the one that would be made anew. -/
theorem compile (extent : Regex.Extent) (pattern : String) :
    IgnoresMemo (Eval.compile extent pattern) := by
  refine fun s => ⟨.ok (Regex.compile? extent pattern), s, fun memo => ?_⟩
  have hrun : (Eval.compile extent pattern).run.run ⟨s, memo⟩
      = (.ok (memo.compile extent pattern).1, ⟨s, (memo.compile extent pattern).2⟩) := rfl
  rw [Regex.Memo.compile_fst] at hrun
  exact ⟨_, hrun⟩

theorem settle (r : Except Defect α) : IgnoresMemo (Function.settle r) := by
  cases r with
  | ok a => exact .pure a
  | error d => exact .throw _

/-- A call ignores the memo: what is compiled is the same, whether it was kept or not. -/
theorem call (functions : Registry) (name : String) (vs : List Value) :
    IgnoresMemo (functions.call name vs) := by
  unfold Registry.call
  split
  · next f _ =>
    unfold Function.invoke
    split
    · generalize List.zipWith Function.Kind.coerce f.parameters vs = ws
      cases f.body with
      | answer g =>
        refine .bind .isRaised fun b => ?_
        have hsettle := settle (g ws b).result
        cases hb : (g ws b).stops with
        | false => simpa only [hb, Bool.false_eq_true, if_false] using hsettle
        | true => simpa only [hb, if_true] using .bind .raise fun _ => hsettle
      | matching extent =>
        refine .bind (.settle _) fun subject => ?_
        cases subject with
        | none => exact .pure _
        | some p => exact .bind (.compile _ _) fun _ => .pure _
    · exact .pure _
  · exact .pure _

end IgnoresMemo

/-! ## Outcomes -/

/-- Unless somebody stops the computation, this comes of it, whatever is remembered at its start. -/
def Gives (x : Eval α) (r : Except Defect α) : Prop :=
  ∀ (s : Signal) (memo : Regex.Memo), s.raised = false → s.limit = none →
    ∃ n memo', x.run.run ⟨s, memo⟩ = (liftDefect r, ⟨s.after n, memo'⟩)

theorem gives_pure (a : α) : Gives (pure a : Eval α) (.ok a) :=
  fun _ memo _ _ => ⟨0, memo, rfl⟩

theorem Gives.bind {x : Eval α} {f : α → Eval β} {a : α} {r : Except Defect β}
    (hx : x.Gives (.ok a)) (hf : (f a).Gives r) : (x >>= f).Gives r := by
  intro s memo hs hl
  obtain ⟨m, memo₁, hrun⟩ := hx s memo hs hl
  obtain ⟨n, memo₂, hrun'⟩ := hf (s.after m) memo₁ hs hl
  refine ⟨m + n, memo₂, ?_⟩
  rw [run_bind_ok hrun, hrun', Signal.after_after]

/-- Behind a defect nothing more is done. -/
theorem Gives.bind_error {x : Eval α} {f : α → Eval β} {d : Defect} (hx : x.Gives (.error d)) :
    (x >>= f).Gives (.error d) := by
  intro s memo hs hl
  obtain ⟨m, memo₁, hrun⟩ := hx s memo hs hl
  exact ⟨m, memo₁, run_bind_error hrun⟩

/-- Unless somebody stops the run, a look at the signal gives nothing. -/
theorem gives_poll : Gives Eval.poll (.ok ()) := by
  intro s memo hs hl
  have hdue : ¬ s.IsDue s.steps := by
    rintro ⟨l, hl', -⟩
    exact nomatch hl.symm.trans hl'
  refine ⟨1, memo, ?_⟩
  rw [run_poll, Signal.look_of_not_due hs hdue, Signal.after, hs]
  rfl

/-- Results of functions stay apart in a run. -/
theorem liftDefect_injective {r r' : Except Defect α} (h : liftDefect r = liftDefect r') :
    r = r' := by
  cases r with
  | ok a =>
    cases r' with
    | ok b => exact congrArg Except.ok (Except.ok.inj h)
    | error d => cases h
  | error d =>
    cases r' with
    | ok b => cases h
    | error d' => exact congrArg Except.error (Fault.defect.inj (Except.error.inj h))

/-- An evaluation has one outcome, whatever it remembers. -/
theorem Gives.unique {x : Eval α} {r r' : Except Defect α} (h : x.Gives r) (h' : x.Gives r') :
    r = r' := by
  obtain ⟨m, memo, hrun⟩ := h .down .empty rfl rfl
  obtain ⟨n, memo', hrun'⟩ := h' .down .empty rfl rfl
  exact liftDefect_injective (congrArg Prod.fst (hrun.symm.trans hrun'))

/-- The computation has an outcome, which is a result if all goes well with functions. -/
def IsSettled (well : Prop) (x : Eval α) : Prop := AllOrNothing well x ∧ IgnoresMemo x

/-- To be settled is kept by all steps of an evaluation. -/
theorem IsSettled.isKept (well : Prop) : IsKept fun {α} => IsSettled (α := α) well where
  pure a := ⟨.pure a, .pure a⟩
  bind hx hf := ⟨.bind hx.1 fun a => (hf a).1, .bind hx.2 fun a => (hf a).2⟩
  poll := ⟨.poll, .poll⟩

/-- What is settled has an outcome, which is a value if functions answer. -/
theorem IsSettled.exists_gives {well : Prop} {x : Eval α} (h : IsSettled well x) :
    ∃ r, x.Gives r ∧ (well → ∃ a, r = .ok a) := by
  obtain ⟨hx, hm⟩ := h
  obtain ⟨c, hc, hw⟩ := hx .empty
  refine ⟨c.result, fun s memo hs hl => ?_, hw⟩
  -- The course is known for an empty memory only, but the memory makes no difference.
  obtain ⟨r, s', hr⟩ := hm s
  obtain ⟨_, hempty⟩ := hr .empty
  obtain ⟨memo', hmemo⟩ := hr memo
  rcases hc s hs with ⟨-, hrun⟩ | ⟨_, _, ⟨l, hl', -⟩, _⟩
  · obtain ⟨rfl, hrest⟩ := Prod.mk.inj (hempty.symm.trans hrun)
    obtain ⟨rfl, -⟩ := Run.mk.inj hrest
    exact ⟨c.looks, memo', hmemo⟩
  · exact nomatch hl.symm.trans hl'

/-- Of two computations, one behind the other, a result comes if it comes of both. -/
theorem gives_bind_iff {x : Eval α} {f : α → Eval β} {b : β} {well : Prop}
    (hx : x.IsSettled well) (hf : ∀ a, (f a).IsSettled well) :
    (x >>= f).Gives (.ok b) ↔ ∃ a, x.Gives (.ok a) ∧ (f a).Gives (.ok b) := by
  refine ⟨fun h => ?_, fun ⟨a, ha, hb⟩ => ha.bind hb⟩
  obtain ⟨r, hr, -⟩ := hx.exists_gives
  cases r with
  | error d => exact nomatch hr.bind_error.unique h
  | ok a =>
    obtain ⟨r', hr', -⟩ := (hf a).exists_gives
    exact ⟨a, hr, (hr.bind hr').unique h ▸ hr'⟩

theorem gives_pure_iff {a b : α} : (pure a : Eval α).Gives (.ok b) ↔ b = a :=
  ⟨fun h => Except.ok.inj (h.unique (gives_pure a)), fun h => h ▸ gives_pure a⟩

end Eval

/-- Calls of functions that ignore the signal are settled. -/
theorem Registry.call_isSettled {functions : Registry} (hf : functions.IgnoresSignal)
    (name : String) (vs : List Value) :
    Eval.IsSettled functions.Answers (functions.call name vs) :=
  ⟨call_allOrNothing hf name vs, .call functions name vs⟩

/-! ## Queries -/

namespace Query

variable {ctx : Context}

/-- A row of segments is settled if no function asks for the signal. -/
theorem applyAll_isSettled (hf : ctx.functions.IgnoresSignal) (ss : List Segment)
    (ns : List Json) : Eval.IsSettled ctx.functions.Answers (applyAll ctx ss ns) :=
  (Eval.IsSettled.isKept _).applyAll (Registry.call_isSettled hf) ss ns

end Query

/-- What a query finds when it is executed is the outcome of its run. -/
theorem Prepared.execute_eq_ok_iff {p : Prepared} {document : Json} {r : Except Defect (List Json)}
    (h : (p.run document).Gives r) {found : List Json} :
    p.execute document = .ok found ↔ (p.run document).Gives (.ok found) := by
  obtain ⟨n, memo, hrun⟩ := h .down .empty rfl rfl
  have hexecute : p.execute document = r := by
    have hunder : (p.executeUnder document .down).1 = liftDefect r := congrArg Prod.fst hrun
    rw [execute, hunder]
    cases r <;> rfl
  rw [hexecute]
  exact ⟨fun hr => hr ▸ h, h.unique⟩

end JsonPath
