import JsonPath.Prepared
import JsonPath.Proofs.Steps
import Mathlib.Data.Nat.Find

/-!
# Stopping a run

A run that is stopped from outside gives nothing at all, and one that is not gives everything. The
reason is that every computation of a run has a course of its own (`Eval.Course`), with a fixed
number of looks at the signal. Either no look on the way finds the signal raised, and the
computation goes through; or the first one that does ends the run (`Eval.Follows`). This is kept by
putting computations one after the other, and all parts of evaluation are put together so.

Functions could break it: by raising the signal themselves, or by answering otherwise once it is
raised. It is assumed of a registry that none does (`Registry.IgnoresSignal`).
-/

namespace JsonPath

/-! ## Signals and schedules -/

namespace Signal

/-- The signal will have been raised from outside when so many steps have been taken. -/
def IsDue (s : Signal) (steps : Nat) : Prop := ∃ l ∈ s.limit, l ≤ steps

/-- The signal after more steps. -/
def after (s : Signal) (steps : Nat) : Signal := { s with steps := s.steps + steps }

theorem after_after (s : Signal) (m n : Nat) : (s.after m).after n = s.after (m + n) := by
  rw [after, after, after, Nat.add_assoc]

/-- At the step for which it is due the signal is raised. -/
theorem look_of_due {s : Signal} (h : s.IsDue s.steps) : s.look = s.raise := by
  obtain ⟨l, hl, hle⟩ := h
  have hany : s.limit.any (· ≤ s.steps) = true := by
    rw [Option.mem_def.mp hl]
    exact decide_eq_true hle
  rw [look, hany, Bool.or_true, if_pos rfl]

theorem look_of_not_due {s : Signal} (hr : s.raised = false) (h : ¬ s.IsDue s.steps) :
    s.look = s.after 1 := by
  have hany : s.limit.any (· ≤ s.steps) = false := by
    cases hl : s.limit with
    | none => rfl
    | some l => exact decide_eq_false fun hle => h ⟨l, hl, hle⟩
  rw [look, hr, hany, Bool.or_false, if_neg Bool.false_ne_true, after, hr]

/-- How many times a run has looked at the signal, if it was raised only by looking. -/
def looks (s : Signal) : Nat := if s.raised then s.steps + 1 else s.steps

end Signal

/-- A schedule: for each look at the signal whether it has been raised from outside by then. Nobody
takes it down again. -/
structure Schedule where
  isRaised : Nat → Bool
  stays : ∀ n, isRaised n = true → isRaised (n + 1) = true

namespace Schedule

/-- A schedule that is raised stays so. -/
theorem stays_le (p : Schedule) {m n : Nat} (h : m ≤ n) (hm : p.isRaised m = true) :
    p.isRaised n = true := by
  induction h with
  | refl => exact hm
  | step _ ih => exact p.stays _ ih

open scoped Classical in
/-- The signal that is raised as scheduled. -/
noncomputable def signal (p : Schedule) : Signal where
  raised := false
  steps := 0
  limit := if h : ∃ n, p.isRaised n = true then some (Nat.find h) else none

/-- The signal of a schedule is due when the schedule is raised. -/
theorem isDue_signal (p : Schedule) (n : Nat) : p.signal.IsDue n ↔ p.isRaised n = true := by
  unfold Signal.IsDue signal
  split
  · next h =>
    refine ⟨?_, ?_⟩
    · rintro ⟨l, hl, hle⟩
      cases hl
      exact p.stays_le hle (Nat.find_spec h)
    · exact fun hn => ⟨_, rfl, Nat.find_min' h hn⟩
  · next h => exact iff_of_false nofun fun hn => h ⟨n, hn⟩

end Schedule

/-! ## Courses -/

/-- The result of what no look ends. -/
def liftDefect {α : Type} : Except Defect α → Except Fault α
  | .ok a => .ok a
  | .error d => .error (.defect d)

/-- A defect of a function is no cancellation. -/
theorem liftDefect_ne_cancelled {α : Type} (r : Except Defect α) :
    liftDefect r ≠ .error .cancelled := by
  cases r <;> exact nofun

namespace Eval

variable {α β : Type}

/-- How a computation goes that nobody stops: what comes out, how often it looks at the signal, and
what it remembers. -/
structure Course (α : Type) where
  result : Except Defect α
  looks : Nat
  memo : Regex.Memo

/-- Unless the signal is raised already, the computation takes the course if none of its looks is
due, and else one that is due ends it. -/
def Follows (x : Eval α) (memo : Regex.Memo) (c : Course α) : Prop :=
  ∀ s : Signal, s.raised = false →
    ((∀ k < c.looks, ¬ s.IsDue (s.steps + k)) ∧
      x.run.run ⟨s, memo⟩ = (liftDefect c.result, ⟨s.after c.looks, c.memo⟩)) ∨
    ∃ k < c.looks, s.IsDue (s.steps + k) ∧
      ∃ memo', x.run.run ⟨s, memo⟩ = (.error .cancelled, ⟨(s.after k).raise, memo'⟩)

/-- The computation has a course, whatever is remembered at its start. If all goes well with
functions, then it has a result. -/
def AllOrNothing (well : Prop) (x : Eval α) : Prop :=
  ∀ memo, ∃ c, x.Follows memo c ∧ (well → ∃ a, c.result = .ok a)

/-- A computation goes on from where the first part of it has ended. -/
theorem run_bind_ok {x : Eval α} {f : α → Eval β} {r r' : Run} {a : α}
    (h : x.run.run r = (.ok a, r')) : (x >>= f).run.run r = (f a).run.run r' := by
  rw [ExceptT.run_bind, StateT.run_bind, h]
  rfl

theorem run_bind_error {x : Eval α} {f : α → Eval β} {r r' : Run} {e : Fault}
    (h : x.run.run r = (.error e, r')) : (x >>= f).run.run r = (.error e, r') := by
  rw [ExceptT.run_bind, StateT.run_bind, h]
  rfl

/-- A computation of two parts ends where the second part ends, or where the first part fails. -/
theorem run_bind_cases {x : Eval α} {f : α → Eval β} {r r' : Run} {result : Except Fault β}
    (h : (x >>= f).run.run r = (result, r')) :
    (∃ a r₁, x.run.run r = (.ok a, r₁) ∧ (f a).run.run r₁ = (result, r')) ∨
      ∃ e, x.run.run r = (.error e, r') ∧ result = .error e := by
  cases hr : x.run.run r with
  | mk first r₁ =>
    cases first with
    | ok a => exact .inl ⟨a, r₁, rfl, (run_bind_ok hr).symm.trans h⟩
    | error e =>
      obtain ⟨rfl, rfl⟩ := Prod.mk.inj ((run_bind_error hr).symm.trans h)
      exact .inr ⟨e, rfl, rfl⟩

/-- What a look finds is the signal in front of a step. -/
theorem run_poll (s : Signal) (memo : Regex.Memo) : Eval.poll.run.run ⟨s, memo⟩ =
    (if s.look.raised then .error .cancelled else .ok (), ⟨s.look, memo⟩) := by
  have hlook : (modify fun r => { r with signal := r.signal.look } : Eval Unit).run.run ⟨s, memo⟩
      = (.ok (), ⟨s.look, memo⟩) := rfl
  refine (run_bind_ok hlook).trans ?_
  change (if s.look.raised then throw Fault.cancelled else Pure.pure () : Eval Unit).run.run
    ⟨s.look, memo⟩ = _
  split <;> rfl

namespace AllOrNothing

variable {well : Prop}

/-- What returns at once is all or nothing. -/
theorem pure (a : α) : AllOrNothing well (pure a : Eval α) :=
  fun memo => ⟨⟨.ok a, 0, memo⟩, fun _ _ => .inl ⟨nofun, rfl⟩, fun _ => ⟨a, rfl⟩⟩

/-- Two computations that are all or nothing are so one behind the other. -/
theorem bind {x : Eval α} {f : α → Eval β} (hx : AllOrNothing well x)
    (hf : ∀ a, AllOrNothing well (f a)) : AllOrNothing well (x >>= f) := by
  intro memo
  obtain ⟨⟨result, m, memo₁⟩, hxc, hxr⟩ := hx memo
  cases result with
  | error d =>
    refine ⟨⟨.error d, m, memo₁⟩, fun s hs => ?_, fun h => nomatch hxr h⟩
    rcases hxc s hs with ⟨hm, hrun⟩ | ⟨k, hk, hdue, memo', hrun⟩
    · exact .inl ⟨hm, run_bind_error hrun⟩
    · exact .inr ⟨k, hk, hdue, memo', run_bind_error hrun⟩
  | ok a =>
    obtain ⟨⟨result, n, memo₂⟩, hfc, hfr⟩ := hf a memo₁
    refine ⟨⟨result, m + n, memo₂⟩, fun s hs => ?_, hfr⟩
    rcases hxc s hs with ⟨hm, hrun⟩ | ⟨k, hk, hdue, memo', hrun⟩
    · -- The second computation starts where the first has ended, after `m` more steps.
      rcases hfc (s.after m) hs with ⟨hn, hrun'⟩ | ⟨k, hk, hdue, memo', hrun'⟩
      · refine .inl ⟨fun k hk => ?_, ?_⟩
        · by_cases hkm : k < m
          · exact hm k hkm
          · have hkm := Nat.le_of_not_lt hkm
            have hn := hn (k - m) (Nat.sub_lt_left_of_lt_add hkm hk)
            rwa [Signal.after, Nat.add_assoc, Nat.add_sub_cancel' hkm] at hn
        · rw [run_bind_ok hrun, ← Signal.after_after]
          exact hrun'
      · refine .inr ⟨m + k, Nat.add_lt_add_left hk m, ?_, memo', ?_⟩
        · rwa [Signal.after, Nat.add_assoc] at hdue
        · rw [run_bind_ok hrun, ← Signal.after_after]
          exact hrun'
    · exact .inr ⟨k, Nat.lt_add_right n hk, hdue, memo', run_bind_error hrun⟩

/-- A look at the signal is the only step at which something is cut off. -/
theorem poll : AllOrNothing well Eval.poll := by
  refine fun memo => ⟨⟨.ok (), 1, memo⟩, fun s hs => ?_, fun _ => ⟨(), rfl⟩⟩
  by_cases hdue : s.IsDue s.steps
  · refine .inr ⟨0, Nat.one_pos, hdue, memo, ?_⟩
    rw [run_poll, Signal.look_of_due hdue]
    rfl
  · refine .inl ⟨fun k hk => ?_, ?_⟩
    · rwa [Nat.lt_one_iff.mp hk]
    · rw [run_poll, Signal.look_of_not_due hs hdue, Signal.after, hs]
      rfl

theorem of_run {x : Eval α} (h : ∀ memo, ∃ r memo', (well → ∃ a, r = .ok a) ∧
    ∀ s : Signal, s.raised = false → x.run.run ⟨s, memo⟩ = (liftDefect r, ⟨s, memo'⟩)) :
    AllOrNothing well x := by
  intro memo
  obtain ⟨r, memo', hw, hr⟩ := h memo
  exact ⟨⟨r, 0, memo'⟩, fun s hs => .inl ⟨nofun, hr s hs⟩, hw⟩

end AllOrNothing

end Eval

/-! ## Functions -/

namespace Function

/-- The function neither asks whether the signal is raised nor raises it. -/
def IgnoresSignal (f : Function) : Prop :=
  match f.body with
  | .answer g => ∃ answer : List Value → Except Defect Value, ∀ vs b, g vs b = ⟨answer vs, false⟩
  | .matching _ => True

/-- The function answers with a value whenever it is called with as many arguments as it has
parameters. -/
def Answers (f : Function) : Prop :=
  match f.body with
  | .answer g => ∀ vs b, vs.length = f.parameters.length → ∃ v, (g vs b).result = .ok v
  | .matching _ => 2 ≤ f.parameters.length

/-- The result of a function is settled without a step. -/
theorem settle_allOrNothing {α : Type} {well : Prop} {r : Except Defect α}
    (h : well → ∃ a, r = .ok a) : Eval.AllOrNothing well (settle r) := by
  refine .of_run fun memo => ⟨r, memo, h, fun s _ => ?_⟩
  cases r <;> rfl

theorem compile_allOrNothing {well : Prop} (extent : Regex.Extent) (pattern : String) :
    Eval.AllOrNothing well (Eval.compile extent pattern) :=
  .of_run fun memo =>
    ⟨.ok (memo.compile extent pattern).1, (memo.compile extent pattern).2, fun _ => ⟨_, rfl⟩,
      fun _ _ => rfl⟩

/-- With two arguments or more there is a subject to match. -/
theorem subject?_ok {vs : List Value} (h : 2 ≤ vs.length) : ∃ r, subject? vs = .ok r := by
  match vs, h with
  | v :: w :: _, _ => exact ⟨_, rfl⟩

/-- A function that does not look at the signal is called as a whole. -/
theorem invoke_allOrNothing {f : Function} (hf : f.IgnoresSignal) (vs : List Value) :
    Eval.AllOrNothing f.Answers (f.invoke vs) := by
  obtain ⟨name, result, parameters, body⟩ := f
  unfold invoke
  split
  · next hlen =>
    have hvs : (List.zipWith Kind.coerce parameters vs).length = parameters.length := by
      rw [List.length_zipWith, hlen, Nat.min_self]
    generalize List.zipWith Kind.coerce parameters vs = ws at hvs
    cases body with
    | answer g =>
      obtain ⟨answer, hg⟩ := hf
      -- The body looks whether the signal is raised, but does not use what it sees.
      have hrun : (Body.answer g).run ws = (do
          let _ ← Eval.isRaised
          settle (answer ws)) := by
        simp only [Body.run, hg, Bool.false_eq_true, if_false]
      rw [hrun]
      refine .bind (.of_run fun memo => ⟨.ok false, memo, fun _ => ⟨_, rfl⟩, fun s hs => ?_⟩)
        fun _ => settle_allOrNothing fun h => ?_
      · rw [← hs]
        rfl
      · obtain ⟨v, hv⟩ := h ws false hvs
        rw [hg] at hv
        exact ⟨v, hv⟩
    | matching extent =>
      refine .bind (settle_allOrNothing fun h => subject?_ok (hvs ▸ h)) fun subject => ?_
      cases subject with
      | none => exact .pure _
      | some p => exact .bind (compile_allOrNothing _ _) fun _ => .pure _
  · exact .pure _

end Function

namespace Registry

/-- No function asks for the signal or raises it. -/
def IgnoresSignal (r : Registry) : Prop := ∀ f ∈ r.functions, f.IgnoresSignal

/-- All functions answer with values. -/
def Answers (r : Registry) : Prop := ∀ f ∈ r.functions, f.Answers

/-- A call by name gives all or nothing, be the function registered or not. -/
theorem call_allOrNothing {r : Registry} (hr : r.IgnoresSignal) (name : String) (vs : List Value) :
    Eval.AllOrNothing r.Answers (r.call name vs) := by
  unfold call
  cases hf : r.lookup? name with
  | none => exact .pure _
  | some f =>
    have hmem : f ∈ r.functions := List.mem_of_find?_eq_some hf
    intro memo
    obtain ⟨c, hc, hw⟩ := Function.invoke_allOrNothing (hr f hmem) vs memo
    exact ⟨c, hc, fun h => hw (h f hmem)⟩

/-- What holds of all functions still holds when more are registered of which it holds. -/
theorem forall_mem_extend {P : Function → Prop} {r : Registry} (hr : ∀ f ∈ r.functions, P f)
    {fs : List Function} (hfs : ∀ f ∈ fs, P f) : ∀ f ∈ (r.extend fs).functions, P f := by
  induction fs generalizing r with
  | nil => exact hr
  | cons f fs ih =>
    refine ih ?_ fun g hg => hfs g (List.mem_cons_of_mem _ hg)
    intro g hg
    rcases List.mem_cons.mp hg with rfl | hg
    · exact hfs g List.mem_cons_self
    · exact hr g ((List.mem_filter.mp hg).1)

/-- No function that is built in looks at the signal. -/
theorem builtin_ignoresSignal : builtin.IgnoresSignal := by
  refine forall_mem_extend (fun f hf => nomatch hf) ?_
  simp only [Function.builtins, List.forall_mem_cons]
  exact ⟨⟨_, fun _ _ => rfl⟩, ⟨_, fun _ _ => rfl⟩, ⟨_, fun _ _ => rfl⟩, trivial, trivial, nofun⟩

/-- Every function that is built in answers. -/
theorem builtin_answers : builtin.Answers := by
  refine forall_mem_extend (fun f hf => nomatch hf) ?_
  simp [Function.builtins, Function.Answers, Function.unary, Function.Body.ofPure]

end Registry

/-! ## Evaluation -/

theorem Eval.AllOrNothing.isKept (well : Prop) :
    Eval.IsKept fun {α} => Eval.AllOrNothing (α := α) well where
  pure := .pure
  bind := .bind
  poll := .poll

/-- A row of segments is all or nothing under every schedule. -/
theorem Query.applyAll_allOrNothing {ctx : Context} (hf : ctx.functions.IgnoresSignal)
    (ss : List Segment) (ns : List Json) :
    Eval.AllOrNothing ctx.functions.Answers (applyAll ctx ss ns) :=
  (Eval.AllOrNothing.isKept _).applyAll (Registry.call_allOrNothing hf) ss ns

/-! ## Runs -/

namespace Prepared

/-- A run goes its course, or is stopped. -/
theorem exists_course (p : Prepared) (document : Json) (hf : p.functions.IgnoresSignal) :
    ∃ (r : Except Defect (List Json)) (looks : Nat),
      (p.functions.Answers → ∃ found, r = .ok found) ∧
      ∀ s : Signal, s.raised = false → s.steps = 0 →
        ((∀ k < looks, ¬ s.IsDue k) ∧
          p.executeUnder document s = (liftDefect r, s.after looks)) ∨
        ∃ k < looks, s.IsDue k ∧ p.executeUnder document s = (.error .cancelled, (s.after k).raise) := by
  let ctx : Context := ⟨document, p.functions⟩
  have hrun : Eval.AllOrNothing p.functions.Answers
      (Query.applyAll ctx p.query.segments [document]) :=
    Query.applyAll_allOrNothing hf p.query.segments [document]
  obtain ⟨c, hc, hw⟩ := hrun .empty
  refine ⟨c.result, c.looks, hw, fun s hs hsteps => ?_⟩
  have hfrom : p.executeUnder document s =
      (fun q : Except Fault (List Json) × Run => (q.1, q.2.signal))
        ((p.run document).run.run ⟨s, .empty⟩) := rfl
  rcases hc s hs with ⟨hk, hrun⟩ | ⟨k, hk, hdue, memo', hrun⟩
  · rw [hsteps] at hk
    refine .inl ⟨fun k hlt => Nat.zero_add k ▸ hk k hlt, ?_⟩
    rw [hfrom, Prepared.run, hrun]
  · rw [hsteps, Nat.zero_add] at hdue
    refine .inr ⟨k, hk, hdue, ?_⟩
    rw [hfrom, Prepared.run, hrun]

/-- A run under a signal that is raised as scheduled is stopped as a whole or not at all. -/
structure StopsAsAWhole (p : Prepared) (document : Json) (schedule : Schedule) : Prop where
  /-- a run that nobody stops is not stopped -/
  free : (p.executeUnder document .down).1 ≠ .error .cancelled
  /-- it has a result, unless a function fails -/
  succeeds : p.functions.Answers → ∃ found, (p.executeUnder document .down).1 = .ok found
  /-- the run is stopped exactly if one of its looks finds the signal raised -/
  cancelled_iff : (p.executeUnder document schedule.signal).1 = .error .cancelled ↔
    ∃ n < (p.executeUnder document schedule.signal).2.looks, schedule.isRaised n = true
  /-- and otherwise nothing is missing from its result -/
  complete : (p.executeUnder document schedule.signal).1 ≠ .error .cancelled →
    (p.executeUnder document schedule.signal).1 = (p.executeUnder document .down).1
  /-- a signal that is raised later stops no more runs -/
  later : ∀ s : Schedule, (∀ n, s.isRaised n = true → schedule.isRaised n = true) →
    (p.executeUnder document schedule.signal).1 ≠ .error .cancelled →
      (p.executeUnder document s.signal).1 = (p.executeUnder document schedule.signal).1

/-- **All or nothing.** However a query and a document are made, and whenever the signal is
raised, a run is stopped as a whole or not at all. -/
theorem stopsAsAWhole (p : Prepared) (document : Json) (schedule : Schedule)
    (hf : p.functions.IgnoresSignal) : p.StopsAsAWhole document schedule := by
  obtain ⟨r, looks, hr, hcourse⟩ := p.exists_course document hf
  -- Under a signal that is never raised the run goes to its end, and what it finds there is what
  -- every other run finds that is not cancelled.
  have hfree : (p.executeUnder document .down).1 = liftDefect r := by
    rcases hcourse .down rfl rfl with ⟨-, hrun⟩ | ⟨_, _, hdue, _⟩
    · rw [hrun]
    · obtain ⟨l, hl, -⟩ := hdue
      cases hl
  have hsignal : ∀ s : Schedule,
      ((∀ k < looks, s.isRaised k ≠ true) ∧
        p.executeUnder document s.signal = (liftDefect r, s.signal.after looks)) ∨
      ∃ k < looks, s.isRaised k = true ∧
        p.executeUnder document s.signal = (.error .cancelled, (s.signal.after k).raise) := by
    intro s
    simpa only [s.isDue_signal] using hcourse s.signal rfl rfl
  have hlooks : (schedule.signal.after looks).looks = looks := Nat.zero_add looks
  have hraise : ∀ k, (schedule.signal.after k).raise.looks = k + 1 := fun k =>
    congrArg (· + 1) (Nat.zero_add k)
  refine ⟨hfree ▸ liftDefect_ne_cancelled r, fun h => ?_, ?_, fun h => ?_, fun s hs h => ?_⟩
  · obtain ⟨found, rfl⟩ := hr h
    exact ⟨found, hfree⟩
  · rcases hsignal schedule with ⟨hk, hrun⟩ | ⟨k, -, hk, hrun⟩
    · rw [hrun, hlooks]
      exact iff_of_false (liftDefect_ne_cancelled r) fun ⟨n, hn, hn'⟩ => hk n hn hn'
    · rw [hrun, hraise]
      exact iff_of_true rfl ⟨k, Nat.lt_succ_self k, hk⟩
  · rcases hsignal schedule with ⟨-, hrun⟩ | ⟨k, -, -, hrun⟩
    · rw [hrun, hfree]
    · exact absurd (congrArg Prod.fst hrun) h
  · rcases hsignal schedule with ⟨hk, hrun⟩ | ⟨k, -, -, hrun⟩
    · rcases hsignal s with ⟨-, hrun'⟩ | ⟨k, hlt, hk', -⟩
      · rw [hrun, hrun']
      · exact absurd (hs k hk') (hk k hlt)
    · exact absurd (congrArg Prod.fst hrun) h

/-- The query `$..[?length(@) == 1]` on `[[[]]]`, stopped at its third look. -/
theorem stopsAsAWhole_builtin :
    let e : Query.Expr := .binary (.compare .equal) (.call "length" [.single .current []]) (.integer 1)
    Registry.builtin.IgnoresSignal ∧
      StopsAsAWhole ⟨⟨[.brackets .descendants [.filter e]]⟩, .builtin⟩ (.array [.array [.array []]])
        ⟨fun n => decide (2 ≤ n), fun _ h => decide_eq_true (Nat.le_succ_of_le (of_decide_eq_true h))⟩ :=
  ⟨Registry.builtin_ignoresSignal, stopsAsAWhole _ _ _ Registry.builtin_ignoresSignal⟩

end Prepared

end JsonPath
