import JsonPath.Proofs.Composition
import JsonPath.Proofs.Parameters

/-!
# Runs under a signal of their own

When a query is executed, nobody outside can stop it. So its run comes to an end, and what it finds
is what execution gives, as long as none of its functions raises the signal (`execute_keeps`): a
run is cancelled only if the signal is raised at its end (`EndsRaised`), and only a function raises
it (`StaysDown`).

A function that raises the signal loses what is found. What it answers is not asked for, and from
the next step on there is nothing at all (`execute_keeps_stop`).
-/

namespace JsonPath

open JsonPath.Function (Kind)

/-! ## Who raises the signal -/

/-- The signal is not raised, and nobody outside will raise it. -/
structure Signal.IsDown (s : Signal) : Prop where
  raised : s.raised = false
  limit : s.limit = none

theorem Signal.isDown_down : Signal.down.IsDown := ⟨rfl, rfl⟩

/-- A signal that is down stays so when it is looked at. -/
theorem Signal.IsDown.look {s : Signal} (h : s.IsDown) : s.look.IsDown := by
  rw [Signal.look, h.raised, h.limit]
  exact ⟨rfl, rfl⟩

/-- A signal that is raised is found so. -/
theorem Signal.look_of_raised {s : Signal} (h : s.raised = true) : s.look = s.raise := by
  rw [Signal.look, h, Bool.true_or, if_pos rfl]

namespace Eval

variable {α : Type}

/-- When a run of the computation is cancelled, the signal is raised at its end. -/
def EndsRaised (x : Eval α) : Prop :=
  x.Maintains (fun _ => True) fun e r => e = .cancelled → r.signal.raised = true

/-- A computation that starts with the signal down leaves it down, and is not cancelled. -/
def StaysDown (x : Eval α) : Prop :=
  x.Maintains (fun r => r.signal.IsDown) fun e _ => e ≠ .cancelled

/-- To end only with the signal raised is kept by all steps of an evaluation. -/
theorem EndsRaised.isKept : IsKept fun {α} => EndsRaised (α := α) := by
  refine Maintains.isKept ⟨fun _ _ => trivial, fun {r r' e} _ hrun _ => ?_⟩
  rw [run_poll r.signal r.memo] at hrun
  obtain ⟨hresult, rfl⟩ := Prod.mk.inj hrun
  split at hresult
  · next hlook => exact hlook
  · cases hresult

theorem StaysDown.isKept : IsKept fun {α} => StaysDown (α := α) := by
  refine Maintains.isKept ⟨fun {r r' u} hdown hrun => ?_, fun {r r' e} hdown hrun => ?_⟩
  · rw [run_poll r.signal r.memo] at hrun
    obtain ⟨-, rfl⟩ := Prod.mk.inj hrun
    exact hdown.look
  · rw [run_poll r.signal r.memo, hdown.look.raised] at hrun
    cases hrun

end Eval

/-! ## What a call leaves behind -/

namespace Function

/-- What a body answers to arguments, and to whether the signal is raised. -/
def Body.reply : Body → List Value → Bool → Reply
  | .answer f, vs, raised => f vs raised
  | .matching extent, vs, _ =>
    ⟨do
      match ← subject? vs with
      | some (text, pattern) =>
        return .logical (Regex.accepts (Regex.compile? extent pattern) text)
      | none => return .logical false, false⟩

/-- What a function answers when it is called. -/
def reply (f : Function) (vs : List Value) (raised : Bool) : Reply :=
  if vs.length = f.parameters.length then
    f.body.reply (List.zipWith Kind.coerce f.parameters vs) raised
  else ⟨.ok .nothing, false⟩

end Function

/-- What comes of a call of the function of a name. -/
def Registry.reply (functions : Registry) (name : String) (vs : List Value) (raised : Bool) :
    Function.Reply :=
  match functions.lookup? name with
  | some f => f.reply vs raised
  | none => ⟨.ok .nothing, false⟩

/-- The signal behind a call. -/
def Signal.behind (s : Signal) (reply : Function.Reply) : Signal :=
  if reply.stops then s.raise else s

namespace Function

/-- Whether a body raises the signal. -/
def Body.stops : Body → List Value → Bool → Bool
  | .answer g, vs, raised => (g vs raised).stops
  | .matching _, _, _ => false

/-- A reply is settled behind the signal that it raises. -/
theorem run_reply (reply : Reply) (r : Run) :
    (do if reply.stops then Eval.raise
        settle reply.result : Eval Value).run.run r =
      (liftDefect reply.result, ⟨if reply.stops then r.signal.raise else r.signal, r.memo⟩) := by
  obtain ⟨result, stops⟩ := reply
  cases result <;> cases stops <;> rfl

/-- A reply stops the run if its body does. -/
theorem Body.stops_reply (body : Body) (vs : List Value) (raised : Bool) :
    (body.reply vs raised).stops = body.stops vs raised := by
  cases body <;> rfl

/-- A body comes to what it answers, and raises the signal or leaves it. -/
theorem Body.run_reply (body : Body) (vs : List Value) (r : Run) : ∃ memo,
    (body.run vs).run.run r = (liftDefect (body.reply vs r.signal.raised).result,
      ⟨r.signal.behind (body.reply vs r.signal.raised), memo⟩) := by
  cases body with
  | answer g =>
    have hraised : Eval.isRaised.run.run r = (.ok r.signal.raised, r) := rfl
    refine ⟨r.memo, ?_⟩
    simp only [Body.run]
    rw [Eval.run_bind_ok hraised]
    exact Function.run_reply _ r
  | matching extent =>
    simp only [Body.run, Body.reply]
    cases subject? vs with
    | error d => exact ⟨r.memo, rfl⟩
    | ok subject =>
      cases subject with
      | none => exact ⟨r.memo, rfl⟩
      | some texts =>
        -- a pattern that is remembered is the one that would be made anew
        have hcompile := r.memo.compile_fst extent texts.2
        have hrun : (Eval.compile extent texts.2).run.run r =
            (.ok (r.memo.compile extent texts.2).1,
              ⟨r.signal, (r.memo.compile extent texts.2).2⟩) := rfl
        rw [hcompile] at hrun
        have hbind := Eval.run_bind_ok (f := fun compiled =>
          Pure.pure (Value.logical (Regex.accepts compiled texts.1))) hrun
        exact ⟨_, hbind⟩

/-- The function does not raise the signal, whatever arguments it gets while the signal is down. It
may ask for the signal. -/
def NeverStops (f : Function) : Prop :=
  ∀ vs, List.Forall₂ Kind.Grants f.parameters vs → f.body.stops vs false = false

theorem NeverStops.stops_reply {f : Function} (h : f.NeverStops) (vs : List Value) :
    (f.reply vs false).stops = false := by
  unfold reply
  split
  · next hlen => exact (f.body.stops_reply _ false).trans (h _ (forall₂_grants hlen))
  · rfl

end Function

namespace Registry

/-- No function raises the signal. -/
def NeverStops (functions : Registry) : Prop := ∀ f ∈ functions.functions, f.NeverStops

variable {functions : Registry}

theorem NeverStops.stops_reply (h : functions.NeverStops) (name : String) (vs : List Value) :
    (functions.reply name vs false).stops = false := by
  unfold reply
  cases hf : functions.lookup? name with
  | none => rfl
  | some f => exact (h f (List.mem_of_find?_eq_some hf)).stops_reply vs

/-- A call comes to what is answered to it. -/
theorem run_call (name : String) (vs : List Value) (r : Run) : ∃ memo,
    (functions.call name vs).run.run r =
      (liftDefect (functions.reply name vs r.signal.raised).result,
        ⟨r.signal.behind (functions.reply name vs r.signal.raised), memo⟩) := by
  unfold call reply
  cases functions.lookup? name with
  | none => exact ⟨r.memo, rfl⟩
  | some f =>
    simp only [Function.invoke, Function.reply]
    split
    · exact f.body.run_reply _ r
    · exact ⟨r.memo, rfl⟩

/-- No call is cancelled by itself. -/
theorem call_ne_cancelled {name : String} {vs : List Value} {r r' : Run} {e : Fault}
    (h : (functions.call name vs).run.run r = (.error e, r')) : e ≠ .cancelled := by
  rintro rfl
  obtain ⟨memo, hrun⟩ := functions.run_call name vs r
  exact liftDefect_ne_cancelled _ (congrArg Prod.fst (hrun.symm.trans h))

/-- So a call ends with the signal raised if it is cancelled, since it never is. -/
theorem call_endsRaised (name : String) (vs : List Value) :
    (functions.call name vs).EndsRaised :=
  ⟨fun _ _ => trivial, fun _ hrun he => absurd he (call_ne_cancelled hrun)⟩

/-- A function that never stops the run leaves the signal down. -/
theorem call_staysDown (hf : functions.NeverStops) (name : String) (vs : List Value) :
    (functions.call name vs).StaysDown := by
  refine ⟨fun {r r' v} hdown hrun => ?_, fun _ hrun => call_ne_cancelled hrun⟩
  obtain ⟨memo, hcall⟩ := functions.run_call name vs r
  obtain rfl := congrArg Prod.snd (hcall.symm.trans hrun)
  have hbehind : r.signal.behind (functions.reply name vs r.signal.raised) = r.signal := by
    rw [hdown.raised]
    exact if_neg (Bool.eq_false_iff.mp (hf.stops_reply name vs))
  rw [hbehind]
  exact hdown

end Registry

/-! ## Queries -/

namespace Prepared

/-- The result of a run under a signal of its own is what execution gives, unless a function raises
the signal. -/
structure KeepsResult (p : Prepared) (document : Json) : Prop where
  /-- if no function does, the run ends with nodes or because a function fails, and so does
  execution -/
  complete : p.functions.NeverStops → ∃ r, (p.executeUnder document .down).1 = liftDefect r ∧
    p.execute document = r ∧ (p.functions.Answers → ∃ found, r = .ok found)
  /-- whatever functions do, a run that is cancelled has the signal raised at its end -/
  raised : (p.executeUnder document .down).1 = .error .cancelled →
    (p.executeUnder document .down).2.raised = true
  /-- and a run that has it raised at its end is lost with any further segment -/
  lost : ∀ found, (p.executeUnder document .down).1 = .ok found →
    (p.executeUnder document .down).2.raised = true →
    ∀ s ss, execute ⟨⟨p.query.segments ++ s :: ss⟩, p.functions⟩ document = .ok []

/-- A look at a signal that is raised ends the run. -/
theorem applyAll_of_raised (ctx : Context) (s : Query.Segment) (ss : List Query.Segment)
    (ns : List Json) {r : Run} (h : r.signal.raised = true) :
    ((Query.applyAll ctx (s :: ss) ns).run.run r).1 = .error .cancelled := by
  have hpoll : Eval.poll.run.run r = (.error .cancelled, ⟨r.signal.raise, r.memo⟩) := by
    rw [Eval.run_poll r.signal r.memo, Signal.look_of_raised h]
    rfl
  have happly : (s.apply ctx ns).run.run r = (.error .cancelled, ⟨r.signal.raise, r.memo⟩) := by
    rw [s.apply_eq]
    exact Eval.run_bind_error hpoll
  rw [Query.applyAll, Eval.run_bind_error happly]

/-- **Execution.** Execution keeps the result of the run unless a function raises the signal.
Nobody else could do it, since the signal is one of the execution's own. -/
theorem execute_keeps (p : Prepared) (document : Json) : KeepsResult p document where
  complete hf := by
    cases h : (p.executeUnder document .down).1 with
    | ok found =>
      refine ⟨.ok found, rfl, ?_, fun _ => ⟨found, rfl⟩⟩
      rw [execute, h]
    | error e =>
      cases e with
      | cancelled =>
        have hrun : (p.run document).StaysDown :=
          Eval.StaysDown.isKept.applyAll (Registry.call_staysDown hf) _ _
        exact absurd rfl (hrun.error Signal.isDown_down (Prod.ext h rfl))
      | defect d =>
        refine ⟨.error d, rfl, ?_, fun ha => ?_⟩
        · rw [execute, h]
        · -- Functions that answer do not fail.
          have hflawless : (p.run document).IsFlawless :=
            Eval.IsFlawless.isKept.applyAll (Registry.call_isFlawless ha) _ _
          exact absurd h (hflawless (.start .down) d)
  raised h := by
    have hrun : (p.run document).EndsRaised :=
      Eval.EndsRaised.isKept.applyAll Registry.call_endsRaised _ _
    exact hrun.error trivial (Prod.ext h rfl) rfl
  lost found hfound hraised s ss := by
    cases hrun : (p.run document).run.run (.start .down) with
    | mk result r =>
      have hunder : p.executeUnder document .down = (result, r.signal) := by
        rw [executeUnder, Eval.runFrom, hrun]
      rw [hunder] at hfound hraised
      obtain rfl : result = .ok found := hfound
      -- The longer query goes on from the same nodes, but its next look is the last.
      have happend : run ⟨⟨p.query.segments ++ s :: ss⟩, p.functions⟩ document
          = p.run document >>= Query.applyAll ⟨document, p.functions⟩ (s :: ss) :=
        Query.applyAll_append _ _ _
      have hcancelled : (executeUnder ⟨⟨p.query.segments ++ s :: ss⟩, p.functions⟩ document .down).1
          = .error .cancelled := by
        rw [executeUnder, happend, Eval.runFrom, Eval.run_bind_ok hrun]
        exact applyAll_of_raised _ s ss found hraised
      rw [execute, hcancelled]

end Prepared

/-- A function that tells whether the signal is raised. -/
def Function.cancelled : Function where
  name := "cancelled"
  result := .logical
  parameters := []
  body := .answer fun _ raised => ⟨.ok (.logical raised), false⟩

/-- A function that raises the signal. -/
def Function.stop : Function where
  name := "stop"
  result := .logical
  parameters := []
  body := .answer fun _ _ => ⟨.ok (.logical true), true⟩

namespace Prepared

/-- The query `$[?!cancelled()]` on `[null, true]`. -/
theorem execute_keeps_cancelled :
    let e : Query.Expr := .not (.call "cancelled" [])
    let p : Prepared := ⟨⟨[.brackets .children [.filter e]]⟩, Registry.empty.register .cancelled⟩
    let document := Json.array [.null, .bool true]
    p.functions.NeverStops ∧ p.functions.Answers ∧
      ∃ found, (p.executeUnder document .down).1 = .ok found ∧ p.execute document = .ok found := by
  intro e p document
  have hstops : p.functions.NeverStops := by
    intro f hf
    obtain rfl := List.mem_singleton.mp hf
    exact fun _ _ => rfl
  have hanswers : p.functions.Answers := by
    intro f hf
    obtain rfl := List.mem_singleton.mp hf
    exact fun _ raised _ => ⟨.logical raised, rfl⟩
  obtain ⟨r, hunder, hexecute, hr⟩ := (p.execute_keeps document).complete hstops
  obtain ⟨found, rfl⟩ := hr hanswers
  exact ⟨hstops, hanswers, found, hunder, hexecute⟩

/-- The query `$[?stop()]` selects all items, and execution finds none if there is more than one. -/
theorem execute_keeps_stop :
    let p : Prepared :=
      ⟨⟨[.brackets .children [.filter (.call "stop" [])]]⟩, Registry.empty.register .stop⟩
    p.execute (.array [.null]) = .ok [.null] ∧
      (p.executeUnder (.array [.null, .bool true]) .down).1 = .error .cancelled ∧
      p.execute (.array [.null, .bool true]) = .ok [] :=
  ⟨rfl, rfl, rfl⟩

end Prepared

end JsonPath
