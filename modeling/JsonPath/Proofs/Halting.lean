import JsonPath.Proofs.Completion
import JsonPath.Proofs.Scripts

/-!
# The step at which a run ends

A function that is called in a run can raise the signal. The run notices it at its next step, at
whatever depth that step is due, and ends there. This is said of the script of the run. Without a
signal to heed, everything in the script would happen (`Script.events`), and something would come of
it (`Script.outcome`). What does happen is what comes before the first step for which the signal is
raised (`Script.log_eq_takeWhile`). If there is no such step, all of it happens, and else the run is
cancelled (`Script.run_play`).

Once the signal is raised it stays so, and from then on there are only calls, of functions in
expressions that have been begun before (`Script.stopsAtNextStep`).
-/

namespace JsonPath

open Query (Expr)

/-! ## Signals behind looks and calls -/

/-- Functions that answer with values answer so to every call. -/
theorem Registry.reply_ok {functions : Registry} (ha : functions.Answers) (name : String)
    (vs : List Value) (s : Signal) : ∃ v, (functions.reply name vs s.raised).result = .ok v := by
  obtain ⟨v, hv⟩ := call_ok ha name vs (.start s)
  obtain ⟨memo, hrun⟩ := functions.run_call name vs (.start s)
  rw [hrun] at hv
  exact ⟨v, Eval.liftDefect_injective hv⟩

namespace Signal

variable {s : Signal}

/-- A signal that is raised stays so when it is looked at. -/
theorem raised_look (h : s.raised = true) : s.look.raised = true := by
  rw [look_of_raised h]
  rfl

/-- Behind a call the signal is raised if it was before, or if the function has raised it. -/
theorem raised_behind (s : Signal) (reply : Function.Reply) :
    (s.behind reply).raised = (s.raised || reply.stops) := by
  unfold behind
  cases reply.stops with
  | true => exact (Bool.or_true _).symm
  | false => exact (Bool.or_false _).symm

theorem raised_behind_of_raised (h : s.raised = true) (reply : Function.Reply) :
    (s.behind reply).raised = true := by
  rw [raised_behind, h, Bool.true_or]

theorem steps_behind (s : Signal) (reply : Function.Reply) : (s.behind reply).steps = s.steps := by
  unfold behind
  split <;> rfl

/-- A step is counted unless the signal is raised. -/
theorem steps_look (s : Signal) :
    s.look.steps = s.steps + if s.look.raised then 0 else 1 := by
  unfold look
  split
  · rfl
  · next hnot =>
    have hraised : s.raised = false := Bool.eq_false_iff.mpr fun h => hnot (by rw [h]; rfl)
    rw [hraised]
    rfl

end Signal

/-! ## What happens in a run -/

/-- What happens in a run, apart from its looks at the signal. -/
inductive Event where
  | step (s : Step)
  | call (function : String) (arguments : List Value)

/-- Whether the event is one that the run looks at its signal in front of. -/
def Event.isStep : Event → Bool
  | step _ => true
  | call _ _ => false

/-- Something that happens, or is due. -/
structure Entry where
  /-- the expressions that are being evaluated, the innermost first -/
  around : List Expr
  event : Event
  /-- whether the signal is raised when the run comes to it -/
  raised : Bool

namespace Entry

variable (around : List Expr) (raised : Bool)

/-- It is a step, and the signal is raised. -/
def isRefused (e : Entry) : Bool := e.raised && e.event.isStep

theorem isRefused_call (f : String) (vs : List Value) :
    isRefused ⟨around, .call f vs, raised⟩ = false := Bool.and_false raised

/-- A step is refused if the signal is raised for it. -/
theorem isRefused_step (s : Step) : isRefused ⟨around, .step s, raised⟩ = raised :=
  Bool.and_true raised

/-- Whether the signal is raised behind the entry: it is so in front of it, or the function that is
called raises it. -/
def raises (functions : Registry) (e : Entry) : Bool :=
  match e.event with
  | .step _ => e.raised
  | .call f vs => e.raised || (functions.reply f vs e.raised).stops

/-- An entry that finds the signal raised leaves it raised. -/
theorem raises_of_raised {functions : Registry} {e : Entry} (h : e.raised = true) :
    e.raises functions = true := by
  unfold raises
  split
  · exact h
  · rw [h, Bool.true_or]

end Entry

namespace Script

variable {α β : Type} (functions : Registry)

/-- Everything in the script, one after the other, as if the run went on whatever the signal is. A
function that fails is the last that is called. -/
def events : Script α → Signal → List Entry
  | done _, _ => []
  | step around e rest, s => ⟨around, .step e, s.look.raised⟩ :: rest.events s.look
  | call around f vs rest, s =>
    ⟨around, .call f vs, s.raised⟩ ::
      match (functions.reply f vs s.raised).result with
      | .ok v => (rest v).events (s.behind (functions.reply f vs s.raised))
      | .error _ => []

/-- What comes of the script if the run goes on whatever the signal is. -/
def outcome : Script α → Signal → Except Defect α
  | done a, _ => .ok a
  | step _ _ rest, s => rest.outcome s.look
  | call _ f vs rest, s =>
    match (functions.reply f vs s.raised).result with
    | .ok v => (rest v).outcome (s.behind (functions.reply f vs s.raised))
    | .error d => .error d

/-- What happens when the script is played, one after the other. -/
def log : Script α → Signal → List Entry
  | done _, _ => []
  | step around e rest, s =>
    if s.look.raised then [] else ⟨around, .step e, s.look.raised⟩ :: rest.log s.look
  | call around f vs rest, s =>
    ⟨around, .call f vs, s.raised⟩ ::
      match (functions.reply f vs s.raised).result with
      | .ok v => (rest v).log (s.behind (functions.reply f vs s.raised))
      | .error _ => []

/-- The signal that the script leaves behind when it is played. -/
def leaves : Script α → Signal → Signal
  | done _, s => s
  | step _ _ rest, s => if s.look.raised then s.look else rest.leaves s.look
  | call _ f vs rest, s =>
    match (functions.reply f vs s.raised).result with
    | .ok v => (rest v).leaves (s.behind (functions.reply f vs s.raised))
    | .error _ => s.behind (functions.reply f vs s.raised)

variable {functions} {x : Script α} {s : Signal}

/-- What happens is what comes before the first step for which the signal is raised. -/
theorem log_eq_takeWhile (x : Script α) (s : Signal) :
    x.log functions s = (x.events functions s).takeWhile (!·.isRefused) := by
  induction x generalizing s with
  | done a => rfl
  | step around e rest ih =>
    rw [log, events]
    cases hlook : s.look.raised with
    | true => rw [if_pos rfl, List.takeWhile_cons, Entry.isRefused_step]; rfl
    | false =>
      rw [if_neg Bool.false_ne_true, List.takeWhile_cons, Entry.isRefused_step, ih]
      rfl
  | call around f vs rest ih =>
    rw [log, events, List.takeWhile_cons, Entry.isRefused_call]
    cases (functions.reply f vs s.raised).result with
    | error d => rfl
    | ok v => exact congrArg (_ :: ·) (ih v _)

/-- As many steps are counted as are taken. -/
theorem steps_leaves (x : Script α) (s : Signal) :
    (x.leaves functions s).steps = s.steps + (x.log functions s).countP (·.event.isStep) := by
  induction x generalizing s with
  | done a => rfl
  | step around e rest ih =>
    have hsteps := s.steps_look
    rw [leaves, log]
    cases hlook : s.look.raised with
    | true => rwa [hlook] at hsteps
    | false =>
      rw [hlook, if_neg Bool.false_ne_true] at hsteps
      rw [if_neg Bool.false_ne_true, if_neg Bool.false_ne_true, ih, hsteps,
        List.countP_cons_of_pos rfl, Nat.add_assoc, Nat.add_comm 1]
  | call around f vs rest ih =>
    rw [leaves, log, List.countP_cons_of_neg Bool.false_ne_true]
    cases (functions.reply f vs s.raised).result with
    | error d => exact s.steps_behind _
    | ok v => exact (ih v _).trans (congrArg (· + _) (s.steps_behind _))

/-- The script has a result if its functions answer. -/
theorem outcome_ok (ha : functions.Answers) (x : Script α) (s : Signal) :
    ∃ a, x.outcome functions s = .ok a := by
  induction x generalizing s with
  | done a => exact ⟨a, rfl⟩
  | step around e rest ih => exact ih _
  | call around f vs rest ih =>
    obtain ⟨v, hv⟩ := Registry.reply_ok ha f vs s
    obtain ⟨a, hrest⟩ := ih v (s.behind (functions.reply f vs s.raised))
    exact ⟨a, by rw [outcome, hv]; exact hrest⟩

/-! ### Nobody takes the signal down -/

/-- Once the signal is raised at the start, it is so for everything. -/
theorem raised_of_mem_events (hs : s.raised = true) :
    ∀ e ∈ x.events functions s, e.raised = true := by
  induction x generalizing s with
  | done a => exact nofun
  | step around e rest ih =>
    have hlook := Signal.raised_look hs
    exact List.forall_mem_cons.mpr ⟨hlook, ih hlook⟩
  | call around f vs rest ih =>
    rw [events]
    refine List.forall_mem_cons.mpr ⟨hs, ?_⟩
    cases (functions.reply f vs s.raised).result with
    | error d => exact nofun
    | ok v => exact ih v (Signal.raised_behind_of_raised hs _)

theorem raised_leaves (x : Script α) (h : s.raised = true) :
    (x.leaves functions s).raised = true := by
  induction x generalizing s with
  | done a => exact h
  | step around e rest ih =>
    have hlook := Signal.raised_look h
    rw [leaves, if_pos hlook]
    exact hlook
  | call around f vs rest ih =>
    rw [leaves]
    cases (functions.reply f vs s.raised).result with
    | error d => exact Signal.raised_behind_of_raised h _
    | ok v => exact ih v (Signal.raised_behind_of_raised h _)

/-- Once the signal is raised the run finds it so. -/
theorem pairwise_events (x : Script α) (s : Signal) : (x.events functions s).Pairwise
    fun a b => a.raises functions = true → b.raised = true := by
  induction x generalizing s with
  | done a => exact .nil
  | step around e rest ih => exact .cons (fun b hb hlook => raised_of_mem_events hlook b hb) (ih _)
  | call around f vs rest ih =>
    rw [events]
    cases (functions.reply f vs s.raised).result with
    | error d => exact .cons nofun .nil
    | ok v =>
      refine .cons (fun b hb hraises => ?_) (ih v _)
      exact raised_of_mem_events ((s.raised_behind _).trans hraises) b hb

theorem raised_leaves_of_mem_events (x : Script α) (s : Signal) : ∀ e ∈ x.events functions s,
    e.raises functions = true → (x.leaves functions s).raised = true := by
  induction x generalizing s with
  | done a => exact nofun
  | step around e rest ih =>
    rw [events, leaves]
    split
    · next hlook => exact fun _ _ _ => hlook
    · next hlook => exact List.forall_mem_cons.mpr ⟨fun h => absurd h hlook, ih _⟩
  | call around f vs rest ih =>
    rw [events]
    refine List.forall_mem_cons.mpr ⟨fun hraises => ?_, ?_⟩
    · have hbehind := (s.raised_behind (functions.reply f vs s.raised)).trans hraises
      rw [leaves]
      cases (functions.reply f vs s.raised).result with
      | error d => exact hbehind
      | ok v => exact (rest v).raised_leaves hbehind
    · rw [leaves]
      cases (functions.reply f vs s.raised).result with
      | error d => exact nofun
      | ok v => exact ih v _

/-- Played in a run, the script is cancelled if it comes to a step for which the signal is raised,
and otherwise what comes of it is its outcome. -/
theorem run_play (x : Script α) (r : Run) : ∃ memo,
    (x.play functions).run.run r =
      (if (x.events functions r.signal).any Entry.isRefused then .error .cancelled
        else liftDefect (x.outcome functions r.signal), ⟨x.leaves functions r.signal, memo⟩) := by
  induction x generalizing r with
  | done a => exact ⟨r.memo, rfl⟩
  | step around e rest ih =>
    have hpoll := Eval.run_poll r.signal r.memo
    rw [events, outcome, leaves, List.any_cons, Entry.isRefused_step]
    -- A step looks at the signal first; a call does not, and it may raise the signal for what
    -- follows.
    cases hlook : r.signal.look.raised with
    | true =>
      rw [hlook] at hpoll
      exact ⟨r.memo, Eval.run_bind_error hpoll⟩
    | false =>
      rw [hlook] at hpoll
      obtain ⟨memo, hrun⟩ := ih ⟨r.signal.look, r.memo⟩
      exact ⟨memo, (Eval.run_bind_ok hpoll).trans hrun⟩
  | call around f vs rest ih =>
    obtain ⟨memo, hcall⟩ := functions.run_call f vs r
    rw [events, outcome, leaves, List.any_cons, Entry.isRefused_call]
    cases hreply : (functions.reply f vs r.signal.raised).result with
    | error d =>
      rw [hreply] at hcall
      exact ⟨memo, Eval.run_bind_error hcall⟩
    | ok v =>
      rw [hreply] at hcall
      obtain ⟨memo', hrun⟩ := ih v ⟨r.signal.behind (functions.reply f vs r.signal.raised), memo⟩
      exact ⟨memo', (Eval.run_bind_ok hcall).trans hrun⟩

end Script

/-! ## What is being evaluated -/

/-- The expression that the step begins to evaluate. -/
def Step.opens : Step → List Expr
  | candidate e _ => [e]
  | _ => []

namespace Entry

/-- The expressions that are being evaluated behind the entry. -/
def opened (e : Entry) : List Expr :=
  match e.event with
  | .step s => s.opens ++ e.around
  | .call _ _ => e.around

/-- The function is called in the innermost expression. -/
def IsInside (around : List Expr) (f : String) : Prop :=
  ∃ p ∈ around.head?, ∃ c ∈ p.calls, c.function = f

/-- Each entry is within expressions that were being evaluated behind the one before, and a call is
one in the innermost of them. -/
inductive Nest : List Expr → List Entry → Prop
  | nil {running} : Nest running []
  | cons {running e es} (haround : e.around <:+ running)
      (hcall : ∀ f vs, e.event = .call f vs → IsInside e.around f) (hes : Nest e.opened es) :
      Nest running (e :: es)

theorem Nest.of_head {running : List Expr} {a : Entry} {behind : List Entry}
    (h : Nest running (a :: behind)) : Nest a.around (a :: behind) := by
  cases h with
  | cons _ hcall hes => exact .cons (List.suffix_refl _) hcall hes

/-- What comes later in a nest is one, within other expressions. -/
theorem Nest.of_append {front behind : List Entry} {running : List Expr}
    (h : Nest running (front ++ behind)) : ∃ running', Nest running' behind := by
  induction front generalizing running with
  | nil => exact ⟨running, h⟩
  | cons e front ih =>
    cases h with
    | cons _ _ hes => exact ih hes

/-- The first entries of a nest are one. -/
theorem Nest.takeWhile {running : List Expr} {es : List Entry} (h : Nest running es)
    (p : Entry → Bool) : Nest running (es.takeWhile p) := by
  induction h with
  | nil => exact .nil
  | cons haround hcall hes ih =>
    rw [List.takeWhile_cons]
    split
    · exact .cons haround hcall ih
    · exact .nil

/-- Every expression that is being evaluated has been begun. -/
theorem Nest.begun {front behind : List Entry} {a : Entry} {running : List Expr}
    (h : Nest running (front ++ a :: behind)) {p : Expr} (hp : p ∈ a.around) :
    p ∈ running ∨ ∃ b ∈ front, ∃ child, b.event = .step (.candidate p child) := by
  induction front generalizing running with
  | nil =>
    cases h with
    | cons haround _ _ => exact .inl (haround.subset hp)
  | cons e front ih =>
    cases h with
    | cons haround _ hes =>
      rcases ih hes with hopened | ⟨b, hb, hbegun⟩
      · obtain ⟨around, event, raised⟩ := e
        cases event with
        | call f vs => exact .inl (haround.subset hopened)
        | step s =>
          rcases List.mem_append.mp hopened with hopens | hbefore
          · cases s with
            | candidate e' child =>
              obtain rfl := List.mem_singleton.mp hopens
              exact .inr ⟨_, List.mem_cons_self, child, rfl⟩
            | segment _ _ => cases hopens
            | visit _ => cases hopens
          · exact .inl (haround.subset hbefore)
      · exact .inr ⟨b, List.mem_cons_of_mem e hb, hbegun⟩

/-- Without a step there are only calls in what is being evaluated. -/
theorem Nest.calls {running : List Expr} {es : List Entry} (h : Nest running es)
    (hes : ∀ e ∈ es, e.event.isStep = false) :
    ∀ e ∈ es, e.around <:+ running ∧ ∃ f vs, e.event = .call f vs ∧ IsInside e.around f := by
  induction h with
  | nil => exact nofun
  | @cons running e es haround hcall _ ih =>
    obtain ⟨he, hes'⟩ := List.forall_mem_cons.mp hes
    obtain ⟨around, event, raised⟩ := e
    cases event with
    | step s => cases he
    | call f vs =>
      refine List.forall_mem_cons.mpr ⟨⟨haround, f, vs, rfl, hcall f vs rfl⟩, fun e' he' => ?_⟩
      obtain ⟨haround', hcall'⟩ := ih hes' e' he'
      exact ⟨haround'.trans haround, hcall'⟩

end Entry

namespace Script

variable {α β : Type}

/-- Each part of the script is within expressions that are being evaluated there, which are
`running` at first and `base` throughout, and functions are called in the innermost of them. -/
inductive Nested (base : List Expr) : List Expr → Script α → Prop
  | done {running a} : Nested base running (done a)
  | step {running around s rest} (hbase : base <:+ around) (haround : around <:+ running)
      (hrest : Nested base (s.opens ++ around) rest) : Nested base running (step around s rest)
  | call {running around f vs rest} (hbase : base <:+ around) (haround : around <:+ running)
      (hcall : Entry.IsInside around f) (hrest : ∀ v, Nested base around (rest v)) :
      Nested base running (call around f vs rest)

namespace Nested

variable {base base' running running' : List Expr} {x : Script α}

theorem mono (h : x.Nested base running) (hr : running <:+ running') :
    x.Nested base running' := by
  cases h with
  | done => exact .done
  | step hbase haround hrest => exact .step hbase (haround.trans hr) hrest
  | call hbase haround hcall hrest => exact .call hbase (haround.trans hr) hcall hrest

theorem of_suffix (h : x.Nested base running) (hb : base' <:+ base) : x.Nested base' running := by
  induction h with
  | done => exact .done
  | step hbase haround _ ih => exact .step (hb.trans hbase) haround ih
  | call hbase haround hcall _ ih => exact .call (hb.trans hbase) haround hcall ih

theorem bind {f : α → Script β} (h : x.Nested base running) (hr : base <:+ running)
    (hf : ∀ a, (f a).Nested base base) : (x >>= f).Nested base running := by
  -- The rest starts where the first script ends, which is within `base`.
  induction h with
  | done => exact (hf _).mono hr
  | @step _ _ s _ hbase haround _ ih =>
    exact .step hbase haround (ih (hbase.trans (List.suffix_append s.opens _)))
  | call hbase haround hcall _ ih => exact .call hbase haround hcall fun v => ih v hbase

/-- What happens in a script that is nested is so, whatever the functions answer. -/
theorem events (h : x.Nested base running) (functions : Registry) (s : Signal) :
    Entry.Nest running (x.events functions s) := by
  induction h generalizing s with
  | done => exact .nil
  | step _ haround _ ih => exact .cons haround nofun (ih _)
  | @call _ _ f vs _ _ haround hcall _ ih =>
    rw [Script.events]
    refine .cons haround (fun f' vs' he => ?_) ?_
    · obtain ⟨rfl, -⟩ := Event.call.inj he
      exact hcall
    · cases (functions.reply f vs s.raised).result with
      | error d => exact .nil
      | ok v => exact ih v _

end Nested

/-- The script runs within given expressions from its start to its end. -/
abbrev IsWithin (around : List Expr) (x : Script α) : Prop := x.Nested around around

namespace IsWithin

variable {around : List Expr} {x : Script α}

/-- A script that stays within expressions, and another one behind it. -/
theorem bind {f : α → Script β} (hx : x.IsWithin around) (hf : ∀ a, (f a).IsWithin around) :
    (x >>= f).IsWithin around :=
  Nested.bind hx (List.suffix_refl _) hf

theorem map {f : α → β} (hx : x.IsWithin around) :
    IsWithin around (do let a ← x; return f a) :=
  hx.bind fun _ => .done

theorem take (s : Step) : (take around s).IsWithin around :=
  .step (List.suffix_refl _) (List.suffix_refl _) .done

/-- The expression of a candidate is evaluated, and left. -/
theorem candidate {e : Expr} {child : Json} (hx : x.IsWithin (e :: around)) :
    (do Script.take around (.candidate e child); x).IsWithin around :=
  .step (List.suffix_refl _) (List.suffix_refl _) (hx.of_suffix (List.suffix_cons e around))

variable {visit : Json → Script (List Json)}

/-- A visit of each node stays within the expressions if each of them does. -/
theorem gather (hv : ∀ n, (visit n).IsWithin around) (ns : List Json) :
    (Script.gather visit ns).IsWithin around := by
  induction ns with
  | nil => exact .done
  | cons n ns ih => exact (hv n).bind fun _ => ih.map

theorem keep {test : Json → Script Bool} (ht : ∀ n, (test n).IsWithin around) (ns : List Json) :
    (Script.keep test ns).IsWithin around := by
  induction ns with
  | nil => exact .done
  | cons n ns ih => exact (ht n).bind fun _ => ih.map

theorem within (reach : Query.Reach) (hv : ∀ n, (visit n).IsWithin around) (n : Json) :
    (Script.within around reach visit n).IsWithin around := by
  cases reach with
  | children => exact hv n
  | descendants => exact gather (fun m => (take _).bind fun _ => hv m) _

end IsWithin

end Script

namespace Query

variable (ctx : Context)

mutual

/-- A filter evaluates its expression within itself, and every other selector does nothing; the
theorems that follow say so of each part of a query. -/
theorem Selector.script_isWithin (around : List Expr) (s : Selector) (n : Json) :
    (s.script ctx around n).IsWithin around := by
  match s with
  | .filter e =>
    refine .keep (fun child => .candidate ?_) _
    exact (e.script_isWithin e (List.Subset.refl _) around child).map
  | .name _ | .shorthand _ | .wildcard | .index _ | .slice _ => exact .done
termination_by structural s

theorem selectAllScript_isWithin (around : List Expr) (ss : List Selector) (n : Json) :
    (selectAllScript ctx around ss n).IsWithin around := by
  match ss with
  | [] => exact .done
  | s :: ss =>
    exact (s.script_isWithin around n).bind fun _ => (selectAllScript_isWithin around ss n).map
termination_by structural ss

/-- A segment stays within the expressions around it. -/
theorem Segment.script_isWithin (around : List Expr) (s : Segment) (ns : List Json) :
    (s.script ctx around ns).IsWithin around := by
  match s with
  | .dot reach s =>
    refine (Script.IsWithin.take _).bind fun _ => .gather (fun n => .within reach ?_ n) ns
    exact s.script_isWithin around
  | .brackets reach ss =>
    refine (Script.IsWithin.take _).bind fun _ => .gather (fun n => .within reach ?_ n) ns
    exact selectAllScript_isWithin around ss
termination_by structural s

/-- A row of segments stays within the expressions around it. -/
theorem applyAllScript_isWithin (around : List Expr) (ss : List Segment) (ns : List Json) :
    (applyAllScript ctx around ss ns).IsWithin around := by
  match ss with
  | [] => exact .done
  | s :: ss =>
    exact (s.script_isWithin around ns).bind fun found => applyAllScript_isWithin around ss found
termination_by structural ss

/-- What is evaluated is a part of the innermost expression. -/
theorem Expr.script_isWithin (e p : Expr) (he : e.calls ⊆ p.calls) (around : List Expr)
    (current : Json) : (e.script ctx (p :: around) current).IsWithin (p :: around) := by
  match e with
  | .integer _ | .float _ | .string _ | .bool _ | .null => exact .done
  | .single a ss => exact (applyAllScript_isWithin _ ss _).map
  | .nodes a ss => exact (applyAllScript_isWithin _ ss _).map
  | .not e => exact (e.script_isWithin p he around current).map
  | .paren e => exact e.script_isWithin p he around current
  | .binary .and l r =>
    obtain ⟨hl, hr⟩ := List.append_subset.mp he
    refine (l.script_isWithin p hl around current).bind fun v => ?_
    split
    · exact (r.script_isWithin p hr around current).map
    · exact .done
  | .binary .or l r =>
    obtain ⟨hl, hr⟩ := List.append_subset.mp he
    refine (l.script_isWithin p hl around current).bind fun v => ?_
    split
    · exact .done
    · exact (r.script_isWithin p hr around current).map
  | .binary (.compare c) l r =>
    obtain ⟨hl, hr⟩ := List.append_subset.mp he
    exact (l.script_isWithin p hl around current).bind fun _ =>
      (r.script_isWithin p hr around current).map
  | .call f es =>
    obtain ⟨hf, hes⟩ := List.cons_subset.mp he
    refine (evaluateAllScript_isWithin es p hes around current).bind fun vs => ?_
    exact .call (List.suffix_refl _) (List.suffix_refl _) ⟨p, rfl, _, hf, rfl⟩ fun _ => .done
termination_by structural e

/-- Arguments are evaluated in the expression that the call stands in. -/
theorem evaluateAllScript_isWithin (es : List Expr) (p : Expr)
    (hes : argumentCalls es ⊆ p.calls) (around : List Expr) (current : Json) :
    (evaluateAllScript ctx (p :: around) es current).IsWithin (p :: around) := by
  match es with
  | [] => exact .done
  | e :: es =>
    obtain ⟨he, hes⟩ := List.append_subset.mp hes
    exact (e.script_isWithin p he around current).bind fun _ =>
      (evaluateAllScript_isWithin es p hes around current).map
termination_by structural es

end

end Query

/-! ## The end of a run -/

/-- The run of a computation ends at the first step for which the signal is raised, whoever has
raised it. What the computation does is written down as a script. -/
structure Eval.StopsAtNextStep {α : Type} (y : Eval α) (x : Script α) (functions : Registry)
    (r : Run) : Prop where
  /-- it does what is in the script, with a look at the signal in front of each step -/
  script : y = x.play functions
  /-- it is cancelled if any step is due for which the signal is raised, at whatever depth -/
  result : ∃ memo, y.run.run r =
    (if (x.events functions r.signal).any Entry.isRefused then .error .cancelled
      else liftDefect (x.outcome functions r.signal), ⟨x.leaves functions r.signal, memo⟩)
  /-- and otherwise has a result, unless a function fails -/
  succeeds : functions.Answers → ∃ a, x.outcome functions r.signal = .ok a
  /-- nothing happens from this step on -/
  log : x.log functions r.signal = (x.events functions r.signal).takeWhile (!·.isRefused)
  /-- nobody takes the signal down: it is raised for all that is due behind something that raises
  it, or for which it is raised already -/
  raised : (x.events functions r.signal).Pairwise fun a b => a.raises functions → b.raised
  /-- and it is raised at the end -/
  leaves : (r.signal.raised → (x.leaves functions r.signal).raised) ∧
    ∀ a ∈ x.events functions r.signal, a.raises functions → (x.leaves functions r.signal).raised
  /-- once it is raised there are only calls, all in expressions that are being evaluated then -/
  inProgress : ∀ front a behind, x.log functions r.signal = front ++ a :: behind → a.raised →
    ∀ b ∈ a :: behind,
      b.around <:+ a.around ∧ ∃ f vs, b.event = .call f vs ∧ Entry.IsInside b.around f
  /-- these have been begun before it was raised -/
  begun : ∀ front a behind, x.log functions r.signal = front ++ a :: behind →
    ∀ p ∈ a.around, ∃ b ∈ front, b.raised = false ∧ ∃ child, b.event = .step (.candidate p child)
  /-- and are left in the opposite order -/
  nested : Entry.Nest [] (x.events functions r.signal)
  /-- the signal counts the steps that are taken -/
  steps : (x.leaves functions r.signal).steps
    = r.signal.steps + (x.log functions r.signal).countP (·.event.isStep)

/-- What happens is not refused. -/
theorem Script.not_isRefused_of_mem_log {α : Type} {x : Script α} {functions : Registry}
    {s : Signal} : ∀ e ∈ x.log functions s, e.isRefused = false := by
  intro e he
  rw [log_eq_takeWhile] at he
  have hnot := List.mem_takeWhile_imp he
  rwa [Bool.not_eq_true'] at hnot

/-- What holds of a script that starts within no expression, in every run. -/
theorem Script.stopsAtNextStep {α : Type} {x : Script α} (hx : x.IsWithin [])
    (functions : Registry) (r : Run) : (x.play functions).StopsAtNextStep x functions r := by
  have hnest : Entry.Nest [] (x.events functions r.signal) := hx.events functions r.signal
  have hlog : x.log functions r.signal = (x.events functions r.signal).takeWhile (!·.isRefused) :=
    x.log_eq_takeWhile r.signal
  have hnest' : Entry.Nest [] (x.log functions r.signal) := hlog ▸ hnest.takeWhile _
  have hraised : (x.events functions r.signal).Pairwise fun a b =>
    a.raises functions → b.raised := x.pairwise_events r.signal
  exact {
    script := rfl
    result := x.run_play r
    succeeds := fun ha => x.outcome_ok ha r.signal
    log := hlog
    raised := hraised
    leaves := ⟨x.raised_leaves, x.raised_leaves_of_mem_events r.signal⟩
    inProgress := by
      intro front a behind hsplit ha
      obtain ⟨running, hbehind⟩ := (hsplit ▸ hnest').of_append
      have hraised' : (a :: behind).Pairwise fun a b => a.raises functions → b.raised := by
        refine List.Pairwise.sublist ?_ (hlog ▸ hraised.sublist (List.takeWhile_sublist _))
        rw [hsplit]
        exact List.sublist_append_right _ _
      -- the signal is raised for all of these, and they happen, so none of them is a step
      refine hbehind.of_head.calls fun b hb => ?_
      have hb' : b.raised = true := by
        rcases List.mem_cons.mp hb with rfl | hb
        · exact ha
        · exact (List.pairwise_cons.mp hraised').1 b hb (Entry.raises_of_raised ha)
      have hmem : b ∈ x.log functions r.signal := hsplit ▸ List.mem_append_right front hb
      have hrefused := not_isRefused_of_mem_log b hmem
      rwa [Entry.isRefused, hb', Bool.true_and] at hrefused
    begun := by
      intro front a behind hsplit p hp
      obtain hp | ⟨b, hb, child, hbegun⟩ := (hsplit ▸ hnest').begun hp
      · cases hp
      · have hmem : b ∈ x.log functions r.signal := hsplit ▸ List.mem_append_left _ hb
        have hrefused := not_isRefused_of_mem_log b hmem
        rw [Entry.isRefused, hbegun] at hrefused
        exact ⟨b, hb, (Bool.and_true _).symm.trans hrefused, child, hbegun⟩
    nested := hnest
    steps := x.steps_leaves r.signal }

namespace Query

/-- **Halting.** When segments are applied to nodes, the run ends at the next step once the
signal is raised. If that is so beforehand, and there is a segment, nothing happens. -/
theorem applyAll_stopsAtNextStep (ctx : Context) (ss : List Segment) (ns : List Json) (r : Run) :
    (applyAll ctx ss ns).StopsAtNextStep (applyAllScript ctx [] ss ns) ctx.functions r ∧
      (r.signal.raised → ss ≠ [] →
        (applyAllScript ctx [] ss ns).log ctx.functions r.signal = [] ∧
          ((applyAll ctx ss ns).run.run r).1 = .error .cancelled) := by
  refine ⟨?_, fun hr hss => ?_⟩
  · rw [applyAll_eq_play ctx []]
    exact Script.stopsAtNextStep (applyAllScript_isWithin ctx [] ss ns) ctx.functions r
  · obtain ⟨s, ss, rfl⟩ := List.exists_cons_of_ne_nil hss
    refine ⟨?_, Prepared.applyAll_of_raised ctx s ss ns hr⟩
    cases s <;> exact if_pos (Signal.raised_look hr)

-- The filter of `$[?stop() && cancelled()]` on `[null, true]` goes on until the next candidate.
example :
    let e : Expr := .binary .and (.call "stop" []) (.call "cancelled" [])
    let functions := (Registry.empty.register .stop).register .cancelled
    let document := Json.array [.null, .bool true]
    let x := applyAllScript ⟨document, functions⟩ [] [.brackets .children [.filter e]] [document]
    ((x.log functions .down).map fun a => (a.event.isStep, a.raised)) =
        [(true, false), (true, false), (false, false), (false, true)] ∧
      (x.events functions .down).any Entry.isRefused = true :=
  ⟨rfl, rfl⟩

end Query

end JsonPath
