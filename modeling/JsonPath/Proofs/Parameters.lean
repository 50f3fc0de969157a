import Mathlib.Data.List.Forall2
import JsonPath.Proofs.Agreement
import JsonPath.Proofs.Hazards

/-!
# The arguments that functions get

A body is run with as many arguments as the function has parameters, and with nothing that a
parameter of its kind does not grant (`Kind.Grants`): a parameter for a truth value takes a truth
value, and one for a value takes no list of nodes. A parameter for nodes takes a list of nodes if it
is given nodes. What is no node is left as it is, and so a body that needs a list of nodes can fail
(`argumentsConform_literal`).

Whatever is said here of all runs is said by comparing registries: if two differ only in what bodies
do with arguments that they never get, no run can tell them apart (`Registry.AgreesOn`).
-/

namespace JsonPath

open JsonPath.Function (Kind)
open JsonPath.Query (Call Fit)

/-! ## Kinds -/

namespace Function

/-- What is known of an argument, whatever it was before it was made to fit. -/
def Kind.Grants : Kind → Value → Prop
  | value, v => v.nodes? = none
  | logical, v => ∃ b, v = .logical b
  | nodes, v => v.node? = none

/-- The argument is of the kind that is declared. -/
def Kind.Conforms : Kind → Value → Prop
  | value, v => v.nodes? = none
  | logical, v => ∃ b, v = .logical b
  | nodes, v => ∃ ns, v = .nodes ns

/-- What parameters of a kind grant is all that is known of their arguments. -/
theorem Kind.grants_iff {k : Kind} {v : Value} : k.Grants v ↔ ∃ w, k.coerce w = v := by
  refine ⟨fun h => ⟨v, ?_⟩, ?_⟩
  · cases k with
    | value => cases v with
      | nodes => cases h
      | _ => rfl
    | logical =>
      obtain ⟨b, rfl⟩ := h
      rfl
    | nodes => cases v with
      | node => cases h
      | _ => rfl
  · rintro ⟨w, rfl⟩
    cases k with
    | value =>
      match w with
      | .nodes [] | .nodes [_] | .nodes (_ :: _ :: _) => rfl
      | .nothing | .logical _ | .node _ | .primitive _ => rfl
    | logical => exact ⟨_, rfl⟩
    | nodes => cases w <;> rfl

/-- An argument is made to conform, except where nodes are declared and it has none. -/
theorem Kind.conforms_coerce_iff {k : Kind} {v : Value} :
    k.Conforms (k.coerce v) ↔ (k = .nodes → v.IsNodal) := by
  cases k with
  | value =>
    have hgrants : value.Grants (value.coerce v) := grants_iff.mpr ⟨v, rfl⟩
    exact iff_of_true hgrants nofun
  | logical => exact iff_of_true ⟨_, rfl⟩ nofun
  | nodes => cases v <;> simp [Conforms, coerce, Value.IsNodal]

/-- Arguments satisfy what is asked of each when they have been made to fit. -/
theorem forall₂_coerce {C : Kind → Value → Prop} {ps : List Kind} {vs : List Value}
    (h : List.Forall₂ (fun k v => C k (k.coerce v)) ps vs) :
    List.Forall₂ C ps (List.zipWith Kind.coerce ps vs) := by
  induction h with
  | nil => exact .nil
  | cons h _ ih => exact .cons h ih

/-- Arguments that are handed over are what the conversion grants for their kinds. -/
theorem forall₂_grants {ps : List Kind} {vs : List Value} (h : vs.length = ps.length) :
    List.Forall₂ Kind.Grants ps (List.zipWith Kind.coerce ps vs) :=
  forall₂_coerce (List.forall₂_iff_zip.mpr ⟨h.symm, fun _ => Kind.grants_iff.mpr ⟨_, rfl⟩⟩)

/-! ## Functions that differ on other arguments -/

/-- The functions have the same parameters, and their bodies do the same with arguments that
satisfy `C`. -/
structure AgreesOn (C : Kind → Value → Prop) (f g : Function) : Prop where
  parameters : f.parameters = g.parameters
  run : ∀ vs, List.Forall₂ C f.parameters vs → f.body.run vs = g.body.run vs

/-- The function answers to arguments that satisfy `C`. -/
def AnswersOn (C : Kind → Value → Prop) (f : Function) : Prop :=
  match f.body with
  | .answer g => ∀ vs b, List.Forall₂ C f.parameters vs → ∃ v, (g vs b).result = .ok v
  | .matching _ => 2 ≤ f.parameters.length

open scoped Classical in
/-- The function with a body that has no value for arguments that do not satisfy `C`. -/
noncomputable def confine (C : Kind → Value → Prop) (f : Function) : Function where
  name := f.name
  result := f.result
  parameters := f.parameters
  body := match f.body with
    | .answer g => .answer fun vs b =>
      if List.Forall₂ C f.parameters vs then g vs b else ⟨.ok .nothing, false⟩
    | .matching extent => .matching extent

section

variable {C : Kind → Value → Prop} {f g : Function}

/-- Functions that agree on what is handed over answer alike. -/
theorem AgreesOn.invoke_eq (h : f.AgreesOn C g) {vs : List Value}
    (hvs : vs.length = f.parameters.length →
      List.Forall₂ C f.parameters (List.zipWith Kind.coerce f.parameters vs)) :
    f.invoke vs = g.invoke vs := by
  unfold invoke
  rw [← h.parameters]
  split
  · next hlen => exact h.run _ (hvs hlen)
  · rfl

/-- A function agrees with its confinement on the values that it is confined to. -/
theorem agreesOn_confine (f : Function) : f.AgreesOn C (f.confine C) := by
  refine ⟨rfl, fun vs hvs => ?_⟩
  obtain ⟨name, result, parameters, body⟩ := f
  cases body with
  | answer g => simp only [confine, Body.run, if_pos hvs]
  | matching extent => rfl

/-- Confined to values for which it answers, a function always answers. -/
theorem AnswersOn.answers_confine (h : f.AnswersOn C) : (f.confine C).Answers := by
  obtain ⟨name, result, parameters, body⟩ := f
  cases body with
  | answer g =>
    intro vs b _
    by_cases hvs : List.Forall₂ C parameters vs
    · obtain ⟨v, hv⟩ := h vs b hvs
      exact ⟨v, by simpa only [if_pos hvs] using hv⟩
    · exact ⟨.nothing, by simp only [if_neg hvs]⟩
  | matching extent => exact h

end

end Function

/-! ## Registries -/

namespace Registry

variable {C : Kind → Value → Prop} {functions functions' : Registry}

/-- The registries hold functions of the same names, which agree. -/
def AgreesOn (C : Kind → Value → Prop) (functions functions' : Registry) : Prop :=
  ∀ name, Option.Rel (Function.AgreesOn C) (functions.lookup? name) (functions'.lookup? name)

/-- All functions answer to arguments that satisfy `C`. -/
def AnswersOn (C : Kind → Value → Prop) (functions : Registry) : Prop :=
  ∀ f ∈ functions.functions, f.AnswersOn C

/-- In a call, the function gets arguments that satisfy `C`. -/
def Hands (C : Kind → Value → Prop) (functions : Registry) (c : Call) : Prop :=
  ∀ f ∈ functions.lookup? c.function, ∀ vs, Fit c.arguments vs →
    vs.length = f.parameters.length →
      List.Forall₂ C f.parameters (List.zipWith Kind.coerce f.parameters vs)

/-- Registries that agree on what a call hands over agree in the call. -/
theorem AgreesOn.agreesIn (h : functions.AgreesOn C functions') {c : Call}
    (hc : functions.Hands C c) : c.AgreesIn functions functions' := by
  intro vs hvs
  have hrel := h c.function
  rw [Hands] at hc
  unfold call
  generalize functions.lookup? c.function = f, functions'.lookup? c.function = g at hrel hc
  cases hrel with
  | none => rfl
  | some hfg => exact hfg.invoke_eq (hc _ rfl vs hvs)

/-- Every call hands over what the conversion grants. -/
theorem hands_grants (functions : Registry) (c : Call) : functions.Hands Kind.Grants c :=
  fun _ _ _ _ hlen => Function.forall₂_grants hlen

/-- Each parameter for nodes is given an embedded query. -/
def PassesNodes (functions : Registry) (c : Call) : Prop :=
  ∀ f ∈ functions.lookup? c.function, c.arguments.length = f.parameters.length →
    List.Forall₂ (fun k e => k = .nodes → e.isEmbedded = true) f.parameters c.arguments

/-- A call that passes nodes for nodes hands over what conforms to the kinds. -/
theorem PassesNodes.hands_conforms {c : Call} (h : functions.PassesNodes c) :
    functions.Hands Kind.Conforms c := by
  intro f hf vs hvs hlen
  have hargs := h f hf (hvs.length_eq.trans hlen)
  refine Function.forall₂_coerce ?_
  generalize c.arguments = es at hargs hvs
  generalize f.parameters = ps at hargs ⊢
  clear hlen
  induction hargs generalizing vs with
  | nil =>
    cases hvs
    exact .nil
  | cons hk _ ih =>
    cases hvs with
    | cons hv hvs => exact .cons (Kind.conforms_coerce_iff.mpr fun h => hv (hk h)) (ih _ hvs)

/-- The registry with bodies that have no value for arguments that do not satisfy `C`. -/
noncomputable def confine (C : Kind → Value → Prop) (functions : Registry) : Registry where
  functions := functions.functions.map (Function.confine C)
  distinct := by
    rw [List.map_map]
    exact functions.distinct

theorem agreesOn_confine (functions : Registry) : functions.AgreesOn C (functions.confine C) := by
  intro name
  have hlookup : (functions.confine C).lookup? name
      = (functions.lookup? name).map (Function.confine C) := List.find?_map
  rw [hlookup]
  cases functions.lookup? name with
  | none => exact .none
  | some f => exact .some f.agreesOn_confine

theorem AnswersOn.answers_confine (h : functions.AnswersOn C) :
    (functions.confine C).Answers := by
  intro f hf
  obtain ⟨g, hg, rfl⟩ := List.mem_map.mp hf
  exact (h g hg).answers_confine

end Registry

/-! ## Queries -/

namespace Prepared

section Runs

variable {C : Kind → Value → Prop} {p : Prepared}
  (hands : ∀ c ∈ p.query.calls, p.functions.Hands C c)

include hands

/-- What bodies do with arguments that they never get makes no difference to a run. -/
theorem run_congr {functions' : Registry} (h : p.functions.AgreesOn C functions')
    (document : Json) : p.run document = Prepared.run ⟨p.query, functions'⟩ document := by
  have hagree : Query.Agree ⟨document, p.functions⟩ ⟨document, functions'⟩
      p.query.embeddings p.query.calls := by
    refine ⟨fun m _ => ?_, fun c hc => h.agreesIn (hands c hc)⟩
    cases m.anchor <;> rfl
  exact congrFun (Query.applyAll_congr hagree) [document]

/-- A run is flawless if its functions answer for all that is handed over. -/
theorem run_isFlawless (h : p.functions.AnswersOn C) (document : Json) :
    (p.run document).IsFlawless := by
  -- A body that answers to the arguments that it gets may as well answer to all.
  rw [run_congr hands p.functions.agreesOn_confine]
  exact Eval.IsFlawless.isKept.applyAll (Registry.call_isFlawless h.answers_confine) _ _

end Runs

/-- Arguments are of the kinds that parameters declare, as far as they can be made so. -/
structure ArgumentsConform (p : Prepared) : Prop where
  /-- what bodies do with another number of arguments, or with arguments that their parameters do
  not grant, makes no difference to any run -/
  granted : ∀ functions', p.functions.AgreesOn Kind.Grants functions' → ∀ document s,
    p.executeUnder document s = executeUnder ⟨p.query, functions'⟩ document s
  /-- an argument that is made to fit conforms, unless nodes are declared and it has none -/
  conforms_coerce_iff : ∀ (k : Kind) (v : Value), k.Conforms (k.coerce v) ↔ (k = .nodes → v.IsNodal)
  /-- so if parameters for nodes are given embedded queries, what bodies do with arguments that do
  not conform makes no difference either -/
  conforming : (∀ c ∈ p.query.calls, p.functions.PassesNodes c) →
    ∀ functions', p.functions.AgreesOn Kind.Conforms functions' → ∀ document s,
      p.executeUnder document s = executeUnder ⟨p.query, functions'⟩ document s
  /-- where truth values and lists of nodes are declared, they are there to be asked for -/
  asked : ∀ v, (Kind.logical.Conforms v → ∃ b, v.asLogical = .ok b) ∧
    (Kind.nodes.Conforms v → ∃ ns, v.asNodes = .ok ns)
  /-- and bodies that ask for no more do not end a run -/
  flawless : (∀ c ∈ p.query.calls, p.functions.PassesNodes c) →
    p.functions.AnswersOn Kind.Conforms → ∀ document s d,
      (p.executeUnder document s).1 ≠ .error (.defect d)

/-- **Conversion of arguments.** Whatever the query and its functions are, arguments are made to
conform as far as possible. What has no nodes cannot be made into nodes, so it is handed over as
it is. -/
theorem argumentsConform (p : Prepared) : ArgumentsConform p where
  granted functions' h document s := by
    have hands : ∀ c ∈ p.query.calls, p.functions.Hands Kind.Grants c :=
      fun c _ => p.functions.hands_grants c
    rw [executeUnder, run_congr hands h, executeUnder]
  conforms_coerce_iff _ _ := Kind.conforms_coerce_iff
  conforming hpass functions' h document s := by
    rw [executeUnder, run_congr (fun c hc => (hpass c hc).hands_conforms) h, executeUnder]
  asked v := by
    refine ⟨?_, ?_⟩
    · rintro ⟨b, rfl⟩
      exact ⟨b, rfl⟩
    · rintro ⟨ns, rfl⟩
      exact ⟨ns, rfl⟩
  flawless hpass h document s d :=
    run_isFlawless (fun c hc => (hpass c hc).hands_conforms) h document (.start s) d

end Prepared

/-- A function that counts nodes, and needs a list of them. -/
def Function.strictNodes : Function where
  name := "strict_nodes"
  result := .value
  parameters := [.nodes]
  body := .answer fun vs _ =>
    ⟨do
      let v ← argument vs 0
      let ns ← v.asNodes.mapError .mismatch
      return countValue ns.length, false⟩

theorem Registry.answersOn_strictNodes :
    (builtin.register .strictNodes).AnswersOn Kind.Conforms := by
  intro f hf
  rcases List.mem_cons.mp hf with rfl | hf
  · intro vs b hvs
    obtain ⟨v, _, ⟨ns, rfl⟩, hvs, rfl⟩ := List.forall₂_cons_left_iff.mp hvs
    exact ⟨_, rfl⟩
  · have ha : f.Answers := builtin_answers f (List.mem_filter.mp hf).1
    obtain ⟨name, result, parameters, body⟩ := f
    cases body with
    | answer g => exact fun vs b hvs => ha vs b hvs.length_eq.symm
    | matching extent => exact ha

namespace Prepared

/-- The query `$[?strict_nodes(@.*) < 1]` does not fail. -/
theorem argumentsConform_embedded :
    let e : Query.Expr := .binary (.compare .less)
      (.call "strict_nodes" [.nodes .current [.dot .children .wildcard]]) (.integer 1)
    let p : Prepared := ⟨⟨[.brackets .children [.filter e]]⟩, Registry.builtin.register .strictNodes⟩
    (∀ c ∈ p.query.calls, p.functions.PassesNodes c) ∧ p.functions.AnswersOn Kind.Conforms ∧
      ∀ document s d, (p.executeUnder document s).1 ≠ .error (.defect d) := by
  intro e p
  have hpass : ∀ c ∈ p.query.calls, p.functions.PassesNodes c := by
    intro c hc
    obtain rfl := List.mem_singleton.mp hc
    intro f hf _
    obtain rfl := Option.some.inj ((Registry.lookup?_register_self _ .strictNodes).symm.trans hf)
    exact .cons (fun _ => rfl) .nil
  have hanswers := Registry.answersOn_strictNodes
  exact ⟨hpass, hanswers, p.argumentsConform.flawless hpass hanswers⟩

/-- The query `$[?strict_nodes(1) < 0]` fails, although the function answers to every list of
nodes. -/
theorem argumentsConform_literal :
    let e : Query.Expr := .binary (.compare .less) (.call "strict_nodes" [.integer 1]) (.integer 0)
    let p : Prepared := ⟨⟨[.brackets .children [.filter e]]⟩, Registry.builtin.register .strictNodes⟩
    p.functions.AnswersOn Kind.Conforms ∧
      p.execute (.array [.null]) = .error (.mismatch ⟨.nodes, .primitive (.integer 1)⟩) :=
  ⟨Registry.answersOn_strictNodes, rfl⟩

end Prepared

end JsonPath
