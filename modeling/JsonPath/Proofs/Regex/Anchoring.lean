import Mathlib.Data.List.Basic
import JsonPath.Function.Builtin
import JsonPath.Proofs.Regex.BreakingOut
import JsonPath.Proofs.Regex.Meaning

/-!
# Whole texts and parts of texts

`match` is meant to be an anchored form of `search`: an expression that accepts a text as a whole is
valid alone and matches all of the text, so that it is found in it as well (`IsAnchoredForm`). This
is so for every expression that does not break out of the parentheses put around it and is not too
large (`IsEnclosable`), and for every other one unless it accepts the text
(`Registry.match_search`).
-/

namespace JsonPath.Regex

variable {text pattern : String}

/-! ## Anchored patterns -/

theorem Look.holdsAt_textStart {cs : List Char} {i : Nat} (h : i ≤ cs.length) :
    textStart.holdsAt cs i ↔ i = 0 := by
  rw [holdsAt, holds, Option.isNone_iff_eq_none, List.getLast?_eq_none_iff, List.take_eq_nil_iff]
  constructor
  · rintro (rfl | rfl)
    · rfl
    · exact Nat.le_zero.mp h
  · exact .inl

theorem Look.holdsAt_textEnd {cs : List Char} {i : Nat} (h : i ≤ cs.length) :
    textEnd.holdsAt cs i ↔ i = cs.length := by
  rw [holdsAt, holds, Option.isNone_iff_eq_none, List.getElem?_eq_none_iff]
  exact ⟨fun h' => Nat.le_antisymm h h', fun h' => h'.ge⟩

/-- An anchored pattern matches a text if the pattern matches all of it. -/
theorem Pattern.isMatch_anchored_iff (p : Pattern) (cs : List Char) :
    p.anchored.isMatch cs ↔ p.Spans cs 0 cs.length := by
  rw [isMatch_iff]
  constructor
  · rintro ⟨i, j, hi, _, ⟨hstart, rfl⟩, m, hspan, _, ⟨hend, rfl⟩, rfl⟩
    have hm := ((plan_follows cs p).forward hi hspan).2
    rw [Look.holdsAt_textStart hi] at hstart
    rw [Look.holdsAt_textEnd hm] at hend
    exact hstart ▸ hend ▸ hspan
  · intro hspan
    have hstart := (Look.holdsAt_textStart (Nat.zero_le cs.length)).mpr rfl
    have hend := (Look.holdsAt_textEnd (Nat.le_refl cs.length)).mpr rfl
    exact ⟨0, _, Nat.zero_le _, 0, ⟨hstart, rfl⟩, _, hspan, _, ⟨hend, rfl⟩, rfl⟩

/-! ## Expressions -/

/-- An interoperable expression that does not break out of the parentheses put around it, and whose
pattern is not too large. -/
structure IsEnclosable (pattern : String) : Prop where
  staysInside : ¬ BreaksOut .start (adapt pattern).toList
  isAllowed : ∀ p, Pattern.read? (adapt pattern).toList = some p → p.isAllowed

/-- A text is accepted if there is a pattern and it matches. -/
theorem accepts_iff {compiled : Option Pattern} :
    accepts compiled text ↔ ∃ p, compiled = some p ∧ p.isMatch text.toList :=
  Option.any_eq_true _ compiled

/-- An expression is compiled if it can be read and is not too large. -/
theorem compile?_eq_some_iff {extent : Extent} {p : Pattern} :
    compile? extent pattern = some p ↔
      Pattern.read? (extent.source pattern) = some p ∧ p.isAllowed :=
  Option.filter_eq_some_iff

/-- An expression that is valid alone is enclosable. -/
theorem isEnclosable_of_compile? {p : Pattern} (h : compile? .part pattern = some p) :
    IsEnclosable pattern := by
  obtain ⟨hread, hallowed⟩ := compile?_eq_some_iff.mp h
  constructor
  · intro hout
    exact nomatch (Pattern.read?_eq_none hout).symm.trans hread
  · intro q hq
    obtain rfl := Option.some.inj (hread.symm.trans hq)
    exact hallowed

/-- An enclosable expression that accepts a text is valid alone and matches all of the text. -/
theorem IsEnclosable.spans_of_accepts (h : IsEnclosable pattern)
    (hwhole : accepts (compile? .whole pattern) text) :
    ∃ p, compile? .part pattern = some p ∧ p.Spans text.toList 0 text.length := by
  obtain ⟨q, hq, hmatch⟩ := accepts_iff.mp hwhole
  have hread := (compile?_eq_some_iff.mp hq).1
  have hsource : Extent.whole.source pattern = opening ++ ((adapt pattern).toList ++ closing) :=
    List.append_assoc ..
  rw [hsource] at hread
  obtain ⟨p, hp, rfl⟩ := Pattern.read?_enclosed hread h.staysInside
  exact ⟨p, compile?_eq_some_iff.mpr ⟨hp, h.isAllowed p hp⟩,
    (p.isMatch_anchored_iff text.toList).mp hmatch⟩

/-- What `match` and `search` tell of a text and an expression, if the one is an anchored form of
the other. -/
structure IsAnchoredForm (text pattern : String) (whole part : Bool) : Prop where
  /-- an expression that accepts a text is valid alone and matches all of the text -/
  spans : whole → ∃ p, compile? .part pattern = some p ∧ p.Spans text.toList 0 text.length
  /-- what is accepted as a whole is found -/
  found : whole → part
  /-- an expression that is invalid alone accepts nothing -/
  invalid : compile? .part pattern = none → whole = false ∧ part = false

/-- The expression makes the difference: if it is enclosable or does not accept the text, `match` is
an anchored form of `search`, and otherwise it is not. -/
theorem isAnchoredForm_iff (text pattern : String) :
    IsAnchoredForm text pattern (accepts (compile? .whole pattern) text)
        (accepts (compile? .part pattern) text) ↔
      (accepts (compile? .whole pattern) text → IsEnclosable pattern) := by
  constructor
  · intro h hwhole
    obtain ⟨p, hp, -⟩ := h.spans hwhole
    exact isEnclosable_of_compile? hp
  · intro h
    have hspans := fun hwhole => (h hwhole).spans_of_accepts hwhole
    refine ⟨hspans, fun hwhole => ?_, fun hnone => ?_⟩
    · obtain ⟨p, hp, hspan⟩ := hspans hwhole
      have hmatch := (p.isMatch_iff text.toList).mpr ⟨0, _, Nat.zero_le _, hspan⟩
      exact accepts_iff.mpr ⟨p, hp, hmatch⟩
    · constructor
      · refine Bool.eq_false_iff.mpr fun hwhole => ?_
        obtain ⟨p, hp, -⟩ := hspans hwhole
        exact nomatch hnone.symm.trans hp
      · rw [hnone]
        rfl

/-! ## Calls -/

open Function.Kind

/-- The text and the expression among the arguments of a call, if there are two arguments and both
stand for texts. -/
def textAndPattern? : List Value → Option (String × String)
  | [v, w] =>
    match (value.coerce v).string?, (value.coerce w).string? with
    | some text, some pattern => some (text, pattern)
    | _, _ => none
  | _ => none

/-- What is answered to arguments without a text and an expression. -/
def blankAnswer (vs : List Value) : Value := if vs.length = 2 then .logical false else .nothing

/-- What a function that looks for expressions does in a run: it answers, and remembers the pattern
of the expression. -/
def respond (extent : Extent) (vs : List Value) (r : Run) : Except Fault Value × Run :=
  match textAndPattern? vs with
  | some (text, pattern) =>
    (.ok (.logical (accepts (r.memo.compile extent pattern).1 text)),
      { r with memo := (r.memo.compile extent pattern).2 })
  | none => (.ok (blankAnswer vs), r)

/-- A call of a matching function answers whether the text is accepted. -/
theorem run_invoke_matching (name : String) (extent : Extent) (vs : List Value) (r : Run) :
    ((⟨name, .logical, [value, value], .matching extent⟩ : Function).invoke vs).run.run r
      = respond extent vs r := by
  by_cases hlength : vs.length = 2
  · obtain ⟨v, w, rfl⟩ := List.length_eq_two.mp hlength
    have hsubject : Function.subject? [value.coerce v, value.coerce w]
        = .ok (textAndPattern? [v, w]) := rfl
    change ((Function.Body.matching extent).run [value.coerce v, value.coerce w]).run.run r = _
    rw [Function.Body.run, hsubject, respond]
    cases textAndPattern? [v, w] with
    | none => rfl
    | some subject => rfl
  · have hinvoke : Function.invoke ⟨name, .logical, [value, value], .matching extent⟩ vs
        = pure .nothing := if_neg hlength
    have hblank : blankAnswer vs = .nothing := if_neg hlength
    have hsubject : textAndPattern? vs = none := by
      unfold textAndPattern?
      split
      · exact absurd rfl hlength
      · rfl
    rw [hinvoke, respond, hsubject, hblank]
    rfl

/-- The name of the function that matches texts to an extent. -/
def Extent.functionName : Extent → String
  | whole => "match"
  | part => "search"

end JsonPath.Regex

namespace JsonPath

open Regex Function.Kind

variable {v w : Value} {text pattern : String}

theorem Registry.lookup?_functionName (extent : Extent) :
    builtin.lookup? extent.functionName
      = some ⟨extent.functionName, .logical, [value, value], .matching extent⟩ := by
  cases extent <;> rfl

/-- Whatever happened before, a call tells whether the expression accepts the text. -/
theorem Registry.call_matching (extent : Extent) (hv : (value.coerce v).string? = some text)
    (hw : (value.coerce w).string? = some pattern) (r : Run) :
    ((builtin.call extent.functionName [v, w]).run.run r).1
      = .ok (.logical (accepts (compile? extent pattern) text)) := by
  have hsubject : textAndPattern? [v, w] = some (text, pattern) := by
    rw [textAndPattern?, hv, hw]
  have hrun := run_invoke_matching extent.functionName extent [v, w] r
  rw [respond, hsubject] at hrun
  dsimp only at hrun
  rw [call, lookup?_functionName]
  dsimp only
  rw [hrun, Memo.compile_fst]

/-- **Anchored and unanchored matching.** What `match` and `search` answer for a text and an
expression, after any calls whatever: `search` looks for a stretch that the expression matches,
and `match` is an anchored form of it, but for expressions that are not enclosable and accept the
text. -/
theorem Registry.match_search (hv : (value.coerce v).string? = some text)
    (hw : (value.coerce w).string? = some pattern) :
    ∃ whole part : Bool,
      (∀ r, ((builtin.call "match" [v, w]).run.run r).1 = .ok (.logical whole)) ∧
      (∀ r, ((builtin.call "search" [v, w]).run.run r).1 = .ok (.logical part)) ∧
      (part ↔ ∃ p, compile? .part pattern = some p ∧
        ∃ i j, i ≤ text.length ∧ p.Spans text.toList i j) ∧
      (IsAnchoredForm text pattern whole part ↔ (whole → IsEnclosable pattern)) := by
  refine ⟨_, _, call_matching .whole hv hw, call_matching .part hv hw, ?_,
    isAnchoredForm_iff text pattern⟩
  rw [accepts_iff]
  exact exists_congr fun p => and_congr_right fun _ => p.isMatch_iff text.toList

/-- The text of a node is accepted, the dot standing for its second character. -/
theorem Registry.match_search_dot :
    ((builtin.call "match" [.nodes [.string "ab"], .primitive (.string "a.")]).run.run
        (.start .down)).1 = .ok (.logical true) ∧
      IsAnchoredForm "ab" "a." true true := by
  have hv : (value.coerce (.nodes [.string "ab"])).string? = some "ab" := rfl
  have hw : (value.coerce (.primitive (.string "a."))).string? = some "a." := rfl
  obtain ⟨whole, part, hwhole, hpart, -, hform⟩ := match_search hv hw
  have hmatch := call_matching .whole hv hw (.start .down)
  have hsearch := call_matching .part hv hw (.start .down)
  have haccepts : ∀ extent, accepts (compile? extent "a.") "ab" = true := by
    intro extent
    cases extent <;> decide +kernel
  rw [haccepts] at hmatch hsearch
  obtain rfl := Value.logical.inj (Except.ok.inj ((hwhole _).symm.trans hmatch))
  obtain rfl := Value.logical.inj (Except.ok.inj ((hpart _).symm.trans hsearch))
  obtain ⟨p, hp, -⟩ := accepts_iff.mp (haccepts .part)
  exact ⟨hmatch, hform.mpr fun _ => isEnclosable_of_compile? hp⟩

/-- With a closing parenthesis too many, an expression breaks out. It accepts a text, but it is
invalid alone, so nothing is found. -/
theorem Registry.match_search_broken_out :
    ((builtin.call "match" [.primitive (.string "ax"), .primitive (.string "a)|(?:b")]).run.run
        (.start .down)).1 = .ok (.logical true) ∧
      ((builtin.call "search" [.primitive (.string "ax"), .primitive (.string "a)|(?:b")]).run.run
        (.start .down)).1 = .ok (.logical false) ∧
      compile? .part "a)|(?:b" = none :=
  ⟨rfl, rfl, rfl⟩

end JsonPath
