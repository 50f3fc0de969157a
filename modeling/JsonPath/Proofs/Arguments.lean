import JsonPath.Proofs.Brackets

/-!
# Expressions as arguments

An argument is read in a way of its own if it starts with a literal: the literal, then a comparison
if one follows, and nothing more. So an expression that a filter can be is not always an argument.
Those that go on behind a first comparison of a literal are refused, and all others are read as the
same expression (`ofText_call_iff`).
-/

namespace JsonPath.Query

open JsonPath.Text JsonPath.Token Grammar

/-- The text of a filter that is a call with a single argument. -/
theorem toText_alone_call (f : String) (e : Expr) :
    (Selector.filter (.call f [e])).alone.toText = "$[?" ++ f ++ "(" ++ e.toText ++ ")]" := by
  have htext : (Selector.filter (.call f [e])).alone.text
      = ['$', '[', '?'] ++ f.toList ++ ['('] ++ e.text ++ [')', ']'] := by
    simp [Selector.alone, text, segmentsText, Segment.text, Reach.text, selectorTexts,
      commaSeparated, Selector.text, Expr.text, exprTexts]
  rw [toText, htext, String.ofList_append, String.ofList_append, String.ofList_append,
    String.ofList_append, String.ofList_toList]
  rfl

/-- **Arguments of calls.** If an expression can be a filter, then its text is read as an
argument, and as the same expression again, if and only if it does not go on behind a first
comparison of a literal. -/
theorem ofText_call_iff {e : Expr} {f : String} (he : (Selector.filter e).IsParsed)
    (hf : isName f.toList = true) (hk : isKeyword f = false) (q : Query) :
    ofText ("$[?" ++ f ++ "(" ++ e.toText ++ ")]") = .ok q ↔
      e.standsAlone = true ∧ q = ⟨[.brackets .children [.filter (.call f [e])]]⟩ := by
  obtain ⟨hb, hreadable, hreread⟩ := Selector.isParsed_iff_reread.mp he
  -- Inside of the call, the expression is what it was inside of the filter, but for its place.
  obtain ⟨hspell, htest⟩ : e.isSpellable = true ∧ e.isBuilt .test = true :=
    Bool.and_eq_true_iff.mp hb
  have hcall : (Selector.filter (.call f [e])).alone.isBuilt = true := by
    rw [Selector.isBuilt_alone]
    simp [Selector.isSpellable, Expr.isSpellable, areSpellableExprs, hf, hspell, Selector.isBuilt,
      Expr.isBuilt, areBuiltArguments, hk, Expr.isBuilt_argument htest]
  have hargument : (Selector.filter (.call f [e])).isReadable = e.standsAlone := by
    have hreadable : e.isReadable = true := hreadable
    simp [Selector.isReadable, Expr.isReadable, areReadableArguments, hreadable]
  have hsame : (Selector.filter (.call f [e])).alone.reread
      = (Selector.filter (.call f [e])).alone := by
    have hreread : e = e.reread := Selector.filter.inj hreread
    change (Selector.filter (.call f [e.reread])).alone = _
    rw [← hreread]
  rw [← toText_alone_call, ofText_toText_of_isBuilt hcall, Selector.areReadable_alone, hargument,
    hsame]
  rfl

/-- A comparison of a literal is an argument: `$[?f(true == true)]`. -/
theorem ofText_call_comparison :
    let e : Expr := .binary (.compare .equal) (.bool true) (.bool true)
    (Selector.filter e).IsParsed ∧ isName "f".toList = true ∧ isKeyword "f" = false ∧
      ofText ("$[?" ++ "f" ++ "(" ++ e.toText ++ ")]")
        = .ok ⟨[.brackets .children [.filter (.call "f" [e])]]⟩ := by
  intro e
  have he : (Selector.filter e).IsParsed := Selector.isParsed_iff_reread.mpr ⟨rfl, rfl, rfl⟩
  exact ⟨he, by decide, by decide, (ofText_call_iff he (by decide) (by decide) _).mpr ⟨rfl, rfl⟩⟩

/-- The same comparison in front of `&&` is a filter, but no argument:
`$[?f(true == true && @.a)]`. -/
theorem ofText_call_conjunction :
    let e : Expr := .binary .and (.binary (.compare .equal) (.bool true) (.bool true))
      (.nodes .current [.dot .children (.shorthand "a")])
    (Selector.filter e).IsParsed ∧ isName "f".toList = true ∧ isKeyword "f" = false ∧
      e.toText = "true == true && @.a" ∧
      ofText ("$[?" ++ "f" ++ "(" ++ e.toText ++ ")]") = .error ⟨.unexpectedToken, "&&", 8⟩ := by
  intro e
  have hfilter : ofText "$[?true == true && @.a]" = .ok (Selector.filter e).alone := by cbv
  have htext : e.toText = "true == true && @.a" := by cbv
  have hcall : ofText "$[?f(true == true && @.a)]" = .error ⟨.unexpectedToken, "&&", 8⟩ := by cbv
  refine ⟨⟨_, _, hfilter, List.mem_cons_self⟩, by decide, by decide, htext, ?_⟩
  rw [htext]
  exact hcall

end JsonPath.Query
