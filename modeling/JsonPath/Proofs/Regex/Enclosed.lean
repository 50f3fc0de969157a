import JsonPath.Proofs.Regex.Suffixes

/-!
# Readers in parentheses

An expression in parentheses is read with a closing parenthesis and more behind it. As long as a
reader stays within the expression, this makes no difference to it. If it does not, it has passed
over the parenthesis, and what it leaves is an end of what stands behind that (`Agrees`).

The one exception is a boundary of words in front of an opening brace that nothing follows
(`EndsInBrace`). This module holds the rules for `Agrees`, free spacing and escapes.
-/

namespace JsonPath.Regex

open JsonPath.Text JsonPath.Unicode

variable {α β γ : Type} {fl : Flags} {ys u w rest : List Char}

/-- What stands behind the parenthesis that closes an expression for a whole text. -/
def behind : List Char := ['\\', 'z']

/-- What stands behind an expression for a whole text. -/
def closing : List Char := ')' :: behind

/-- Of what is read with something behind it, and of what is read alone: the first leads to no other
result than the second, unless it leaves only an end of what is given. -/
def Agrees (ys : List Char) (a b : Option (α × List Char)) : Prop :=
  ∀ x rest, a = some (x, rest) → (∃ w, rest = w ++ closing ∧ b = some (x, w)) ∨ rest <:+ ys

namespace Agrees

theorem none {b : Option (α × List Char)} : Agrees ys none b := nofun

theorem some {x : α} : Agrees ys (some (x, w ++ closing)) (some (x, w)) := by
  intro y rest heq
  obtain ⟨rfl, rfl⟩ := Prod.mk.inj (Option.some.inj heq)
  exact .inl ⟨w, rfl, rfl⟩

/-- A reader that leaves only an end of what is given. -/
theorem past {a b : Option (α × List Char)} (ha : Leaves a ys) : Agrees ys a b :=
  fun x rest heq => .inr (ha x rest heq)

/-- One reader after another, where the second leaves little of what the first leaves of the end. -/
theorem bind_past {zs : List Char} {a b : Option (α × List Char)}
    {f g : α × List Char → Option (β × List Char)} (hab : Agrees zs a b)
    (hf : ∀ x rest, rest <:+ zs → Leaves (f (x, rest)) ys)
    (hfg : ∀ x w, b = .some (x, w) → Agrees ys (f (x, w ++ closing)) (g (x, w))) :
    Agrees ys (a >>= f) (b >>= g) := by
  intro y rest heq
  obtain ⟨⟨x, rest'⟩, hx, hy⟩ := Option.bind_eq_some_iff.mp heq
  -- Either the first reader stays within the expression, and the second one goes on there, or it
  -- has passed over the parenthesis, and so has the second one.
  obtain ⟨w, rfl, hb⟩ | hrest := hab x rest' hx
  · obtain ⟨v, rfl, hv⟩ | hrest := hfg x w hb y rest hy
    · exact .inl ⟨v, rfl, Option.bind_eq_some_iff.mpr ⟨(x, w), hb, hv⟩⟩
    · exact .inr hrest
  · exact .inr (hf x rest' hrest y rest hy)

/-- One reader after another, where neither passes over the parenthesis without the other. -/
theorem bind {a b : Option (α × List Char)} {f g : α × List Char → Option (β × List Char)}
    (hab : Agrees ys a b) (hf : ∀ x rest, Leaves (f (x, rest)) rest)
    (hfg : ∀ x w, b = .some (x, w) → Agrees ys (f (x, w ++ closing)) (g (x, w))) :
    Agrees ys (a >>= f) (b >>= g) :=
  hab.bind_past (fun x rest hrest => (hf x rest).mono hrest) hfg

/-- What takes no characters in front of readers that agree. -/
theorem bind_value {a : Option α} {f g : α → Option (β × List Char)}
    (hfg : ∀ x, a = .some x → Agrees ys (f x) (g x)) : Agrees ys (a >>= f) (a >>= g) := by
  intro y rest heq
  obtain ⟨x, hx, hy⟩ := Option.bind_eq_some_iff.mp heq
  obtain ⟨w, rfl, hw⟩ | hrest := hfg x hx y rest hy
  · exact .inl ⟨w, rfl, Option.bind_eq_some_iff.mpr ⟨x, hx, hw⟩⟩
  · exact .inr hrest

/-- Readers agree if they do so up to what they make of the value. -/
theorem map {a b : Option (α × List Char)} {f : α → β} (hab : Agrees ys a b) :
    Agrees ys (a.map fun p => (f p.1, p.2)) (b.map fun p => (f p.1, p.2)) := by
  intro y rest heq
  obtain ⟨⟨x, rest'⟩, hx, hy⟩ := Option.map_eq_some_iff.mp heq
  obtain ⟨rfl, rfl⟩ := Prod.mk.inj hy
  obtain ⟨w, rfl, hb⟩ | hrest := hab x rest' hx
  · exact .inl ⟨w, rfl, Option.map_eq_some_iff.mpr ⟨(x, w), hb, rfl⟩⟩
  · exact .inr hrest

theorem map_value {a : Option α} {f g : α → β × List Char}
    (hfg : ∀ x, Agrees ys (.some (f x)) (.some (g x))) : Agrees ys (a.map f) (a.map g) := by
  cases a with
  | none => exact .none
  | some x => exact hfg x

theorem ite {p : Prop} [Decidable p] {a b a' b' : Option (α × List Char)} (h : Agrees ys a b)
    (h' : Agrees ys a' b') : Agrees ys (if p then a else a') (if p then b else b') := by
  split
  · exact h
  · exact h'

/-- To agree up to an end of what is given is to agree up to more of it. -/
theorem mono {zs : List Char} {a b : Option (α × List Char)} (hab : Agrees ys a b)
    (h : ys <:+ zs) : Agrees zs a b :=
  fun x rest heq => (hab x rest heq).imp id fun hrest => hrest.trans h

end Agrees

/-- What starts with another character than the parenthesis does so without what stands behind. -/
theorem uncons_append_closing {c : Char} (hc : c ≠ ')') (h : w ++ closing = c :: rest) :
    ∃ v, w = c :: v ∧ rest = v ++ closing := by
  cases w with
  | nil => exact absurd (List.cons.inj h).1.symm hc
  | cons d w =>
    obtain ⟨rfl, rfl⟩ := List.cons.inj h
    exact ⟨w, rfl, rfl⟩

/-- An expression starts with such a character, or it does not with what stands behind either. -/
theorem starts_or_not (c : Char) (hc : c ≠ ')') (w : List Char) :
    (∃ v, w = c :: v) ∨ (∀ v, w ≠ c :: v) ∧ ∀ v, w ++ closing ≠ c :: v := by
  by_cases h : ∃ v, w = c :: v
  · exact .inl h
  · refine .inr ⟨fun v hv => h ⟨v, hv⟩, fun v hv => ?_⟩
    obtain ⟨v', hv', -⟩ := uncons_append_closing hc hv
    exact h ⟨v', hv'⟩

/-! ## Free spacing -/

theorem isWhiteSpace_close : isWhiteSpace ')' = false := by decide

theorem dropWhile_append_closing {p : Char → Bool} (hp : p ')' = false) (u : List Char) :
    (u ++ closing).dropWhile p = u.dropWhile p ++ closing := by
  induction u with
  | nil => exact List.dropWhile_cons_of_neg (by rw [hp]; exact Bool.false_ne_true)
  | cons c u ih =>
    rw [List.cons_append, List.dropWhile_cons, List.dropWhile_cons]
    split
    · exact ih
    · rfl

/-- Free spacing stops in front of the parenthesis, unless a comment takes everything. -/
theorem skipFree_append_closing (inComment : Bool) (u : List Char) :
    skipFree inComment (u ++ closing) = skipFree inComment u ++ closing ∨
      skipFree inComment (u ++ closing) = [] := by
  induction u generalizing inComment with
  | nil =>
    cases inComment with
    | false => exact .inl rfl
    | true => exact .inr rfl
  | cons c u ih =>
    rw [List.cons_append, skipFree, skipFree]
    split
    · exact ih _
    · split
      · exact ih _
      · split
        · exact ih _
        · exact .inl rfl

/-- Free spacing ends where it ends without what stands behind, unless a comment goes on to the
end. -/
theorem skipSpace_append_closing (fl : Flags) (u : List Char) :
    skipSpace fl (u ++ closing) = skipSpace fl u ++ closing ∨
      skipSpace fl (u ++ closing) = [] := by
  unfold skipSpace
  split
  · exact skipFree_append_closing false u
  · exact .inl rfl

theorem skipSpace_nil (fl : Flags) : skipSpace fl [] = [] := by
  unfold skipSpace
  split
  · rfl
  · rfl

theorem length_skipSpace_le (fl : Flags) (u : List Char) : (skipSpace fl u).length ≤ u.length :=
  (skipSpace_suffix fl u).length_le

/-- Readers agree behind free spacing if they do where it ends. -/
theorem Agrees.skipSpace {f g : List Char → Option (α × List Char)} (hf : Leaves (f []) [])
    (hfg : Agrees ys (f (skipSpace fl u ++ closing)) (g (skipSpace fl u))) :
    Agrees ys (f (Regex.skipSpace fl (u ++ closing))) (g (Regex.skipSpace fl u)) := by
  obtain h | h := skipSpace_append_closing fl u
  · rw [h]
    exact hfg
  · rw [h]
    exact .past (hf.mono (List.nil_suffix))

/-- What free spacing leaves. -/
theorem Agrees.skipped (x : α) (fl : Flags) (u : List Char) :
    Agrees ys (.some (x, Regex.skipSpace fl (u ++ closing))) (.some (x, Regex.skipSpace fl u)) :=
  .skipSpace (f := fun cs => .some (x, cs)) (g := fun cs => .some (x, cs))
    (.some List.suffix_rfl) .some

/-- Characters of a kind that the parenthesis is not of. -/
theorem takeSpaced_agrees {p : Char → Bool} (hp : p ')' = false) {turns turns' : Nat}
    (h : u.length ≤ turns) (h' : u.length ≤ turns') :
    Agrees ys (some (takeSpaced fl p turns (u ++ closing)))
      (some (takeSpaced fl p turns' u)) := by
  induction turns generalizing turns' u with
  | zero =>
    obtain rfl := List.eq_nil_of_length_eq_zero (Nat.le_zero.mp h)
    have hnil : takeSpaced fl p turns' [] = ([], []) := by cases turns' <;> rfl
    rw [hnil]
    exact .some (w := [])
  | succ turns ih =>
    cases u with
    | nil =>
      have hnil : takeSpaced fl p turns' [] = ([], []) := by cases turns' <;> rfl
      have hclosing : takeSpaced fl p (turns + 1) closing = ([], closing) :=
        if_neg (by rw [hp]; exact Bool.false_ne_true)
      rw [hnil, List.nil_append, hclosing]
      exact .some (w := [])
    | cons c u =>
      rw [List.length_cons] at h h'
      obtain ⟨turns', rfl⟩ : ∃ n, turns' = n + 1 := ⟨turns' - 1, by omega⟩
      have hu := length_skipSpace_le fl u
      rw [List.cons_append, takeSpaced, takeSpaced]
      split
      · refine .map (f := (c :: ·)) (.skipSpace (f := fun cs => some (takeSpaced fl p turns cs))
          (g := fun cs => some (takeSpaced fl p turns' cs)) (.some (takeSpaced_suffix _ _ _))
          (ih ?_ ?_))
        · omega
        · omega
      · exact .some (w := c :: u)

/-! ## Escapes -/

/-- Hexadecimal digits, as many as are asked for. -/
theorem hexDigits?_agrees (count value : Nat) (u : List Char) :
    Agrees behind (hexDigits? fl count value (u ++ closing)) (hexDigits? fl count value u) := by
  induction count generalizing value u with
  | zero => exact .some
  | succ count ih =>
    cases u with
    | nil => exact .none
    | cons c u =>
      refine .bind_value fun d _ => ?_
      exact .skipSpace (f := hexDigits? fl count _) (hexDigits?_leaves _ _ _) (ih _ _)

theorem hexInBraces?_agrees {turns turns' : Nat} (value : Option Nat) (h : u.length < turns') :
    Agrees behind (hexInBraces? fl turns value (u ++ closing))
      (hexInBraces? fl turns' value u) := by
  induction turns generalizing turns' value u with
  | zero => exact .none
  | succ turns ih =>
    cases u with
    | nil => exact .none
    | cons c u =>
      obtain ⟨turns', rfl⟩ : ∃ n, turns' = n + 1 := ⟨turns' - 1, by omega⟩
      rw [List.cons_append, hexInBraces?, hexInBraces?]
      split
      · exact .map_value fun n => .skipped n fl u
      · refine .bind_value fun d _ => ?_
        refine .skipSpace (f := hexInBraces? fl turns _) (hexInBraces?_leaves _ _ _) (ih _ ?_)
        have := length_skipSpace_le fl u
        rw [List.length_cons] at h
        omega

/-- A code point by its number, in braces or not. -/
theorem codePoint?_agrees (count : Nat) (u : List Char) :
    Agrees behind (codePoint? fl count (u ++ closing)) (codePoint? fl count u) := by
  obtain h | h := skipSpace_append_closing fl u
  · rw [codePoint?, codePoint?, h]
    generalize skipSpace fl u = w
    obtain ⟨v, rfl⟩ | ⟨hw, hw'⟩ := starts_or_not '\x7b' (by decide) w
    · have hlength := length_skipSpace_le fl v
      exact .bind (.skipSpace (f := hexInBraces? fl _ none) (hexInBraces?_leaves _ _ _)
          (hexInBraces?_agrees none (by omega)))
        (fun _ _ => .ite (.some List.suffix_rfl) .none) (fun _ _ _ => .ite .some .none)
    · -- Neither list starts with a brace, so both stand for the digits.
      simp only
      exact .bind (hexDigits?_agrees count 0 w) (fun _ _ => .ite (.some List.suffix_rfl) .none)
        (fun _ _ _ => .ite .some .none)
  · -- A comment goes on to the end, over the parenthesis, and there is nothing to read.
    have hnil : codePoint? fl count (u ++ closing) = codePoint? fl count [] := by
      unfold codePoint?
      rw [h, skipSpace_nil]
    rw [hnil]
    exact .past ((codePoint?_leaves count []).mono List.nil_suffix)

/-- A name ends at a closing brace only. -/
theorem nameInBraces?_eq_none {cs : List Char} (turns : Nat) (h : '\x7d' ∉ cs) :
    nameInBraces? fl turns cs = none := by
  induction turns generalizing cs with
  | zero => rfl
  | succ turns ih =>
    cases cs with
    | nil => rfl
    | cons c cs =>
      obtain ⟨hc, hcs⟩ := not_or.mp fun hor => h (List.mem_cons.mpr hor)
      have hskip : '\x7d' ∉ skipSpace fl cs := fun hmem => hcs ((skipSpace_suffix fl cs).mem hmem)
      rw [nameInBraces?, if_neg (by simpa using Ne.symm hc), ih hskip]
      rfl

theorem nameInBraces?_agrees {turns turns' : Nat} (h : u.length < turns') :
    Agrees behind (nameInBraces? fl turns (u ++ closing)) (nameInBraces? fl turns' u) := by
  induction turns generalizing turns' u with
  | zero => exact .none
  | succ turns ih =>
    cases u with
    | nil =>
      have hnone : nameInBraces? fl (turns + 1) closing = none :=
        nameInBraces?_eq_none _ (by decide)
      rw [List.nil_append, hnone]
      exact .none
    | cons c u =>
      obtain ⟨turns', rfl⟩ : ∃ n, turns' = n + 1 := ⟨turns' - 1, by omega⟩
      rw [List.cons_append, nameInBraces?, nameInBraces?]
      split
      · exact .some
      · refine .bind (.skipSpace (f := nameInBraces? fl turns) (nameInBraces?_leaves _ _) (ih ?_))
          (fun _ _ => .some List.suffix_rfl) (fun _ _ _ => .some)
        have := length_skipSpace_le fl u
        rw [List.length_cons] at h
        omega

/-- The text of a property. -/
theorem propertyText?_agrees (u : List Char) :
    Agrees behind (propertyText? fl (u ++ closing)) (propertyText? fl u) := by
  obtain h | h := skipSpace_append_closing fl u
  · unfold propertyText?
    rw [h]
    cases skipSpace fl u with
    | nil => exact .past (.some (skipSpace_suffix fl behind))
    | cons c w =>
      rw [List.cons_append]
      dsimp only
      split
      · have hlength := length_skipSpace_le fl w
        exact .skipSpace (f := nameInBraces? fl _) (nameInBraces?_leaves _ _)
          (nameInBraces?_agrees (by omega))
      · exact .none
      · exact .skipped _ fl w
  · have hnil : propertyText? fl (u ++ closing) = propertyText? fl [] := by
      unfold propertyText?
      rw [h, skipSpace_nil]
    rw [hnil]
    exact .past ((propertyText?_leaves []).mono List.nil_suffix)

theorem propertyClass?_agrees (negated : Bool) (u : List Char) :
    Agrees behind (propertyClass? fl negated (u ++ closing)) (propertyClass? fl negated u) :=
  .bind (propertyText?_agrees u)
    (fun _ _ => .ite .none (.bind_value fun _ => .some List.suffix_rfl))
    (fun _ _ _ => .ite .none (.bind_value fun _ _ => .some))

theorem namedBoundary?_agrees (u : List Char) :
    Agrees behind (namedBoundary? fl (u ++ closing)) (namedBoundary? fl u) := by
  intro e rest heq
  unfold namedBoundary? at heq
  split at heq
  · next name rest' hname =>
    obtain ⟨l, hl, hpair⟩ := Option.map_eq_some_iff.mp heq
    obtain ⟨rfl, rfl⟩ := Prod.mk.inj hpair
    have hlength : u.length ≤ (u ++ closing).length := (List.prefix_append _ _).length_le
    have hagrees : Agrees behind (some (takeSpaced fl isBoundaryChar _ (u ++ closing)))
        (some (takeSpaced fl isBoundaryChar u.length u)) :=
      takeSpaced_agrees (by decide) hlength (Nat.le_refl _)
    obtain ⟨v, hv, halone⟩ | hbehind := hagrees name _ (congrArg some hname)
    · obtain ⟨v, rfl, rfl⟩ := uncons_append_closing (by decide) hv.symm
      refine .inl ⟨v, rfl, ?_⟩
      rw [namedBoundary?, Option.some.inj halone]
      exact Option.map_eq_some_iff.mpr ⟨l, hl, rfl⟩
    · exact absurd (hbehind.mem List.mem_cons_self) (by decide)
  · cases heq

/-- A reading that ends at an opening brace, behind which nothing else stands. -/
def EndsInBrace (fl : Flags) (x : α) (a : Option (α × List Char)) : Prop :=
  ∃ v, a = some (x, '\x7b' :: (v ++ closing)) ∧ skipSpace fl (v ++ closing) = closing

/-- A boundary of words in front of such a brace is invalid alone. With more behind it, the brace
starts a repetition, which has no bounds. -/
theorem boundary?_agrees (u : List Char) :
    Agrees behind (boundary? fl (u ++ closing)) (boundary? fl u) ∨
      ∃ l, EndsInBrace fl (.look l) (boundary? fl (u ++ closing)) := by
  unfold boundary?
  obtain ⟨v, rfl⟩ | ⟨hu, hu'⟩ := starts_or_not '\x7b' (by decide) u
  · simp only [List.cons_append]
    obtain h | h := skipSpace_append_closing fl v
    · rw [h]
      cases hw : skipSpace fl v with
      | nil => exact .inr ⟨_, v, rfl, by rw [h, hw, List.nil_append]⟩
      | cons c w =>
        simp only [List.cons_append]
        split
        · exact .inl (namedBoundary?_agrees (c :: w))
        · exact .inl (.some (w := '\x7b' :: v))
    · rw [h]
      exact .inl .none
  · simp only
    exact .inl .some

/-- An escape, but for the boundary of words in front of a brace. -/
theorem escape?_agrees (u : List Char) :
    Agrees behind (escape? fl (u ++ closing)) (escape? fl u) ∨
      ∃ l, EndsInBrace fl (.look l) (escape? fl (u ++ closing)) := by
  cases u with
  | nil => exact .inl (.past (.some List.suffix_rfl))
  | cons c u =>
    rw [List.cons_append]
    unfold escape?
    dsimp only
    split
    · exact .inl (codePoint?_agrees 2 u)
    · exact .inl (codePoint?_agrees 4 u)
    · exact .inl (codePoint?_agrees 8 u)
    · exact .inl (propertyClass?_agrees false u)
    · exact .inl (propertyClass?_agrees true u)
    · exact .inl .some
    · exact .inl .some
    · exact boundary?_agrees u
    · exact .inl .some
    · exact .inl .some
    · exact .inl .some
    · split
      · exact .inl (.map_value fun _ => .some)
      · split
        · exact .inl .some
        · exact .inl (.map_value fun _ => .some)

end JsonPath.Regex
