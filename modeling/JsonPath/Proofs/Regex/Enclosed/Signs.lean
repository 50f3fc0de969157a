import JsonPath.Proofs.Regex.Enclosed

/-!
# Signs in parentheses

Classes in brackets, starts of groups, repetitions and elements are read from an expression in
parentheses as they are read from the expression alone, unless they pass over the parenthesis
(`sign?_agrees`). A class never does: no bracket stands behind the expression that could close it.
-/

namespace JsonPath.Regex

open JsonPath.Text JsonPath.Unicode

variable {β : Type} {fl : Flags} {ys u rest : List Char}

/-! ## Classes in brackets -/

/-- What is made of an item that is no condition agrees. -/
theorem item?_bind_agrees {f g : Element × List Char → Option (β × List Char)}
    (hf : ∀ e rest, Leaves (f (e, rest)) rest) (hlook : ∀ l rest, f (.look l, rest) = none)
    (hfg : ∀ e w, Agrees closing (f (e, w ++ closing)) (g (e, w))) (u : List Char) :
    Agrees closing (item? fl (u ++ closing) >>= f) (item? fl u >>= g) := by
  cases u with
  | nil => exact .past ((hf (.literal ')') behind).mono (List.suffix_cons _ _))
  | cons c u =>
    rw [List.cons_append, item?, item?]
    split
    · obtain h | ⟨l, v, h, -⟩ := @escape?_agrees fl u
      · exact .bind (h.mono (List.suffix_cons _ _)) hf fun e w _ => hfg e w
      · -- The boundary of words that a brace follows is a condition.
        have hnone : (escape? fl (u ++ closing) >>= f) = none := by
          rw [h]
          exact hlook l _
        rw [hnone]
        exact .none
    · exact hfg (.literal c) u

theorem head?_append_closing {c : Char} (hc : c ≠ ')') (u : List Char) :
    (u ++ closing).head? = some c ↔ u.head? = some c := by
  cases u with
  | nil => exact ⟨fun h => absurd (Option.some.inj h).symm hc, nofun⟩
  | cons d u => exact Iff.rfl

/-- Which character comes next is the same within the parentheses, unless it is the closing one. -/
theorem peekSpace_append_closing {c : Char} (hc : c ≠ ')') (u : List Char) :
    peekSpace fl (u ++ closing) = some c ↔ peekSpace fl u = some c := by
  unfold peekSpace
  split
  · rw [dropWhile_append_closing isWhiteSpace_close]
    generalize u.dropWhile isWhiteSpace = w
    obtain ⟨v, rfl⟩ | ⟨hw, hw'⟩ := starts_or_not '#' (by decide) w
    · simp only [List.cons_append, dropWhile_append_closing isWhiteSpace_close]
      exact head?_append_closing hc _
    · simp only
      exact head?_append_closing hc w
  · exact head?_append_closing hc u

theorem rangeTo?_agrees (first : Element) (u : List Char) :
    Agrees closing (rangeTo? fl first (u ++ closing)) (rangeTo? fl first u) := by
  unfold rangeTo?
  obtain h | h := skipSpace_append_closing fl u
  · rw [h]
    refine item?_bind_agrees (fun e rest => ?_) (fun l rest => ?_) (fun e w => ?_) _
    · refine .bind_value fun low => .bind_value fun high => .bind_value fun _ =>
        .bind_value fun _ => ?_
      split
      · exact .some List.suffix_rfl
      · exact .none
    · cases first.char? fl <;> rfl
    · refine .bind_value fun low _ => .bind_value fun high _ => .bind_value fun _ _ =>
        .bind_value fun _ _ => ?_
      split
      · exact .some
      · exact .none
  · rw [h]
    exact .none

/-- A hyphen and what follows it: whether a range goes on is decided by a look at the next
character. -/
theorem rangeFrom?_agrees (first : Element) (u : List Char) :
    Agrees closing (rangeFrom? fl first (u ++ closing)) (rangeFrom? fl first u) := by
  obtain h | h := skipSpace_append_closing fl u
  · unfold rangeFrom?
    rw [h]
    cases skipSpace fl u with
    | nil => exact .past (.map_value fun _ => List.suffix_rfl)
    | cons c w =>
      -- The two characters that are looked for are not the parenthesis, so the look gives the same.
      have hpeek : ∀ d : Char, d ≠ ')' →
          (peekSpace fl (w ++ closing) != some d) = (peekSpace fl w != some d) := by
        intro d hd
        rw [bne, bne, beq_eq_decide, beq_eq_decide,
          decide_eq_decide.mpr (peekSpace_append_closing hd w)]
      rw [List.cons_append]
      dsimp only
      rw [hpeek ']' (by decide), hpeek '-' (by decide)]
      split
      · exact rangeTo?_agrees first w
      · exact .map_value fun _ => .some (w := c :: w)
  · have hnil : rangeFrom? fl first (u ++ closing) = none := by
      unfold rangeFrom?
      rw [h]
    rw [hnil]
    exact .none

/-- A condition is no item of a class. -/
theorem rangeFrom?_look (l : Look) (cs : List Char) : rangeFrom? fl (.look l) cs = none := by
  unfold rangeFrom?
  split
  · rfl
  · split
    · unfold rangeTo?
      cases item? fl (skipSpace fl _) <;> rfl
    · rfl

/-- A range, or an item that stands alone. -/
theorem rangeOrItem?_agrees (u : List Char) :
    Agrees closing (rangeOrItem? fl (u ++ closing)) (rangeOrItem? fl u) :=
  item?_bind_agrees (fun _ _ => rangeFrom?_leaves _ _) (fun _ _ => rangeFrom?_look _ _)
    (fun e w => rangeFrom?_agrees e w) u

/-- The name of a class ends where it does without what stands behind. -/
theorem latinName?_append_closing (u : List Char) :
    latinName? (u ++ closing) = (latinName? u).map fun p => (p.1, p.2 ++ closing) := by
  induction u with
  | nil => decide
  | cons c u ih =>
    rw [List.cons_append, latinName?, latinName?]
    split
    · cases u with
      | nil => rfl
      | cons d u =>
        by_cases hd : d = ']'
        · subst hd
          rfl
        · simp [hd]
    · rw [ih, Option.map_map, Option.map_map]
      rfl

/-- A class that is named between colons never reaches the parenthesis. -/
theorem latinClass?_append_closing (u : List Char) :
    latinClass? fl (u ++ closing) = (latinClass? fl u).map fun p => (p.1, p.2 ++ closing) := by
  cases u with
  | nil => rfl
  | cons c u =>
    unfold latinClass?
    dsimp only [List.cons_append]
    split
    · have hhead : ((u ++ closing).head? == some '^') = (u.head? == some '^') := by
        rw [beq_eq_decide, beq_eq_decide, decide_eq_decide.mpr (head?_append_closing (by decide) u)]
      have hname : (if u.head? == some '^' then (u ++ closing).tail else u ++ closing)
          = (if u.head? == some '^' then u.tail else u) ++ closing := by
        cases u with
        | nil => rfl
        | cons d u => split <;> rfl
      rw [hhead, hname, latinName?_append_closing]
      cases latinName? (if u.head? == some '^' then u.tail else u) with
      | none => rfl
      | some p =>
        show (CharSet.latinClass? (.ofList p.1) >>= _)
          = Option.map _ (CharSet.latinClass? (.ofList p.1) >>= _)
        cases CharSet.latinClass? (.ofList p.1) <;> rfl
    · rfl

theorem operator?_append_closing (c : Char) (u : List Char) :
    operator? (c :: (u ++ closing))
      = (operator? (c :: u)).map fun p => (p.1, p.2 ++ closing) := by
  cases u with
  | nil =>
    by_cases hc : c = ')'
    · subst hc
      rfl
    · exact if_neg hc
  | cons d u =>
    dsimp only [List.cons_append, operator?]
    split
    · cases SetOperator.ofSign? c <;> rfl
    · rfl

/-- The caret at the start of a class. -/
theorem caret_agrees (u : List Char) :
    Agrees closing (some (caret fl (u ++ closing))) (some (caret fl u)) := by
  obtain h | h := skipSpace_append_closing fl u
  · unfold caret
    rw [h]
    generalize skipSpace fl u = w
    obtain ⟨v, rfl⟩ | ⟨hw, hw'⟩ := starts_or_not '^' (by decide) w
    · exact .skipped true fl v
    · simp only
      exact .some
  · have hnil : caret fl (u ++ closing) = (false, []) := by
      unfold caret
      rw [h]
    rw [hnil]
    exact .past (.some List.nil_suffix)

/-- The hyphens at the start of a class. -/
theorem hyphens_agrees {turns turns' : Nat} (items : List Part) (h : u.length ≤ turns)
    (h' : u.length ≤ turns') :
    Agrees closing (some (hyphens fl turns items (u ++ closing)))
      (some (hyphens fl turns' items u)) := by
  induction turns generalizing turns' items u with
  | zero =>
    obtain rfl := List.eq_nil_of_length_eq_zero (Nat.le_zero.mp h)
    exact .past (.some List.suffix_rfl)
  | succ turns ih =>
    cases u with
    | nil => exact .past (.some List.suffix_rfl)
    | cons c u =>
      rw [List.length_cons] at h h'
      obtain ⟨turns', rfl⟩ : ∃ n, turns' = n + 1 := ⟨turns' - 1, by omega⟩
      have hu := length_skipSpace_le fl u
      rw [List.cons_append, hyphens, hyphens]
      split
      · exact .skipSpace (f := fun cs => some (hyphens fl turns _ cs))
          (g := fun cs => some (hyphens fl turns' _ cs)) (.some (hyphens_suffix _ _ _))
          (ih _ (by omega) (by omega))
      · exact .some (w := c :: u)

/-- A first closing bracket, behind which something has to follow. -/
theorem firstItem?_agrees (negated : Bool) (items : List Part) (u : List Char) :
    Agrees closing (firstItem? fl negated items (u ++ closing))
      (firstItem? fl negated items u) := by
  cases u with
  | nil => exact .past (firstItem?_leaves negated items closing)
  | cons c u =>
    rw [List.cons_append]
    unfold firstItem?
    dsimp only
    split
    · obtain h | h := skipSpace_append_closing fl u
      · rw [h]
        cases skipSpace fl u with
        | nil => exact .past (.some List.suffix_rfl)
        | cons d w => exact .some (w := d :: w)
      · rw [h]
        exact .none
    · exact .some (w := c :: u)

theorem openClass?_agrees (u : List Char) :
    Agrees closing (openClass? fl (u ++ closing)) (openClass? fl u) := by
  have hopen : ∀ cs, openClass? fl cs = (some (caret fl cs) >>= fun p =>
      some (hyphens fl p.2.length [] p.2) >>= fun q => firstItem? fl p.1 q.1 q.2) := fun _ => rfl
  rw [hopen, hopen]
  refine .bind (caret_agrees u) (fun _ _ => ?_) (fun negated w _ => ?_)
  · exact (firstItem?_leaves _ _ _).mono (hyphens_suffix _ _ _)
  · have hlength : w.length ≤ (w ++ closing).length := (List.prefix_append _ _).length_le
    exact .bind (hyphens_agrees [] hlength (Nat.le_refl _)) (fun _ _ => firstItem?_leaves _ _ _)
      (fun items v _ => firstItem?_agrees negated items v)

/-- No class is closed behind the expression. -/
theorem class?_leaves_past {turns : Nat} {level : Level} {outer : List Level}
    (h : rest <:+ closing) : Leaves (class? fl turns level outer rest) ys := by
  intro p rest' heq
  exact absurd (h.mem ((class?_suffix heq).mem List.mem_cons_self)) (by decide)

theorem skipSpace_closing (fl : Flags) : skipSpace fl closing = closing := by
  unfold skipSpace
  split
  · rfl
  · rfl

/-- A class in brackets. It may take a different number of turns, so both numbers are arbitrary. -/
theorem class?_agrees {turns turns' : Nat} (level : Level) (outer : List Level)
    (h : u.length < turns') :
    Agrees behind (class? fl turns level outer (u ++ closing))
      (class? fl turns' level outer u) := by
  induction turns generalizing turns' level outer u with
  | zero => exact .none
  | succ turns ih =>
    obtain ⟨turns', rfl⟩ : ∃ n, turns' = n + 1 := ⟨turns' - 1, by omega⟩
    obtain hskip | hskip := skipSpace_append_closing fl u
    · have hu := length_skipSpace_le fl u
      cases hw : skipSpace fl u with
      | nil =>
        have hclosing : class? fl (turns + 1) level outer (u ++ closing)
            = class? fl (turns + 1) level outer closing := by
          unfold class?
          rw [hskip, hw, skipSpace_closing, List.nil_append]
        -- Alone, the class is cut off here. Behind the parenthesis it goes on, to no end.
        rw [hclosing]
        exact .past (class?_leaves_past List.suffix_rfl)
      | cons c w =>
        -- Whatever is read next, it leaves an end of `w`, so enough turns are left for the
        -- induction.
        have hlength : ∀ {v}, v <:+ w → v.length < turns' := by
          intro v hv
          have := hv.length_le
          rw [hw, List.length_cons] at hu
          omega
        unfold class?
        rw [hskip, hw, List.cons_append]
        dsimp only
        split
        · refine .bind_value fun p _ => ?_
          cases outer with
          | nil => exact .some
          | cons l ls => exact ih _ ls (hlength List.suffix_rfl)
        · rw [latinClass?_append_closing]
          cases hlatin : latinClass? fl w with
          | some p =>
            exact .bind_value fun q _ => ih _ outer (hlength (latinClass?_leaves _ _ _ hlatin))
          | none =>
            exact .bind_past (openClass?_agrees w) (fun _ _ => class?_leaves_past)
              (fun l v hv => ih l _ (hlength (openClass?_leaves _ _ _ hv)))
        · rw [operator?_append_closing]
          cases hop : operator? (c :: w) with
          | some p => exact ih _ outer (hlength (operator?_leaves _ _ _ _ hop))
          | none =>
            exact .bind_past (rangeOrItem?_agrees (c :: w)) (fun _ _ => class?_leaves_past)
              (fun l v hv => ih _ outer (hlength (rangeOrItem?_leaves _ _ _ _ hv)))
    · unfold class?
      rw [hskip]
      exact .none

/-- A class in brackets, from its opening bracket on. -/
theorem bracket?_agrees (u : List Char) :
    Agrees behind (bracket? fl (u ++ closing)) (bracket? fl u) := by
  unfold bracket?
  refine .bind_past (openClass?_agrees u) (fun level rest hrest => ?_) (fun level w _ => ?_)
  · exact .bind (class?_leaves_past hrest) fun _ _ => .some
  · exact .bind (class?_agrees level [] (Nat.lt_succ_self _)) (fun _ _ => .some List.suffix_rfl)
      (fun _ _ _ => .some)

/-! ## Groups -/

/-- The flags of a group, which may end at the parenthesis itself. -/
theorem readFlags?_agrees (fl : Flags) (seen u : List Char) :
    Agrees behind (readFlags? fl seen (u ++ closing)) (readFlags? fl seen u) := by
  induction u generalizing fl seen with
  | nil =>
    have hclosing : readFlags? fl seen closing
        = if seen.head? = some '-' ∨ seen.isEmpty then none else some ((fl, false), behind) := rfl
    rw [List.nil_append, hclosing]
    split
    · exact .none
    · exact .past (.some List.suffix_rfl)
  | cons c u ih =>
    rw [List.cons_append]
    unfold readFlags?
    split
    · split
      · exact .none
      · exact .some
    · split
      · exact .none
      · exact .some
    · split
      · exact .none
      · split
        · exact ih _ _
        · exact .bind_value fun fl' _ => ih _ _

theorem upToAngle?_agrees (u : List Char) :
    Agrees behind (upToAngle? (u ++ closing)) (upToAngle? u) := by
  induction u with
  | nil => exact .none
  | cons c u ih =>
    rw [List.cons_append, upToAngle?, upToAngle?]
    split
    · exact .some
    · exact ih.map

theorem groupName?_agrees (u : List Char) :
    Agrees behind (groupName? (u ++ closing)) (groupName? u) :=
  .bind (upToAngle?_agrees u) (fun _ _ => .ite (.some List.suffix_rfl) .none)
    (fun _ _ _ => .ite .some .none)

/-- The name of a group, which must not have been used before. -/
theorem namedGroup?_agrees (r : Draft) (u : List Char) :
    Agrees behind (namedGroup? r (u ++ closing)) (namedGroup? r u) :=
  .bind (groupName?_agrees u) (fun _ _ => .ite .none (.some List.suffix_rfl))
    (fun _ _ _ => .ite .none .some)

theorem flagGroup?_agrees (r : Draft) (u : List Char) :
    Agrees behind (flagGroup? r (u ++ closing)) (flagGroup? r u) :=
  .bind (readFlags?_agrees _ _ u) (fun _ _ => .some List.suffix_rfl) (fun _ _ _ => .some)

/-- What stands behind the question mark of a group. -/
theorem specialGroup?_agrees (r : Draft) (u : List Char) :
    Agrees behind (specialGroup? r (u ++ closing)) (specialGroup? r u) := by
  cases u with
  | nil => exact .none
  | cons c u =>
    rw [List.cons_append]
    have hhead : ∀ d : Char, d ≠ ')' → ((u ++ closing).head? = some d ↔ u.head? = some d) :=
      fun d hd => head?_append_closing hd u
    unfold specialGroup?
    dsimp only
    split
    · exact .none
    · exact .none
    · simp only [hhead '=' (by decide), hhead '!' (by decide)]
      split
      · exact .none
      · exact namedGroup?_agrees r u
    · simp only [hhead '<' (by decide)]
      split
      · next h =>
        cases u with
        | nil => cases h.2
        | cons d u => exact namedGroup?_agrees r u
      · exact flagGroup?_agrees r (c :: u)

theorem group?_agrees (r : Draft) (u : List Char) :
    Agrees behind (group? r (u ++ closing)) (group? r u) := by
  obtain h | h := skipSpace_append_closing r.flags u
  · unfold group?
    rw [h]
    generalize skipSpace r.flags u = w
    obtain ⟨v, rfl⟩ | ⟨hw, hw'⟩ := starts_or_not '?' (by decide) w
    · exact specialGroup?_agrees r v
    · simp only
      exact .some
  · have hnil : group? r (u ++ closing) = group? r [] := by
      unfold group?
      rw [h, skipSpace_nil]
    rw [hnil]
    exact .past ((group?_leaves r []).mono List.nil_suffix)

/-! ## Repetitions -/

theorem count?_agrees (u : List Char) :
    Agrees behind (count? fl (u ++ closing)) (count? fl u) := by
  have hcount : ∀ cs, count? fl cs = (
      some (takeSpaced fl isDigit cs.length (cs.dropWhile isWhiteSpace)) >>= fun p =>
      if p.1.isEmpty ∨ maxCount < ofDigits p.1 then none
      else (some (takeSpaced fl isWhiteSpace p.2.length p.2)).map fun q => (ofDigits p.1, q.2)) :=
    fun _ => rfl
  rw [hcount, hcount, dropWhile_append_closing isWhiteSpace_close]
  have hblank := (List.dropWhile_suffix isWhiteSpace (l := u)).length_le
  have hlength := (List.prefix_append u closing).length_le
  refine .bind (takeSpaced_agrees (by decide) (Nat.le_trans hblank hlength) hblank)
    (fun _ _ => .ite .none (.some (takeSpaced_suffix _ _ _))) (fun ds w _ => .ite .none ?_)
  exact (takeSpaced_agrees isWhiteSpace_close (List.prefix_append w closing).length_le
    (Nat.le_refl _)).map (f := fun _ => ofDigits ds)

theorem upper?_agrees (least : Nat) (u : List Char) :
    Agrees behind (upper? fl least (u ++ closing)) (upper? fl least u) := by
  unfold upper?
  obtain ⟨v, rfl⟩ | ⟨hu, hu'⟩ := starts_or_not ',' (by decide) u
  · simp only [List.cons_append]
    obtain h | h := skipSpace_append_closing fl v
    · rw [h]
      generalize skipSpace fl v = w
      obtain ⟨v, rfl⟩ | ⟨hw, hw'⟩ := starts_or_not '\x7d' (by decide) w
      · exact .some (w := '\x7d' :: v)
      · simp only
        exact (count?_agrees w).map (f := some)
    · rw [h]
      exact .none
  · simp only
    exact .some

theorem close?_agrees (least : Nat) (most : Option Nat) (u : List Char) :
    Agrees behind (close? least most (u ++ closing)) (close? least most u) := by
  unfold close?
  obtain ⟨v, rfl⟩ | ⟨hu, hu'⟩ := starts_or_not '\x7d' (by decide) u
  · simp only [List.cons_append]
    split
    · exact .some
    · exact .none
  · simp only
    exact .none

/-- The bounds of a repetition in braces. -/
theorem bounds?_agrees (u : List Char) :
    Agrees behind (bounds? fl (u ++ closing)) (bounds? fl u) :=
  .bind (.skipSpace (f := count? fl) (count?_leaves _) (count?_agrees _))
    (fun _ _ => .bind (upper?_leaves _ _) fun _ _ hrest => (close?_leaves _ _ _).mono hrest)
    (fun least w _ => .bind (upper?_agrees least w) (fun _ _ => close?_leaves _ _ _)
      fun most v _ => close?_agrees least most v)

theorem mark_append_closing (u : List Char) :
    mark (u ++ closing) = ((mark u).1, (mark u).2 ++ closing) := by
  unfold mark
  obtain ⟨v, rfl⟩ | ⟨hu, hu'⟩ := starts_or_not '?' (by decide) u
  · rfl
  · simp only

theorem repeated?_agrees (r : Draft) (least : Nat) (most : Option Nat) (u : List Char) :
    Agrees behind (repeated? r least most (u ++ closing)) (repeated? r least most u) := by
  unfold repeated?
  rw [mark_append_closing]
  exact .map_value fun _ => .some

/-- A repetition with bounds, and the mark behind it. -/
theorem counted?_agrees (r : Draft) (u : List Char) :
    Agrees behind (counted? r (u ++ closing)) (counted? r u) := by
  refine .bind (bounds?_agrees u) (fun _ rest => ?_) (fun bounds w _ => ?_)
  · exact .bind_value fun _ => .some ((mark_suffix _).trans (skipSpace_suffix _ rest))
  · obtain h | h := skipSpace_append_closing r.flags w
    · dsimp only
      rw [h, mark_append_closing]
      exact .bind_value fun _ _ => .some
    · dsimp only
      rw [h]
      exact .past (.bind_value fun _ => .some List.nil_suffix)

/-! ## Signs -/

/-- An element, but for the boundary of words in front of a brace. -/
theorem element?_agrees (u : List Char) (hu : u ≠ []) :
    Agrees behind (element? fl (u ++ closing)) (element? fl u) ∨
      ∃ l, EndsInBrace fl (.look l) (element? fl (u ++ closing)) := by
  cases u with
  | nil => exact absurd rfl hu
  | cons c u =>
    rw [List.cons_append]
    unfold element?
    dsimp only
    split
    · obtain h | ⟨l, v, h, hv⟩ := @escape?_agrees fl u
      · exact .inl (.bind h (fun _ _ => .bind_value fun _ => .some List.suffix_rfl)
          (fun _ _ _ => .bind_value fun _ _ => .some))
      · refine .inr ⟨l, v, ?_, hv⟩
        rw [h]
        rfl
    · exact .inl (.map_value fun _ => .some)
    · exact .inl .some
    · exact .inl .some
    · exact .inl (.map_value fun _ => .some)

/-- A sign is read from an expression in parentheses as it is read from the expression alone. -/
theorem sign?_agrees (r : Draft) (c : Char) (u : List Char) :
    Agrees behind (sign? r (c :: (u ++ closing))) (sign? r (c :: u)) ∨
      ∃ l, EndsInBrace r.flags (r.add (.look l)) (sign? r (c :: (u ++ closing))) := by
  unfold sign?
  dsimp only
  split
  · exact .inl (group?_agrees r u)
  · exact .inl (.map_value fun _ => .some)
  · exact .inl .some
  · exact .inl (bracket?_agrees u).map
  · exact .inl (repeated?_agrees r _ _ u)
  · exact .inl (repeated?_agrees r _ _ u)
  · exact .inl (repeated?_agrees r _ _ u)
  · exact .inl (counted?_agrees r u)
  · obtain h | ⟨l, v, h, hv⟩ := @element?_agrees r.flags (c :: u) (List.cons_ne_nil c u)
    · exact .inl h.map
    · refine .inr ⟨l, v, ?_, hv⟩
      rw [List.cons_append] at h
      rw [h]
      rfl

end JsonPath.Regex
