import JsonPath.Proofs.Regex.Enclosed.Signs
import JsonPath.Regex.Interoperable

/-!
# Breaking out of parentheses

The expression for a whole text is put between conditions, in parentheses. If it closes a group that
it has not opened, it closes these parentheses and breaks out of them (`BreaksOut`). Alone, such an
expression is invalid. Any other expression is valid in parentheses only if it is valid alone, and
then its pattern is what stands in the group between the conditions (`read?_enclosed`).
-/

namespace JsonPath.Regex

open JsonPath.Text JsonPath.Unicode

variable {r d : Draft} {s : Surroundings} {u cs rest : List Char} {turns turns' : Nat}

theorem signs?_of_end (h : skipSpace r.flags cs = []) : signs? (turns + 1) r cs = some r := by
  rw [signs?, h]

/-- Where a sign starts it is read first. -/
theorem signs?_of_sign {c : Char} (h : skipSpace r.flags cs = c :: rest) :
    signs? (turns + 1) r cs = sign? r (c :: rest) >>= fun p => signs? turns p.1 p.2 := by
  rw [signs?, h]

/-- Reading on, an expression comes to a closing parenthesis where no group is open. -/
inductive BreaksOut : Draft → List Char → Prop
  | here {r : Draft} {cs rest : List Char} (h : skipSpace r.flags cs = ')' :: rest)
      (hr : r.outer = []) : BreaksOut r cs
  | later {r r' : Draft} {c : Char} {cs w rest : List Char} (hc : skipSpace r.flags cs = c :: w)
      (h : sign? r (c :: w) = some (r', rest)) (h' : BreaksOut r' rest) : BreaksOut r cs

/-- An expression that breaks out is invalid. -/
theorem BreaksOut.signs?_eq_none (h : BreaksOut r cs) (turns : Nat) : signs? turns r cs = none := by
  induction h generalizing turns with
  | @here r cs rest h hr =>
    cases turns with
    | zero => rfl
    | succ turns =>
      have hclose : sign? r (')' :: rest) = none := by
        dsimp only [sign?, Draft.closeGroup?]
        rw [hr]
        rfl
      rw [signs?_of_sign h, hclose]
      rfl
  | later hc h h' ih =>
    cases turns with
    | zero => rfl
    | succ turns =>
      rw [signs?_of_sign hc, h]
      exact ih turns

example : BreaksOut .start ['a', ')', '|', 'b'] := .later rfl rfl (.here rfl rfl)

/-! ## Drafts inside of a group -/

namespace Draft

/-- A draft inside of one more group, the outermost. -/
def within (s : Surroundings) (r : Draft) : Draft := { r with outer := r.outer ++ [s] }

/-- A repetition does not depend on what is around. -/
theorem repeat?_within (s : Surroundings) (r : Draft) (least : Nat) (most : Option Nat)
    (marked : Bool) :
    (r.within s).repeat? least most marked = (r.repeat? least most marked).map (within s) := by
  unfold repeat?
  dsimp only [within]
  split
  · split
    · rfl
    · rfl
  · rfl

/-- A group that is not the outermost one is closed as it is without anything around it. -/
theorem closeGroup?_within (s : Surroundings) (h : r.outer ≠ []) :
    (r.within s).closeGroup? = r.closeGroup?.map (within s) := by
  unfold closeGroup? within
  cases hr : r.outer with
  | nil => exact absurd hr h
  | cons s' outer => rfl

end Draft

/-- A name is refused if it was used before, and what is around uses none. -/
theorem namedGroup?_within (s : Surroundings) (r : Draft) (cs : List Char) :
    namedGroup? (r.within s) cs = (namedGroup? r cs).map fun p => (p.1.within s, p.2) := by
  unfold namedGroup?
  cases groupName? cs with
  | none => rfl
  | some p =>
    have hnames : (r.within s).names = r.names := rfl
    simp only [Option.bind_eq_bind, Option.bind_some, hnames]
    split
    · rfl
    · rfl

theorem flagGroup?_within (s : Surroundings) (r : Draft) (cs : List Char) :
    flagGroup? (r.within s) cs = (flagGroup? r cs).map fun p => (p.1.within s, p.2) := by
  unfold flagGroup?
  dsimp only [Draft.within]
  cases readFlags? r.flags [] cs with
  | none => rfl
  | some p =>
    obtain ⟨⟨fl, isGroup⟩, rest⟩ := p
    cases isGroup <;> rfl

theorem specialGroup?_within (s : Surroundings) (r : Draft) (cs : List Char) :
    specialGroup? (r.within s) cs = (specialGroup? r cs).map fun p => (p.1.within s, p.2) := by
  cases cs with
  | nil => rfl
  | cons c cs =>
    unfold specialGroup?
    dsimp only
    split
    · rfl
    · rfl
    · split
      · rfl
      · exact namedGroup?_within s r cs
    · split
      · exact namedGroup?_within s r _
      · exact flagGroup?_within s r _

/-- The start of a group does not depend on what is around. -/
theorem group?_within (s : Surroundings) (r : Draft) (cs : List Char) :
    group? (r.within s) cs = (group? r cs).map fun p => (p.1.within s, p.2) := by
  unfold group?
  dsimp only [Draft.within]
  split
  · exact specialGroup?_within s r _
  · rfl

/-- A repetition with its mark does not depend on what is around. -/
theorem repeated?_within (s : Surroundings) (r : Draft) (least : Nat) (most : Option Nat)
    (cs : List Char) :
    repeated? (r.within s) least most cs
      = (repeated? r least most cs).map fun p => (p.1.within s, p.2) := by
  unfold repeated?
  dsimp only
  rw [Draft.repeat?_within, Option.map_map, Option.map_map]
  rfl

/-- A repetition with bounds does not depend on what is around. -/
theorem counted?_within (s : Surroundings) (r : Draft) (cs : List Char) :
    counted? (r.within s) cs = (counted? r cs).map fun p => (p.1.within s, p.2) := by
  unfold counted?
  have hflags : (r.within s).flags = r.flags := rfl
  rw [hflags]
  cases bounds? r.flags cs with
  | none => rfl
  | some p =>
    dsimp only [Option.bind_eq_bind, Option.bind_some]
    rw [Draft.repeat?_within]
    cases r.repeat? _ _ _ <;> rfl

/-- A sign that does not close the outermost group has nothing to do with it. -/
theorem sign?_within (s : Surroundings) {c : Char} (h : c = ')' → r.outer ≠ []) (cs : List Char) :
    sign? (r.within s) (c :: cs) = (sign? r (c :: cs)).map fun p => (p.1.within s, p.2) := by
  unfold sign?
  dsimp only
  split
  · exact group?_within s r cs
  · rw [Draft.closeGroup?_within s (h rfl), Option.map_map, Option.map_map]
    rfl
  · rfl
  · rw [Option.map_map]
    rfl
  · exact repeated?_within s r _ _ cs
  · exact repeated?_within s r _ _ cs
  · exact repeated?_within s r _ _ cs
  · exact counted?_within s r cs
  · rw [Option.map_map]
    rfl

/-! ## What stands behind -/

theorem skipSpace_of_plain {c : Char} (fl : Flags) (hc : isWhiteSpace c = false) (hc' : c ≠ '#')
    (cs : List Char) : skipSpace fl (c :: cs) = c :: cs := by
  unfold skipSpace
  split
  · rw [skipFree, if_neg Bool.false_ne_true, if_neg (by rw [hc]; exact Bool.false_ne_true),
      if_neg (by simpa using hc')]
  · rfl

/-- A character that is neither blank nor a comment starts a sign. -/
theorem signs?_of_plain {c : Char} (hc : isWhiteSpace c = false) (hc' : c ≠ '#')
    (cs : List Char) :
    signs? (turns + 1) r (c :: cs) = sign? r (c :: cs) >>= fun p => signs? turns p.1 p.2 :=
  signs?_of_sign (skipSpace_of_plain r.flags hc hc' cs)

/-- Where nothing is left, nothing more is read. -/
theorem signs?_nil (h : signs? turns r [] = some d) : d = r := by
  cases turns with
  | zero => cases h
  | succ turns =>
    rw [signs?_of_end (skipSpace_nil r.flags)] at h
    exact (Option.some.inj h).symm

/-- Behind the parenthesis stands the condition for the end of the text. -/
theorem signs?_behind (h : signs? turns r behind = some d) : d = r.add (.look .textEnd) := by
  cases turns with
  | zero => cases h
  | succ turns =>
    have hsign : sign? r behind = some (r.add (.look .textEnd), []) := rfl
    rw [behind, signs?_of_plain (by decide) (by decide), ← behind, hsign] at h
    exact signs?_nil h

/-- What stands behind the parenthesis closes no group. -/
theorem signs?_outer (hrest : rest <:+ behind) (h : signs? turns r rest = some d) :
    d.outer = r.outer := by
  rw [behind, List.suffix_cons_iff, List.suffix_cons_iff] at hrest
  obtain rfl | rfl | hnil := hrest
  · rw [signs?_behind h]
    rfl
  · cases turns with
    | zero => cases h
    | succ turns =>
      have hsign : sign? r ['z'] = some (r.add (.one (r.flags.fold (.char 'z'))), []) := rfl
      rw [signs?_of_plain (by decide) (by decide), hsign] at h
      rw [signs?_nil h]
      rfl
  · obtain rfl := List.suffix_nil.mp hnil
    rw [signs?_nil h]

/-- No repetition has bounds that stand behind the expression. -/
theorem signs?_brace (h : skipSpace r.flags (u ++ closing) = closing) :
    signs? turns r ('\x7b' :: (u ++ closing)) = none := by
  cases turns with
  | zero => rfl
  | succ turns =>
    have hsign : sign? r ('\x7b' :: (u ++ closing)) = none := by
      change counted? r (u ++ closing) = none
      rw [counted?, bounds?, h]
      rfl
    rw [signs?_of_plain (by decide) (by decide), hsign]
    rfl

/-! ## Reading in parentheses -/

/-- The draft of an expression in a group, behind which the text has to end. -/
def Draft.closed (s : Surroundings) (r : Draft) : Draft :=
  { r with
    flags := s.flags
    branches := (s.branches.add (.group s.number r.branches.finish)).add (.look .textEnd)
    outer := [] }

theorem Draft.outer_within_ne_nil (s : Surroundings) (r : Draft) : (r.within s).outer ≠ [] :=
  List.append_ne_nil_of_right_ne_nil r.outer (List.cons_ne_nil s [])

/-- The parenthesis behind an expression closes the outermost group if no other group is open. -/
theorem signs?_closing (s : Surroundings)
    (h : (sign? (r.within s) closing >>= fun p => signs? turns p.1 p.2) = some d)
    (hd : d.outer = []) : r.outer = [] ∧ d = r.closed s := by
  cases hr : r.outer with
  | nil =>
    have hclose : sign? (r.within s) closing
        = some ({ r with
            flags := s.flags
            branches := s.branches.add (.group s.number r.branches.finish)
            outer := [] }, behind) := by
      dsimp only [closing, sign?, Draft.closeGroup?, Draft.within]
      rw [hr]
      rfl
    rw [hclose] at h
    exact ⟨rfl, signs?_behind h⟩
  | cons s' outer =>
    have hopen : r.outer ≠ [] := by
      rw [hr]
      exact List.cons_ne_nil s' outer
    rw [closing, sign?_within s (fun _ => hopen) behind] at h
    obtain ⟨p, hp, h⟩ := Option.bind_eq_some_iff.mp h
    obtain ⟨⟨r', rest⟩, hsign, rfl⟩ := Option.map_eq_some_iff.mp hp
    have hrest := sign?_leaves r ')' behind r' rest hsign
    exact absurd ((signs?_outer hrest h).symm.trans hd) (r'.outer_within_ne_nil s)

/-- An expression in parentheses that does not break out of them is read as it is alone. -/
theorem signs?_within (s : Surroundings) (hu : u.length < turns')
    (h : signs? turns (r.within s) (u ++ closing) = some d) (hd : d.outer = []) :
    BreaksOut r u ∨ ∃ r', signs? turns' r u = some r' ∧ r'.outer = [] ∧ d = r'.closed s := by
  induction turns generalizing turns' r u with
  | zero => cases h
  | succ turns ih =>
    obtain ⟨turns', rfl⟩ : ∃ n, turns' = n + 1 := ⟨turns' - 1, by omega⟩
    have hlength := length_skipSpace_le r.flags u
    obtain hskip | hskip := skipSpace_append_closing r.flags u
    · cases hw : skipSpace r.flags u with
      | nil =>
        have hclosing : skipSpace (r.within s).flags (u ++ closing) = ')' :: behind := by
          rw [hw] at hskip
          exact hskip
        -- The expression ends here, so the parenthesis behind it is read next.
        rw [signs?_of_sign hclosing] at h
        obtain ⟨hr, hd⟩ := signs?_closing s h hd
        exact .inr ⟨r, signs?_of_end hw, hr, hd⟩
      | cons c w =>
        by_cases hc : c = ')' → r.outer ≠ []
        · have hsigns : skipSpace (r.within s).flags (u ++ closing) = c :: (w ++ closing) := by
            rw [hw] at hskip
            exact hskip
          rw [signs?_of_sign hsigns, sign?_within s hc] at h
          obtain ⟨p, hp, h⟩ := Option.bind_eq_some_iff.mp h
          obtain ⟨⟨r', rest⟩, hsign, rfl⟩ := Option.map_eq_some_iff.mp hp
          obtain hagrees | ⟨l, v, hbrace, hv⟩ := sign?_agrees r c w
          · obtain ⟨v, rfl, halone⟩ | hrest := hagrees r' rest hsign
            · have hv := (sign?_leaves r c w r' v halone).length_le
              rw [hw, List.length_cons] at hlength
              have hturns : v.length < turns' := by omega
              obtain hout | ⟨r'', hr'', hclosed⟩ := ih hturns h
              · exact .inl (.later hw halone hout)
              · refine .inr ⟨r'', ?_, hclosed⟩
                rw [signs?_of_sign hw, halone]
                exact hr''
            · -- The sign has passed over the parenthesis, and nothing behind it closes the group.
              exact absurd ((signs?_outer hrest h).symm.trans hd) (r'.outer_within_ne_nil s)
          · obtain ⟨rfl, rfl⟩ := Prod.mk.inj (Option.some.inj (hsign.symm.trans hbrace))
            have hnone : signs? turns ((r.add (.look l)).within s) ('\x7b' :: (v ++ closing))
                = none := signs?_brace hv
            exact nomatch hnone.symm.trans h
        · obtain ⟨rfl, hr⟩ := Classical.not_imp.mp hc
          exact .inl (.here hw (Classical.not_not.mp hr))
    · -- A comment goes on to the end, over the parenthesis: the group stays open.
      have hend : signs? (turns + 1) (r.within s) (u ++ closing) = some (r.within s) :=
        signs?_of_end hskip
      obtain rfl := Option.some.inj (hend.symm.trans h)
      exact absurd hd (r.outer_within_ne_nil s)

/-! ## Expressions for whole texts -/

/-- A draft is finished if no group is open. -/
theorem Draft.finish?_eq_some_iff {p : Pattern} :
    d.finish? = some p ↔ d.outer = [] ∧ d.branches.finish = p := by
  simp only [finish?, List.isEmpty_iff, Option.ite_none_right_eq_some, Option.some.injEq]

/-- What stands around an expression for a whole text. -/
def Surroundings.whole : Surroundings := ⟨Branches.start.add (.look .textStart), {}, none⟩

/-- What stands in front of an expression for a whole text. -/
def opening : List Char := ['\\', 'A', '(', '?', ':']

/-- The signs that stand in front of an expression for a whole text open one group. -/
theorem signs?_opening (turns : Nat) (cs : List Char) :
    signs? (turns + 2) .start (opening ++ cs) = signs? turns (Draft.start.within .whole) cs :=
  rfl

namespace Pattern

/-- A pattern between the conditions for both ends of a text. -/
def anchored (p : Pattern) : Pattern :=
  .sequence [.look .textStart, .group none p, .look .textEnd]

/-- An expression that breaks out is invalid alone. -/
theorem read?_eq_none (h : BreaksOut .start u) : read? u = none := by
  rw [read?, h.signs?_eq_none]
  rfl

/-- An expression that does not break out is valid in parentheses only if it is valid alone. -/
theorem read?_enclosed {q : Pattern} (h : read? (opening ++ (u ++ closing)) = some q)
    (hu : ¬ BreaksOut .start u) : ∃ p, read? u = some p ∧ q = p.anchored := by
  obtain ⟨d, hsigns, hfinish⟩ := Option.bind_eq_some_iff.mp h
  obtain ⟨hd, rfl⟩ := Draft.finish?_eq_some_iff.mp hfinish
  have hlength : (opening ++ (u ++ closing)).length + 1 = u.length + 7 + 2 := by
    simp only [List.length_append, opening, closing, behind, List.length_cons, List.length_nil]
    omega
  rw [hlength, signs?_opening] at hsigns
  obtain hout | ⟨r, hr, houter, rfl⟩ := signs?_within _ (Nat.lt_succ_self _) hsigns hd
  · exact absurd hout hu
  · refine ⟨r.branches.finish, ?_, rfl⟩
    rw [read?, hr]
    exact Draft.finish?_eq_some_iff.mpr ⟨houter, rfl⟩

end Pattern

end JsonPath.Regex
