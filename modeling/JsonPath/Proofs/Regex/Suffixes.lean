import Mathlib.Data.List.TakeDrop
import JsonPath.Regex.Parser

/-!
# What readers leave

Every reader of a regular expression takes characters from the front and leaves the others: what is
left is the end of what was there (`Leaves`).
-/

namespace JsonPath.Regex

open JsonPath.Text

variable {α β : Type} {fl : Flags} {cs ds rest : List Char}

/-! ## Readers -/

/-- What is left, if there is a result, is the end of what was there. -/
def Leaves (a : Option (α × List Char)) (cs : List Char) : Prop :=
  ∀ x rest, a = some (x, rest) → rest <:+ cs

namespace Leaves

theorem none : Leaves (none : Option (α × List Char)) cs := nofun

theorem some {x : α} (h : rest <:+ cs) : Leaves (some (x, rest)) cs := by
  intro y rest' heq
  obtain ⟨-, rfl⟩ := Prod.mk.inj (Option.some.inj heq)
  exact h

/-- What leaves an end of an end leaves an end of the whole. -/
theorem mono {a : Option (α × List Char)} (ha : Leaves a ds) (h : ds <:+ cs) : Leaves a cs :=
  fun x rest heq => (ha x rest heq).trans h

/-- A reader in front of another one. -/
theorem bind {a : Option (α × List Char)} {f : α × List Char → Option (β × List Char)}
    (ha : Leaves a cs) (hf : ∀ x rest, rest <:+ cs → Leaves (f (x, rest)) cs) :
    Leaves (a >>= f) cs := by
  intro y rest heq
  obtain ⟨⟨x, rest'⟩, hx, hy⟩ := Option.bind_eq_some_iff.mp heq
  exact hf x rest' (ha x rest' hx) y rest hy

/-- What takes no characters in front of a reader. -/
theorem bind_value {a : Option α} {f : α → Option (β × List Char)} (hf : ∀ x, Leaves (f x) cs) :
    Leaves (a >>= f) cs := by
  intro y rest heq
  obtain ⟨x, -, hy⟩ := Option.bind_eq_some_iff.mp heq
  exact hf x y rest hy

/-- To change the value that was read leaves the same characters. -/
theorem map {a : Option (α × List Char)} {f : α × List Char → β × List Char} (ha : Leaves a cs)
    (hf : ∀ p, (f p).2 = p.2) : Leaves (a.map f) cs := by
  intro y rest heq
  obtain ⟨p, hp, hy⟩ := Option.map_eq_some_iff.mp heq
  have hrest : p.2 = rest := (hf p).symm.trans (congrArg Prod.snd hy)
  exact hrest ▸ ha p.1 p.2 hp

theorem map_value {a : Option α} {f : α → β × List Char} (hf : ∀ x, (f x).2 <:+ cs) :
    Leaves (a.map f) cs := by
  intro y rest heq
  obtain ⟨x, -, hy⟩ := Option.map_eq_some_iff.mp heq
  have hrest : (f x).2 = rest := congrArg Prod.snd hy
  exact hrest ▸ hf x

theorem ite {p : Prop} [Decidable p] {a b : Option (α × List Char)} (ha : Leaves a cs)
    (hb : Leaves b cs) : Leaves (if p then a else b) cs := by
  split
  · exact ha
  · exact hb

end Leaves

/-! ## Free spacing -/

/-- Free spacing drops blanks and comments from the front. -/
theorem skipFree_suffix (inComment : Bool) (cs : List Char) : skipFree inComment cs <:+ cs := by
  induction cs generalizing inComment with
  | nil => exact List.suffix_rfl
  | cons c cs ih =>
    rw [skipFree]
    split
    · exact (ih _).trans (List.suffix_cons c cs)
    · split
      · exact (ih _).trans (List.suffix_cons c cs)
      · split
        · exact (ih _).trans (List.suffix_cons c cs)
        · exact List.suffix_rfl

theorem skipSpace_suffix (fl : Flags) (cs : List Char) : skipSpace fl cs <:+ cs := by
  rw [skipSpace]
  split
  · exact skipFree_suffix false cs
  · exact List.suffix_rfl

/-- What free spacing leaves behind a character is left behind that and more. -/
theorem skipSpace_suffix_cons (fl : Flags) (c : Char) (cs : List Char) :
    skipSpace fl cs <:+ c :: cs :=
  (skipSpace_suffix fl cs).trans (List.suffix_cons c cs)

/-- What stands behind the first character that free spacing leaves. -/
theorem suffix_of_skipSpace_eq {c : Char} (h : skipSpace fl cs = c :: rest) : rest <:+ cs :=
  (List.suffix_cons c rest).trans (h ▸ skipSpace_suffix fl cs)

/-- What follows the characters that satisfy `p`, and the blanks between them. -/
theorem takeSpaced_suffix (p : Char → Bool) (turns : Nat) (cs : List Char) :
    (takeSpaced fl p turns cs).2 <:+ cs := by
  -- Each turn drops a character and the blanks behind it, so the characters are arbitrary.
  induction turns generalizing cs with
  | zero => cases cs <;> exact List.suffix_rfl
  | succ turns ih =>
    cases cs with
    | nil => exact List.suffix_rfl
    | cons c cs =>
      rw [takeSpaced]
      split
      · exact (ih _).trans (skipSpace_suffix_cons fl c cs)
      · exact List.suffix_rfl

/-! ## Escapes -/

/-- Hexadecimal digits, as many as are asked for. -/
theorem hexDigits?_leaves (count value : Nat) (cs : List Char) :
    Leaves (hexDigits? fl count value cs) cs := by
  induction count generalizing value cs with
  | zero => exact .some List.suffix_rfl
  | succ count ih =>
    cases cs with
    | nil => exact .none
    | cons c cs => exact .bind_value fun d => (ih _ _).mono (skipSpace_suffix_cons fl c cs)

/-- Hexadecimal digits in braces leave an end of what is given. -/
theorem hexInBraces?_leaves (turns : Nat) (value : Option Nat) (cs : List Char) :
    Leaves (hexInBraces? fl turns value cs) cs := by
  induction turns generalizing value cs with
  | zero => exact .none
  | succ turns ih =>
    cases cs with
    | nil => exact .none
    | cons c cs =>
      rw [hexInBraces?]
      split
      · exact .map_value fun _ => skipSpace_suffix_cons fl c cs
      · exact .bind_value fun d => (ih _ _).mono (skipSpace_suffix_cons fl c cs)

/-- A code point by its number, in braces or not. -/
theorem codePoint?_leaves (count : Nat) (cs : List Char) : Leaves (codePoint? fl count cs) cs := by
  rw [codePoint?]
  split
  · next inner hs =>
    have hinner := (skipSpace_suffix fl inner).trans (suffix_of_skipSpace_eq hs)
    exact .bind ((hexInBraces?_leaves _ _ _).mono hinner) fun _ _ hrest => .ite (.some hrest) .none
  · exact .bind ((hexDigits?_leaves _ _ _).mono (skipSpace_suffix fl cs)) fun _ _ hrest =>
      .ite (.some hrest) .none

theorem nameInBraces?_leaves (turns : Nat) (cs : List Char) :
    Leaves (nameInBraces? fl turns cs) cs := by
  induction turns generalizing cs with
  | zero => exact .none
  | succ turns ih =>
    cases cs with
    | nil => exact .none
    | cons c cs =>
      rw [nameInBraces?]
      split
      · exact .some (List.suffix_cons c cs)
      · exact .bind ((ih _).mono (skipSpace_suffix_cons fl c cs)) fun _ _ hrest => .some hrest

/-- The text of a property is one letter or stands in braces. -/
theorem propertyText?_leaves (cs : List Char) : Leaves (propertyText? fl cs) cs := by
  rw [propertyText?]
  split
  · exact .none
  · next c rest hs =>
    have hrest := (skipSpace_suffix fl rest).trans (suffix_of_skipSpace_eq hs)
    split
    · exact (nameInBraces?_leaves _ _).mono hrest
    · exact .none
    · exact .some hrest

theorem propertyClass?_leaves (negated : Bool) (cs : List Char) :
    Leaves (propertyClass? fl negated cs) cs := by
  rw [propertyClass?]
  exact .bind (propertyText?_leaves cs) fun _ _ hrest =>
    .ite .none (.bind_value fun _ => .some hrest)

theorem namedBoundary?_leaves (cs : List Char) : Leaves (namedBoundary? fl cs) cs := by
  rw [namedBoundary?]
  split
  · next name rest hname =>
    have hcs : (takeSpaced fl isBoundaryChar cs.length cs).2 <:+ cs := takeSpaced_suffix _ _ _
    rw [hname] at hcs
    exact .map_value fun _ => (List.suffix_cons _ rest).trans hcs
  · exact .none

/-- A boundary of words: braces behind it that hold no name are left for a repetition. -/
theorem boundary?_leaves (cs : List Char) : Leaves (boundary? fl cs) cs := by
  unfold boundary?
  dsimp only
  split
  · next rest =>
    split
    · exact .none
    · next c more hs =>
      split
      · exact (namedBoundary?_leaves _).mono (hs ▸ skipSpace_suffix_cons fl _ rest)
      · exact .some List.suffix_rfl
  · exact .some List.suffix_rfl

/-- An escape takes at least the character behind the backslash. -/
theorem escape?_leaves (cs : List Char) : Leaves (escape? fl cs) cs := by
  cases cs with
  | nil => exact .none
  | cons c cs =>
    have hcs : cs <:+ c :: cs := List.suffix_cons c cs
    unfold escape?
    dsimp only
    split
    · exact (codePoint?_leaves 2 cs).mono hcs
    · exact (codePoint?_leaves 4 cs).mono hcs
    · exact (codePoint?_leaves 8 cs).mono hcs
    · exact (propertyClass?_leaves false cs).mono hcs
    · exact (propertyClass?_leaves true cs).mono hcs
    · exact .some hcs
    · exact .some hcs
    · exact (boundary?_leaves cs).mono hcs
    · exact .some hcs
    · exact .some hcs
    · exact .some hcs
    · split
      · exact .map_value fun _ => hcs
      · split
        · exact .some hcs
        · exact .map_value fun _ => hcs

/-! ## Classes in brackets -/

/-- An item of a class takes at least one character. -/
theorem item?_cons_leaves (c : Char) (cs : List Char) : Leaves (item? fl (c :: cs)) cs := by
  rw [item?]
  split
  · exact escape?_leaves cs
  · exact .some List.suffix_rfl

theorem item?_leaves (cs : List Char) : Leaves (item? fl cs) cs := by
  cases cs with
  | nil => exact .none
  | cons c cs => exact (item?_cons_leaves c cs).mono (List.suffix_cons c cs)

theorem rangeTo?_leaves (first : Element) (cs : List Char) :
    Leaves (rangeTo? fl first cs) cs := by
  refine .bind ((item?_leaves _).mono (skipSpace_suffix fl cs)) fun last rest hrest => ?_
  exact .bind_value fun low => .bind_value fun high => .bind_value fun _ =>
    .bind_value fun _ => .ite (.some hrest) .none

/-- A hyphen is taken only if the upper end of a range follows it. -/
theorem rangeFrom?_leaves (first : Element) (cs : List Char) :
    Leaves (rangeFrom? fl first cs) cs := by
  rw [rangeFrom?]
  split
  · exact .none
  · next c rest hs =>
    split
    · exact (rangeTo?_leaves first rest).mono (suffix_of_skipSpace_eq hs)
    · exact .map_value fun _ => hs ▸ skipSpace_suffix fl cs

/-- A range, or an item that stands alone, takes at least one character. -/
theorem rangeOrItem?_leaves (c : Char) (cs : List Char) :
    Leaves (rangeOrItem? fl (c :: cs)) cs :=
  .bind (item?_cons_leaves c cs) fun first _ hrest => (rangeFrom?_leaves first _).mono hrest

theorem latinName?_leaves (cs : List Char) : Leaves (latinName? cs) cs := by
  induction cs with
  | nil => exact .none
  | cons c cs ih =>
    rw [latinName?]
    split
    · refine .bind_value fun d => ?_
      split
      · exact .some ((List.tail_suffix cs).trans (List.suffix_cons c cs))
      · exact .none
    · exact (ih.mono (List.suffix_cons c cs)).map fun _ => rfl

theorem latinClass?_leaves (cs : List Char) : Leaves (latinClass? fl cs) cs := by
  cases cs with
  | nil => exact .none
  | cons c cs =>
    rw [latinClass?]
    split
    · have hname : Leaves (latinName? (if cs.head? == some '^' then cs.tail else cs)) cs := by
        split
        · exact (latinName?_leaves _).mono (List.tail_suffix cs)
        · exact latinName?_leaves cs
      exact .bind (hname.mono (List.suffix_cons c cs)) fun name rest hrest =>
        .bind_value fun s => .some hrest
    · exact .none

/-- What follows the hyphens at the start of a class. -/
theorem hyphens_suffix (turns : Nat) (items : List Part) (cs : List Char) :
    (hyphens fl turns items cs).2 <:+ cs := by
  induction turns generalizing items cs with
  | zero => cases cs <;> exact List.suffix_rfl
  | succ turns ih =>
    cases cs with
    | nil => exact List.suffix_rfl
    | cons c cs =>
      rw [hyphens]
      split
      · exact (ih _ _).trans (skipSpace_suffix_cons fl c cs)
      · exact List.suffix_rfl

theorem caret_suffix (fl : Flags) (cs : List Char) : (caret fl cs).2 <:+ cs := by
  rw [caret]
  split
  · next rest hs => exact (skipSpace_suffix fl rest).trans (suffix_of_skipSpace_eq hs)
  · exact skipSpace_suffix fl cs

/-- A closing bracket is taken if it is the first item. -/
theorem firstItem?_leaves (negated : Bool) (items : List Part) (cs : List Char) :
    Leaves (firstItem? fl negated items cs) cs := by
  cases cs with
  | nil => exact .none
  | cons c cs =>
    rw [firstItem?]
    split
    · split
      · exact .none
      · exact .some (skipSpace_suffix_cons fl c cs)
    · exact .some List.suffix_rfl

/-- The start of a class: a caret, hyphens and a first closing bracket. -/
theorem openClass?_leaves (cs : List Char) : Leaves (openClass? fl cs) cs :=
  (firstItem?_leaves _ _ _).mono ((hyphens_suffix _ _ _).trans (caret_suffix fl cs))

/-- An operator between lists takes two characters. -/
theorem operator?_leaves (c : Char) (cs : List Char) : Leaves (operator? (c :: cs)) cs := by
  cases cs with
  | nil => exact .none
  | cons d cs =>
    rw [operator?]
    split
    · exact .map_value fun _ => List.suffix_cons d cs
    · exact .none

/-- A class ends behind a closing bracket. -/
theorem class?_suffix {turns : Nat} {level : Level} {outer : List Level} {p : Part}
    (h : class? fl turns level outer cs = some (p, rest)) : ']' :: rest <:+ cs := by
  -- A closing bracket goes on with the class around, so the induction is for every level.
  induction turns generalizing level outer cs with
  | zero => cases h
  | succ turns ih =>
    unfold class? at h
    split at h
    · cases h
    · next c cs' hs =>
      have hcs : c :: cs' <:+ cs := hs ▸ skipSpace_suffix fl cs
      have hcs' : cs' <:+ cs := (List.suffix_cons c cs').trans hcs
      split at h
      · obtain ⟨q, -, h⟩ := Option.bind_eq_some_iff.mp h
        cases outer with
        | nil =>
          obtain ⟨-, rfl⟩ := Prod.mk.inj (Option.some.inj h)
          exact hcs
        | cons l ls => exact (ih h).trans hcs'
      · split at h
        · next q rest' hlatin =>
          obtain ⟨q, -, h⟩ := Option.bind_eq_some_iff.mp h
          exact (ih h).trans ((latinClass?_leaves _ _ _ hlatin).trans hcs')
        · obtain ⟨⟨l, rest'⟩, hopen, h⟩ := Option.bind_eq_some_iff.mp h
          exact (ih h).trans ((openClass?_leaves _ _ _ hopen).trans hcs')
      · split at h
        · next op rest' hop => exact (ih h).trans ((operator?_leaves _ _ _ _ hop).trans hcs')
        · obtain ⟨⟨q, rest'⟩, hitem, h⟩ := Option.bind_eq_some_iff.mp h
          exact (ih h).trans ((rangeOrItem?_leaves _ _ _ _ hitem).trans hcs')

theorem bracket?_leaves (cs : List Char) : Leaves (bracket? fl cs) cs := by
  rw [bracket?]
  refine .bind (openClass?_leaves cs) fun level rest hrest => ?_
  refine .bind (fun p rest' h => ?_) fun _ _ hrest' => .some hrest'
  exact ((List.suffix_cons _ rest').trans (class?_suffix h)).trans hrest

/-! ## Groups -/

/-- Flags, up to a colon or a closing parenthesis. -/
theorem readFlags?_leaves (fl : Flags) (seen cs : List Char) :
    Leaves (readFlags? fl seen cs) cs := by
  induction cs generalizing fl seen with
  | nil => exact .none
  | cons c cs ih =>
    have hcs : cs <:+ c :: cs := List.suffix_cons c cs
    unfold readFlags?
    split
    · split
      · exact .none
      · exact .some hcs
    · split
      · exact .none
      · exact .some hcs
    · split
      · exact .none
      · split
        · exact (ih _ _).mono hcs
        · exact .bind_value fun fl' => (ih _ _).mono hcs

/-- The name of a group, up to an angle bracket. -/
theorem upToAngle?_leaves (cs : List Char) : Leaves (upToAngle? cs) cs := by
  induction cs with
  | nil => exact .none
  | cons c cs ih =>
    rw [upToAngle?]
    split
    · exact .some (List.suffix_cons c cs)
    · exact (ih.mono (List.suffix_cons c cs)).map fun _ => rfl

theorem groupName?_leaves (cs : List Char) : Leaves (groupName? cs) cs :=
  .bind (upToAngle?_leaves cs) fun _ _ hrest => .ite (.some hrest) .none

theorem namedGroup?_leaves (r : Draft) (cs : List Char) : Leaves (namedGroup? r cs) cs :=
  .bind (groupName?_leaves cs) fun _ _ hrest => .ite .none (.some hrest)

theorem flagGroup?_leaves (r : Draft) (cs : List Char) : Leaves (flagGroup? r cs) cs :=
  .bind (readFlags?_leaves _ _ cs) fun _ _ hrest => .some hrest

/-- What stands behind the question mark of a group: its name or its flags. -/
theorem specialGroup?_leaves (r : Draft) (cs : List Char) : Leaves (specialGroup? r cs) cs := by
  cases cs with
  | nil => exact .none
  | cons c cs =>
    have hcs : cs <:+ c :: cs := List.suffix_cons c cs
    unfold specialGroup?
    dsimp only
    split
    · exact .none
    · exact .none
    · split
      · exact .none
      · exact (namedGroup?_leaves r cs).mono hcs
    · split
      · exact (namedGroup?_leaves r cs.tail).mono ((List.tail_suffix cs).trans hcs)
      · exact flagGroup?_leaves r _

theorem group?_leaves (r : Draft) (cs : List Char) : Leaves (group? r cs) cs := by
  rw [group?]
  split
  · next rest hs => exact (specialGroup?_leaves r rest).mono (suffix_of_skipSpace_eq hs)
  · exact .some (skipSpace_suffix _ cs)

/-! ## Repetitions -/

/-- A number of repetitions, with blanks around it. -/
theorem count?_leaves (cs : List Char) : Leaves (count? fl cs) cs := by
  rw [count?]
  exact .ite .none (.some ((takeSpaced_suffix _ _ _).trans
    ((takeSpaced_suffix _ _ _).trans (List.dropWhile_suffix _))))

/-- The upper bound of a repetition, which may be missing with its comma or without. -/
theorem upper?_leaves (least : Nat) (cs : List Char) : Leaves (upper? fl least cs) cs := by
  unfold upper?
  split
  · next rest =>
    split
    · next rest' hs => exact .some (hs ▸ skipSpace_suffix_cons fl _ rest)
    · exact ((count?_leaves _).mono (skipSpace_suffix_cons fl _ rest)).map fun _ => rfl
  · exact .some List.suffix_rfl

theorem close?_leaves (least : Nat) (most : Option Nat) (cs : List Char) :
    Leaves (close? least most cs) cs := by
  unfold close?
  split
  · split
    · exact .some (List.suffix_cons _ _)
    · exact .none
  · exact .none

theorem bounds?_leaves (cs : List Char) : Leaves (bounds? fl cs) cs :=
  .bind ((count?_leaves _).mono (skipSpace_suffix fl cs)) fun least _ hrest =>
    .bind ((upper?_leaves least _).mono hrest) fun most _ hrest =>
      (close?_leaves least most _).mono hrest

theorem mark_suffix (cs : List Char) : (mark cs).2 <:+ cs := by
  unfold mark
  split
  · exact List.suffix_cons _ _
  · exact List.suffix_rfl

/-! ## Signs -/

/-- An element takes at least one character. -/
theorem element?_leaves (c : Char) (cs : List Char) : Leaves (element? fl (c :: cs)) cs := by
  unfold element?
  dsimp only
  split
  · exact .bind (escape?_leaves cs) fun _ _ hrest => .bind_value fun _ => .some hrest
  · exact .map_value fun _ => List.suffix_rfl
  · exact .some List.suffix_rfl
  · exact .some List.suffix_rfl
  · exact .map_value fun _ => List.suffix_rfl

theorem repeated?_leaves (r : Draft) (least : Nat) (most : Option Nat) (cs : List Char) :
    Leaves (repeated? r least most cs) cs :=
  .map_value fun _ => mark_suffix cs

/-- A repetition with bounds, and the mark behind it. -/
theorem counted?_leaves (r : Draft) (cs : List Char) : Leaves (counted? r cs) cs :=
  .bind (bounds?_leaves cs) fun _ rest hrest => .bind_value fun _ =>
    .some ((mark_suffix _).trans ((skipSpace_suffix _ rest).trans hrest))

/-- A sign takes at least one character. -/
theorem sign?_leaves (r : Draft) (c : Char) (cs : List Char) : Leaves (sign? r (c :: cs)) cs := by
  unfold sign?
  dsimp only
  split
  · exact group?_leaves r cs
  · exact .map_value fun _ => List.suffix_rfl
  · exact .some List.suffix_rfl
  · exact (bracket?_leaves cs).map fun _ => rfl
  · exact repeated?_leaves r _ _ cs
  · exact repeated?_leaves r _ _ cs
  · exact repeated?_leaves r _ _ cs
  · exact counted?_leaves r cs
  · exact (element?_leaves c cs).map fun _ => rfl

end JsonPath.Regex
