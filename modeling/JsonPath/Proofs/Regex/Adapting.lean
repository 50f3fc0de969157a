import Mathlib.Data.List.Basic
import JsonPath.Regex.Interoperable

/-!
# Adapted expressions

An interoperable expression is read sign by sign (`signs`): a backslash belongs to the character
behind it, and a bracket opens a class, closes it or stands for itself, depending on where it
stands. Adapting an expression replaces each sign on its own (`Sign.adapted`). The adapted
expression is read as just these replacements, one behind the other (`signs_adapt`), so what is a
pair or closes a class still does so in its place, and adapting an adapted expression changes
nothing. An expression is left as it is if none of its signs has to be replaced (`IsNormal`).
-/

namespace JsonPath.Regex

/-! ## Signs -/

/-- The smallest parts of an interoperable expression. -/
inductive Sign where
  /-- a backslash and the character behind it -/
  | pair (c : Char)
  /-- a backslash at the end -/
  | backslash
  /-- the bracket that opens a class -/
  | opening
  /-- a caret right behind it -/
  | caret
  /-- the bracket that closes a class -/
  | closing
  /-- any other character of a class -/
  | member (c : Char)
  /-- any other character outside of classes -/
  | plain (c : Char)
deriving Repr, DecidableEq

namespace Sign

/-- The characters of a sign. -/
def text : Sign → List Char
  | pair c => ['\\', c]
  | backslash => ['\\']
  | opening => ['[']
  | caret => ['^']
  | closing => [']']
  | member c => [c]
  | plain c => [c]

/-- What takes the place of a sign: a class for the dot, and a pair for a bracket that stands for
itself in a class. -/
def adapted : Sign → List Sign
  | plain '.' => [opening, caret, pair 'n', pair 'r', closing]
  | member '[' => [pair '[']
  | member ']' => [pair ']']
  | s => [s]

end Sign

/-- Where a sign stands. -/
inductive Position where
  | outside
  /-- right behind the bracket that opens a class -/
  | start
  /-- right behind that bracket and a caret -/
  | first
  | inside
deriving Repr, DecidableEq

namespace Position

/-- The place behind a sign that opens and closes no class. -/
def next : Position → Position
  | outside => outside
  | _ => inside

/-- The sign that a character is, unless it is a backslash, and the place behind it. A closing
bracket that is the first member of a class stands for itself. -/
def sign : Position → Char → Sign × Position
  | outside, '[' => (.opening, start)
  | outside, c => (.plain c, outside)
  | start, '^' => (.caret, first)
  | inside, ']' => (.closing, outside)
  | _, c => (.member c, inside)

end Position

/-- The signs of an expression from some place on. -/
def signs (p : Position) : List Char → List Sign
  | [] => []
  | ['\\'] => [.backslash]
  | '\\' :: c :: cs => .pair c :: signs p.next cs
  | c :: cs => (p.sign c).1 :: signs (p.sign c).2 cs

namespace Position

variable {p : Position} {c : Char}

/-- A character is the text of the sign that it is. -/
theorem text_sign (p : Position) (c : Char) : (p.sign c).1.text = [c] := by
  unfold sign
  split <;> rfl

theorem sign_plain (h : c ≠ '[') : outside.sign c = (.plain c, outside) := by
  unfold sign
  split <;> simp_all

/-- A character that has no meaning at its place is a member of the class. -/
theorem sign_member (hp : p ≠ outside) (hcaret : p = start → c ≠ '^')
    (hclosing : p = inside → c ≠ ']') : p.sign c = (.member c, inside) := by
  unfold sign
  split <;> simp_all

theorem sign_inside (h : c ≠ ']') : inside.sign c = (.member c, inside) :=
  sign_member (by decide) nofun fun _ => h

end Position

section

variable {p : Position} {c : Char} {cs : List Char}

/-- A character that is no backslash is a sign by itself, and says where the others stand. -/
theorem signs_cons (p : Position) (h : c ≠ '\\') (cs : List Char) :
    signs p (c :: cs) = (p.sign c).1 :: signs (p.sign c).2 cs := by
  rw [signs]
  · rintro rfl
    exact absurd rfl h
  · rintro _ _ rfl
    exact absurd rfl h

/-- The signs of an expression one by one: it ends, a backslash stands at its end or in front of a
character, or any other character comes first. -/
theorem signs_induction {motive : Position → List Char → Prop}
    (nil : ∀ p, motive p []) (backslash : ∀ p, motive p ['\\'])
    (pair : ∀ p c cs, motive p.next cs → motive p ('\\' :: c :: cs))
    (sign : ∀ p c cs, c ≠ '\\' → motive (p.sign c).2 cs → motive p (c :: cs)) (p : Position)
    (cs : List Char) : motive p cs := by
  fun_induction signs p cs with
  | case1 p => exact nil p
  | case2 p => exact backslash p
  | case3 p c cs ih => exact pair p c cs ih
  | case4 p c cs hend hpair ih =>
    refine sign p c cs (fun hc => ?_) ih
    cases cs with
    | nil => exact hend hc rfl
    | cons d ds => exact hpair d ds hc rfl

/-- No character is lost when an expression is read. -/
theorem text_signs (p : Position) (cs : List Char) : (signs p cs).flatMap Sign.text = cs := by
  induction p, cs using signs_induction with
  | nil p => rfl
  | backslash p => rfl
  | pair p c cs ih => exact congrArg (['\\', c] ++ ·) ih
  | sign p c cs hc ih =>
    rw [signs_cons p hc, List.flatMap_cons, p.text_sign c, ih, List.singleton_append]

/-! ## Replacements -/

/-- A sign that is left as it is. -/
structure Sign.IsNormal (s : Sign) : Prop where
  /-- it is no dot outside of classes -/
  ne_dot : s ≠ .plain '.'
  /-- it is no opening bracket in a class -/
  ne_opening : s ≠ .member '['
  /-- it is no closing bracket that is the first member of a class -/
  ne_closing : s ≠ .member ']'

/-- A normal sign is left as it is. -/
theorem Sign.IsNormal.adapted_eq {s : Sign} (h : s.IsNormal) : s.adapted = [s] := by
  unfold Sign.adapted
  split
  · exact absurd rfl h.ne_dot
  · exact absurd rfl h.ne_opening
  · exact absurd rfl h.ne_closing
  · rfl

/-- What takes the place of a sign is read as such where the sign stands, and leads to the same
place. -/
theorem signs_adapted (p : Position) (h : c ≠ '\\') (cs : List Char) :
    signs p ((p.sign c).1.adapted.flatMap Sign.text ++ cs)
      = (p.sign c).1.adapted ++ signs (p.sign c).2 cs := by
  have htext := p.text_sign c
  by_cases hdot : (p.sign c).1 = .plain '.'
  · rw [hdot] at htext
    obtain rfl : '.' = c := List.singleton_inj.mp htext
    cases p with
    | outside => rfl
    | _ => cases hdot
  by_cases hopening : (p.sign c).1 = .member '['
  · rw [hopening] at htext
    obtain rfl : '[' = c := List.singleton_inj.mp htext
    cases p with
    | outside => cases hopening
    | _ => rfl
  by_cases hclosing : (p.sign c).1 = .member ']'
  · rw [hclosing] at htext
    obtain rfl : ']' = c := List.singleton_inj.mp htext
    cases p with
    | outside | inside => cases hclosing
    | _ => rfl
  have hnormal : (p.sign c).1.IsNormal := ⟨hdot, hopening, hclosing⟩
  rw [hnormal.adapted_eq, List.flatMap_singleton, htext]
  exact signs_cons p h cs

/-- The signs that take the place of an expression. -/
def adaptedSigns (p : Position) (cs : List Char) : List Sign := (signs p cs).flatMap Sign.adapted

theorem adaptedSigns_cons (p : Position) (h : c ≠ '\\') (cs : List Char) :
    adaptedSigns p (c :: cs) = (p.sign c).1.adapted ++ adaptedSigns (p.sign c).2 cs := by
  rw [adaptedSigns, signs_cons p h, List.flatMap_cons]
  rfl

/-- What takes the place of an expression is read as such. -/
theorem signs_text_adaptedSigns (p : Position) (cs : List Char) :
    signs p ((adaptedSigns p cs).flatMap Sign.text) = adaptedSigns p cs := by
  induction p, cs using signs_induction with
  | nil p => rfl
  | backslash p => rfl
  | pair p c cs ih => exact congrArg (Sign.pair c :: ·) ih
  | sign p c cs hc ih =>
    rw [adaptedSigns_cons p hc, List.flatMap_append, signs_adapted p hc, ih]

/-- Behind the start of a class, all signs are read as they are inside, unless a caret or a closing
bracket comes first. -/
theorem signs_eq_inside (hp : p ≠ .outside) (hcaret : p = .start → ∀ rest, cs ≠ '^' :: rest)
    (hclosing : ∀ rest, cs ≠ ']' :: rest) : signs p cs = signs .inside cs := by
  have hnext : p.next = .inside := by
    cases p with
    | outside => exact absurd rfl hp
    | _ => rfl
  cases cs with
  | nil => rfl
  | cons c cs =>
    by_cases hc : c = '\\'
    · subst hc
      cases cs with
      | nil => rfl
      | cons d ds => rw [signs, signs, hnext]; rfl
    · have hclosing : c ≠ ']' := fun h => hclosing cs (congrArg (· :: cs) h)
      rw [signs_cons p hc, signs_cons .inside hc,
        Position.sign_member hp (fun h h' => hcaret h cs (congrArg (· :: cs) h'))
          (fun _ => hclosing), Position.sign_inside hclosing]

/-! ## Adapting -/

/-- Where a sign stands when it is known whether it stands in a class, but not at its start. -/
def Position.of (inClass : Bool) : Position := if inClass then .inside else .outside

/-- Adapting an expression replaces its signs. -/
theorem adaptFrom_eq (inClass : Bool) (cs : List Char) :
    adaptFrom inClass cs = (adaptedSigns (.of inClass) cs).flatMap Sign.text := by
  fun_induction adaptFrom inClass cs with
  -- The cases are those of the equations: the end, a lone backslash and an escape come first.
  | case1 inClass => cases inClass <;> rfl
  | case2 inClass => cases inClass <;> rfl
  | case3 inClass c cs ih =>
    rw [ih]
    cases inClass <;> rfl
  -- An opening bracket inside of a class, and four ways to open one.
  | case4 cs ih =>
    rw [ih]
    rfl
  | case5 inClass h cs ih =>
    obtain rfl := Bool.eq_false_iff.mpr h
    rw [ih]
    rfl
  | case6 inClass h cs hclosing ih =>
    obtain rfl := Bool.eq_false_iff.mpr h
    rw [ih]
    have hfirst : signs .first cs = signs .inside cs :=
      signs_eq_inside (by decide) nofun hclosing
    exact congrArg (fun ss => '[' :: '^' :: (ss.flatMap Sign.adapted).flatMap Sign.text) hfirst.symm
  | case7 inClass h cs ih =>
    obtain rfl := Bool.eq_false_iff.mpr h
    rw [ih]
    rfl
  | case8 inClass h cs _ hcaret hclosing ih =>
    obtain rfl := Bool.eq_false_iff.mpr h
    rw [ih]
    have hstart : signs .start cs = signs .inside cs :=
      signs_eq_inside (by decide) (fun _ => hcaret) hclosing
    exact congrArg (fun ss => '[' :: (ss.flatMap Sign.adapted).flatMap Sign.text) hstart.symm
  -- A closing bracket, a dot at either place, and all other characters.
  | case9 inClass cs ih =>
    rw [ih]
    cases inClass <;> rfl
  | case10 cs ih =>
    rw [ih]
    rfl
  | case11 inClass cs h ih =>
    obtain rfl := Bool.eq_false_iff.mpr h
    rw [ih]
    rfl
  | case12 inClass c cs hend hpair hopening hclosing hdot ih =>
    have hc : c ≠ '\\' := by
      rintro rfl
      cases cs with
      | nil => exact hend rfl rfl
      | cons d ds => exact hpair d ds rfl rfl
    rw [ih, adaptedSigns_cons _ hc]
    cases inClass with
    | false =>
      have hnormal : (Sign.plain c).IsNormal := ⟨fun h => hdot (Sign.plain.inj h), nofun, nofun⟩
      rw [Position.of, if_neg Bool.false_ne_true, Position.sign_plain hopening, hnormal.adapted_eq]
      rfl
    | true =>
      have hnormal : (Sign.member c).IsNormal :=
        ⟨nofun, fun h => hopening (Sign.member.inj h), fun h => hclosing (Sign.member.inj h)⟩
      rw [Position.of, if_pos rfl, Position.sign_inside hclosing, hnormal.adapted_eq]
      rfl

/-! ## Normal expressions -/

theorem Sign.isNormal_of_mem_adapted {s t : Sign} (h : t ∈ s.adapted) : t.IsNormal := by
  unfold Sign.adapted at h
  split at h
  · simp only [List.mem_cons, List.not_mem_nil, or_false] at h
    obtain rfl | rfl | rfl | rfl | rfl := h <;> exact ⟨nofun, nofun, nofun⟩
  · obtain rfl := List.mem_singleton.mp h
    exact ⟨nofun, nofun, nofun⟩
  · obtain rfl := List.mem_singleton.mp h
    exact ⟨nofun, nofun, nofun⟩
  · next hdot hopening hclosing =>
    obtain rfl := List.mem_singleton.mp h
    exact ⟨hdot, hopening, hclosing⟩

/-- All signs of what is adapted are normal. -/
theorem isNormal_of_mem_adaptedSigns {s : Sign} (h : s ∈ adaptedSigns p cs) : s.IsNormal :=
  have ⟨_, _, hs⟩ := List.mem_flatMap.mp h
  Sign.isNormal_of_mem_adapted hs

/-- If no sign has to be replaced, none is. -/
theorem adaptedSigns_eq_signs (h : ∀ s ∈ signs p cs, s.IsNormal) :
    adaptedSigns p cs = signs p cs := by
  rw [adaptedSigns, List.flatMap_congr fun s hs => (h s hs).adapted_eq]
  exact List.flatMap_singleton' _

end

/-- The adapted expression is read as the replacements of the signs. -/
theorem signs_adapt (pattern : String) :
    signs .outside (adapt pattern).toList = adaptedSigns .outside pattern.toList := by
  rw [adapt, String.toList_ofList, adaptFrom_eq]
  exact signs_text_adaptedSigns .outside _

/-- An expression of normal signs is left as it is. -/
theorem adapt_of_isNormal {pattern : String}
    (h : ∀ s ∈ signs .outside pattern.toList, s.IsNormal) : adapt pattern = pattern := by
  have htext := adaptFrom_eq false pattern.toList
  rw [Position.of, if_neg Bool.false_ne_true, adaptedSigns_eq_signs h, text_signs] at htext
  rw [adapt, htext, String.ofList_toList]

/-- **Normal forms.** Adapting normalizes expressions: doing it twice is doing it once, and an
expression is left as it is if all its signs are normal. A pair stays a pair, and a bracket that
closes a class closes one in the adapted expression, behind what takes the place of the signs in
front of it. -/
theorem adapt_normalizes (pattern : String) :
    adapt (adapt pattern) = adapt pattern ∧
      (adapt pattern = pattern ↔ ∀ s ∈ signs .outside pattern.toList, s.IsNormal) ∧
      ∀ before s behind, signs .outside pattern.toList = before ++ s :: behind →
        (∃ c, s = .pair c) ∨ s = .closing →
        signs .outside (adapt pattern).toList
          = before.flatMap Sign.adapted ++ s :: behind.flatMap Sign.adapted := by
  have hnormal : ∀ s ∈ signs .outside (adapt pattern).toList, s.IsNormal := by
    rw [signs_adapt]
    exact fun s => isNormal_of_mem_adaptedSigns
  refine ⟨adapt_of_isNormal hnormal, ⟨fun h => ?_, adapt_of_isNormal⟩, ?_⟩
  · rwa [h] at hnormal
  · intro before s behind hsigns hs
    have hsame : s.adapted = [s] := by
      obtain ⟨c, rfl⟩ | rfl := hs <;> rfl
    rw [signs_adapt, adaptedSigns, hsigns, List.flatMap_append, List.flatMap_cons, hsame]
    rfl

/-- The first bracket behind the opening one does not close the class, in front of the adapted one
stands a backslash, and the bracket that closes the class still does. -/
theorem adapt_normalizes_first :
    signs .outside "[]a].".toList
        = [.opening, .member ']', .member 'a'] ++ .closing :: [.plain '.'] ∧
      signs .outside (adapt "[]a].").toList
        = [.opening, .pair ']', .member 'a'] ++ .closing ::
          [.opening, .caret, .pair 'n', .pair 'r', .closing] :=
  have hsigns : signs .outside "[]a].".toList
      = [.opening, .member ']', .member 'a'] ++ .closing :: [.plain '.'] := by decide
  ⟨hsigns, (adapt_normalizes "[]a].").2.2 _ _ _ hsigns (.inr rfl)⟩

end JsonPath.Regex
