import Mathlib.Data.List.Infix
import JsonPath.Proofs.Regex.Adapting
import JsonPath.Proofs.Regex.Anchoring
import JsonPath.Proofs.Regex.Fitting

/-!
# Classes of ordinary characters

In a class of an interoperable expression, only a few characters have a meaning. All others are
ordinary (`IsOrdinary`) and are listed as they are, in any order and however often. The engine
behind it reads more into them: an ampersand or a tilde that is written twice is an operator between
lists. A class of ordinary characters is therefore a chain of `Lists`.

`match` answers for each character whether it belongs to what these lists stand for, unless the
class is too large (`Registry.match_class`). A class without doubled signs is a single list, and
then this is what is meant (`IsSimple`). With doubled signs it usually is not:
`Registry.match_class_intersection`.
-/

namespace JsonPath.Regex

open JsonPath.Unicode

variable {c d : Char} {cs rest : List Char} {fl : Flags} {level : Level}

/-! ## What a class lists -/

/-- A character that stands for itself in a class of an interoperable expression. -/
structure IsOrdinary (c : Char) : Prop where
  backslash : c ≠ '\\'
  opening : c ≠ '['
  closing : c ≠ ']'
  hyphen : c ≠ '-'
  caret : c ≠ '^'

/-- Whether a character belongs to what two lists with an operator between them stand for, if it is
known of either whether it belongs to it. -/
def SetOperator.holds : SetOperator → Bool → Bool → Bool
  | intersection, left, right => left && right
  | difference, left, right => left && !right
  | symmetricDifference, left, right => left ^^ right

/-- A list of characters and further ones, each behind an operator. -/
structure Lists where
  first : List Char
  more : List (SetOperator × List Char)

namespace Lists

/-- One more character in front. -/
def cons (c : Char) (l : Lists) : Lists := ⟨c :: l.first, l.more⟩

/-- An operator in front. -/
def behind (op : SetOperator) (l : Lists) : Lists := ⟨[], (op, l.first) :: l.more⟩

/-- The lists of a class. A sign that is written twice is an operator. -/
def of : List Char → Lists
  | [] => ⟨[], []⟩
  | [c] => ⟨[c], []⟩
  | c :: d :: cs =>
    match if c = d then SetOperator.ofSign? c else none with
    | some op => (of cs).behind op
    | none => (of (d :: cs)).cons c

/-- Whether a character belongs to what the lists stand for. The operators group to the left. -/
def holds (l : Lists) (c : Char) : Bool :=
  l.more.foldl (fun b p => p.1.holds b (p.2.contains c)) (l.first.contains c)

end Lists

/-! ## Reading -/

namespace Level

/-- The level with more characters. -/
def addAll (l : Level) (cs : List Char) : Level := cs.foldl (fun l c => l.add (.leaf (.char c))) l

/-- The level behind lists of characters. -/
def read (l : Level) (ls : Lists) : Level :=
  ls.more.foldl (fun l p => (l.operator {} p.1).addAll p.2) (l.addAll ls.first)

end Level

namespace Level

/-- Characters are added in front, so the last one stands first. -/
theorem addAll_eq (l : Level) (cs : List Char) :
    l.addAll cs = { l with items := (cs.map fun c => .leaf (.char c)).reverse ++ l.items } := by
  induction cs generalizing l with
  | nil => rfl
  | cons c cs ih =>
    have hmore := ih (l.add (.leaf (.char c)))
    rw [List.map_cons, List.reverse_cons, List.append_assoc]
    exact hmore

/-- To read lists does not turn a class into its complement. -/
theorem negated_read (l : Level) (ls : Lists) : (l.read ls).negated = l.negated := by
  obtain ⟨first, more⟩ := ls
  have hmore : ∀ l' : Level,
      (more.foldl (fun l p => (l.operator {} p.1).addAll p.2) l').negated = l'.negated := by
    induction more with
    | nil => exact fun _ => rfl
    | cons p more ih =>
      intro l'
      rw [List.foldl_cons, ih, addAll_eq]
      rfl
  rw [read, hmore, addAll_eq]

theorem close?_of_negated (h : level.negated = false) :
    level.close? {} = some (level.whole {}) := by
  rw [close?, h]
  rfl

end Level

theorem rangeOrItem?_ordinary (hc : c ≠ '\\') (hd : d ≠ '-') :
    rangeOrItem? {} (c :: d :: rest) = some (.leaf (.char c), d :: rest) := by
  have hitem : item? {} (c :: d :: rest) = some (.literal c, d :: rest) :=
    if_neg (by simpa using hc)
  rw [rangeOrItem?, hitem]
  exact if_neg (by simp [hd])

/-- One ordinary character becomes an item, if no operator and no range starts there. -/
theorem class?_item (hc : IsOrdinary c) (hd : d ≠ '-') (hop : operator? (c :: d :: rest) = none)
    (turns : Nat) (level : Level) :
    class? {} (turns + 1) level [] (c :: d :: rest)
      = class? {} turns (level.add (.leaf (.char c))) [] (d :: rest) := by
  have hskip : skipSpace {} (c :: d :: rest) = c :: d :: rest := rfl
  rw [class?, hskip]
  dsimp only
  split
  · exact absurd rfl hc.closing
  · exact absurd rfl hc.opening
  · rw [hop]
    dsimp only
    rw [rangeOrItem?_ordinary hc.backslash hd]
    rfl

/-- A doubled sign is read as an operator. -/
theorem class?_operator {op : SetOperator} {rest' : List Char} (hc : IsOrdinary c)
    (hop : operator? (c :: rest) = some (op, rest')) (turns : Nat) (level : Level) :
    class? {} (turns + 1) level [] (c :: rest)
      = class? {} turns (level.operator {} op) [] rest' := by
  have hskip : skipSpace {} (c :: rest) = c :: rest := rfl
  rw [class?, hskip]
  dsimp only
  split
  · exact absurd rfl hc.closing
  · exact absurd rfl hc.opening
  · rw [hop]

theorem operator?_cons_cons (c d : Char) (rest : List Char) :
    operator? (c :: d :: rest)
      = (if c = d then SetOperator.ofSign? c else none).map fun op => (op, rest) := by
  rw [operator?]
  split <;> rfl

theorem class?_end (turns : Nat) (level : Level) (rest : List Char) :
    class? {} (turns + 1) level [] (']' :: rest) = (level.close? {}).map fun p => (p, rest) := by
  have hskip : skipSpace {} (']' :: rest) = ']' :: rest := rfl
  rw [class?, hskip]
  dsimp only
  cases level.close? {} <;> rfl

/-- Ordinary characters are read as the lists that they form. -/
theorem class?_ordinary (h : ∀ c ∈ cs, IsOrdinary c) {turns : Nat} (hturns : cs.length < turns)
    (level : Level) (rest : List Char) :
    class? {} turns level [] (cs ++ ']' :: rest)
      = ((level.read (.of cs)).close? {}).map fun p => (p, rest) := by
  induction cs using Lists.of.induct generalizing turns level with
  | case1 =>
    obtain ⟨turns, rfl⟩ : ∃ n, turns = n + 1 := ⟨turns - 1, by omega⟩
    exact class?_end turns level rest
  | case2 c =>
    have hc := h c List.mem_cons_self
    obtain ⟨turns, rfl⟩ : ∃ n, turns = n + 2 := ⟨turns - 2, by simp at hturns; omega⟩
    have hop : operator? (c :: ']' :: rest) = none := by
      rw [operator?_cons_cons, if_neg hc.closing]
      rfl
    rw [List.singleton_append, class?_item hc (by decide) hop, class?_end]
    rfl
  | case3 c d cs op hop ih =>
    -- The sign is doubled. What is read so far is the left side of the operator.
    obtain ⟨hc, -, hcs⟩ : IsOrdinary c ∧ IsOrdinary d ∧ ∀ c ∈ cs, IsOrdinary c := by
      simpa only [List.forall_mem_cons] using h
    obtain ⟨turns, rfl⟩ : ∃ n, turns = n + 1 := ⟨turns - 1, by omega⟩
    have hread : operator? (c :: d :: (cs ++ ']' :: rest)) = some (op, cs ++ ']' :: rest) := by
      rw [operator?_cons_cons, hop]
      rfl
    have hof : Lists.of (c :: d :: cs) = (Lists.of cs).behind op := by
      rw [Lists.of, hop]
    rw [List.cons_append, List.cons_append, class?_operator hc hread, hof]
    exact ih hcs (by simp at hturns; omega) _
  | case4 c d cs hop ih =>
    -- No range starts here: the next character is ordinary as well, so it is no hyphen.
    obtain ⟨hc, hds⟩ := List.forall_mem_cons.mp h
    have hd := hds d List.mem_cons_self
    obtain ⟨turns, rfl⟩ : ∃ n, turns = n + 1 := ⟨turns - 1, by omega⟩
    have hread : operator? (c :: d :: (cs ++ ']' :: rest)) = none := by
      rw [operator?_cons_cons, hop]
      rfl
    have hof : Lists.of (c :: d :: cs) = (Lists.of (d :: cs)).cons c := by
      rw [Lists.of, hop]
    rw [List.cons_append, List.cons_append, class?_item hc hd.hyphen hread, hof]
    exact ih hds (by simp at hturns ⊢; omega) _

/-- What is read for ordinary characters in brackets. -/
def classOf (cs : List Char) : Part := (Level.read ⟨false, none, []⟩ (.of cs)).whole {}

/-- The first of these characters makes no complement, and it does not belong to the start. -/
theorem openClass?_ordinary (hne : cs ≠ []) (h : ∀ c ∈ cs, IsOrdinary c) (rest : List Char) :
    openClass? {} (cs ++ rest) = some (⟨false, none, []⟩, cs ++ rest) := by
  obtain ⟨c, cs, rfl⟩ := List.exists_cons_of_ne_nil hne
  have hc := h c List.mem_cons_self
  have hcaret : caret {} (c :: cs ++ rest) = (false, c :: cs ++ rest) := by
    have hskip : skipSpace {} (c :: cs ++ rest) = c :: cs ++ rest := rfl
    rw [caret, hskip]
    split
    · next heq => exact absurd (List.cons.inj heq).1 hc.caret
    · rfl
  have hhyphens : ∀ turns, hyphens {} turns [] (c :: cs ++ rest) = ([], c :: cs ++ rest) := by
    intro turns
    cases turns with
    | zero => rfl
    | succ turns => exact if_neg (by simpa using hc.hyphen)
  rw [openClass?, hcaret]
  dsimp only
  rw [hhyphens]
  exact if_neg (by simp [hc.closing])

/-- Ordinary characters in brackets are read as their class, up to the closing bracket. -/
theorem bracket?_ordinary (hne : cs ≠ []) (h : ∀ c ∈ cs, IsOrdinary c) (rest : List Char) :
    bracket? {} (cs ++ ']' :: rest)
      = some (.bracket (classOf cs).set (classOf cs).nesting, rest) := by
  have hturns : cs.length < (cs ++ ']' :: rest).length + 1 := by
    rw [List.length_append]
    omega
  have hclose : (Level.read ⟨false, none, []⟩ (.of cs)).close? {} = some (classOf cs) :=
    Level.close?_of_negated (Level.negated_read _ _)
  have hclass := class?_ordinary h hturns ⟨false, none, []⟩ rest
  rw [hclose] at hclass
  rw [bracket?, openClass?_ordinary hne h]
  dsimp only [Option.bind_eq_bind, Option.bind_some]
  rw [hclass]
  rfl

/-! ## Expressions -/

/-- The class of some characters as an expression. -/
def classText (cs : List Char) : String := .ofList ('[' :: (cs ++ [']']))

theorem signs_ordinary (h : ∀ c ∈ cs, IsOrdinary c) :
    signs .inside (cs ++ [']']) = cs.map .member ++ [.closing] := by
  induction cs with
  | nil => rfl
  | cons c cs ih =>
    obtain ⟨hc, hcs⟩ := List.forall_mem_cons.mp h
    rw [List.cons_append, signs_cons _ hc.backslash, Position.sign_inside hc.closing, ih hcs]
    rfl

/-- A class of ordinary characters is left as it is. -/
theorem adapt_classText (hne : cs ≠ []) (h : ∀ c ∈ cs, IsOrdinary c) :
    adapt (classText cs) = classText cs := by
  obtain ⟨c, cs, rfl⟩ := List.exists_cons_of_ne_nil hne
  obtain ⟨hc, hcs⟩ := List.forall_mem_cons.mp h
  have hsigns : signs .outside (classText (c :: cs)).toList
      = .opening :: ((c :: cs).map .member ++ [.closing]) := by
    have hmember : Position.start.sign c = (.member c, .inside) :=
      Position.sign_member (by decide) (fun _ => hc.caret) nofun
    rw [classText, String.toList_ofList, signs_cons _ (by decide)]
    change Sign.opening :: signs .start (c :: (cs ++ [']'])) = _
    rw [signs_cons _ hc.backslash, hmember, signs_ordinary hcs]
    rfl
  refine adapt_of_isNormal fun s hs => ?_
  rw [hsigns, List.mem_cons, List.mem_append, List.mem_singleton] at hs
  obtain rfl | hs | rfl := hs
  · exact ⟨nofun, nofun, nofun⟩
  · obtain ⟨d, hd, rfl⟩ := List.mem_map.mp hs
    have hd := h d hd
    exact ⟨nofun, fun heq => hd.opening (Sign.member.inj heq),
      fun heq => hd.closing (Sign.member.inj heq)⟩
  · exact ⟨nofun, nofun, nofun⟩

/-- The expression is the class alone, between the conditions for both ends of a text. -/
theorem read?_classText (hne : cs ≠ []) (h : ∀ c ∈ cs, IsOrdinary c) :
    Pattern.read? (Extent.whole.source (classText cs))
      = some (.anchored (.bracket (classOf cs).set (classOf cs).nesting)) := by
  have hsource : Extent.whole.source (classText cs)
      = opening ++ ('[' :: (cs ++ ']' :: closing)) := by
    have htext : (classText cs).toList = '[' :: (cs ++ [']']) := String.toList_ofList
    change opening ++ (adapt (classText cs)).toList ++ closing = _
    rw [adapt_classText hne h, htext, List.append_assoc, List.cons_append, List.append_assoc]
    rfl
  have hlength : (opening ++ ('[' :: (cs ++ ']' :: closing))).length + 1
      = cs.length + 8 + 1 + 2 := by
    simp only [List.length_append, opening, closing, behind, List.length_cons, List.length_nil]
    omega
  have hskip : skipSpace (Draft.start.within .whole).flags ('[' :: (cs ++ ']' :: closing))
      = '[' :: (cs ++ ']' :: closing) := rfl
  have hbracket : bracket? (Draft.start.within .whole).flags (cs ++ ']' :: closing)
      = some (.bracket (classOf cs).set (classOf cs).nesting, closing) :=
    bracket?_ordinary hne h closing
  have hsign : sign? (Draft.start.within .whole) ('[' :: (cs ++ ']' :: closing))
      = some ((Draft.start.within .whole).add
          (.bracket (classOf cs).set (classOf cs).nesting), closing) := by
    rw [sign?, hbracket]
    rfl
  rw [hsource, Pattern.read?, hlength, signs?_opening, signs?_of_sign hskip, hsign]
  rfl

/-! ## Meaning -/

/-- An operator between sets works on each character. -/
theorem SetOperator.contains_apply {op : SetOperator} (h : op ≠ difference) (s t : CharSet)
    (c : Char) : (op.apply s t).contains c = op.holds (s.contains c) (t.contains c) := by
  cases op with
  | intersection => exact CharSet.contains_intersection s t c
  | difference => exact absurd rfl h
  | symmetricDifference =>
    have hordered : ∀ r ∈ s.ranges.intersection t.ranges, r.1 ≤ r.2 := by
      intro r hr
      obtain ⟨p, -, hr⟩ := List.mem_flatMap.mp hr
      obtain ⟨q, -, hr⟩ := List.mem_filterMap.mp hr
      obtain ⟨hle, hr⟩ := Option.ite_none_right_eq_some.mp hr
      obtain rfl := Option.some.inj hr
      exact hle
    have hdifference : (s.symmetricDifference t).contains c
        = ((s.ranges.union t.ranges).contains c.toNat
          && !(s.ranges.intersection t.ranges).contains c.toNat) :=
      Ranges.contains_difference hordered c.valid
    rw [Ranges.contains_union, Ranges.contains_intersection] at hdifference
    change (s.symmetricDifference t).contains c = (s.contains c ^^ t.contains c)
    rw [hdifference, CharSet.contains, CharSet.contains]
    cases s.ranges.contains c.toNat <;> cases t.ranges.contains c.toNat <;> rfl

/-- A character belongs to a list of parts if it belongs to one of them. -/
theorem Part.contains_ofList (ps : List Part) (c : Char) :
    (ofList ps).set.contains c = ps.any fun p => p.set.contains c := by
  unfold ofList
  split
  · rfl
  · rw [List.any_cons, List.any_nil, Bool.or_false]
  · rw [CharSet.contains_unions, List.any_map, List.any_reverse]
    rfl

theorem Part.contains_ordinary (cs : List Char) (c : Char) :
    (ofList (cs.map fun c => leaf (.char c)).reverse).set.contains c = cs.contains c := by
  have hchar : ((fun p : Part => p.set.contains c) ∘ fun d => leaf (.char d)) = (c == ·) :=
    funext fun d => CharSet.contains_char d c
  rw [contains_ofList, List.any_reverse, List.any_map, hchar, List.any_beq]

namespace Level

theorem contains_addAll (cs : List Char) (c : Char) :
    (((⟨false, none, []⟩ : Level).addAll cs).whole {}).set.contains c = cs.contains c := by
  rw [addAll_eq, List.append_nil]
  exact Part.contains_ordinary cs c

theorem contains_operator_addAll {op : SetOperator} (h : op ≠ .difference) (l : Level)
    (cs : List Char) (c : Char) :
    (((l.operator {} op).addAll cs).whole {}).set.contains c
      = op.holds ((l.whole {}).set.contains c) (cs.contains c) := by
  have happly := SetOperator.contains_apply h (l.whole {}).set
    (Part.ofList (cs.map fun c => Part.leaf (.char c)).reverse).set c
  rw [Part.contains_ordinary] at happly
  rw [addAll_eq, ← happly]
  change (op.apply _ (Part.ofList (_ ++ [])).set).contains c = _
  rw [List.append_nil]
  rfl

/-- A character belongs to what is read if the lists hold of it. -/
theorem contains_read {ls : Lists} (h : ∀ p ∈ ls.more, p.1 ≠ .difference) (c : Char) :
    ((Level.read ⟨false, none, []⟩ ls).whole {}).set.contains c = ls.holds c := by
  obtain ⟨first, more⟩ := ls
  have hmore : ∀ l : Level,
      ((more.foldl (fun l p => (l.operator {} p.1).addAll p.2) l).whole {}).set.contains c
        = more.foldl (fun b p => p.1.holds b (p.2.contains c)) ((l.whole {}).set.contains c) := by
    -- The operators group to the left, so the induction is on the lists that follow, for every
    -- level that stands in front.
    induction more with
    | nil => exact fun _ => rfl
    | cons p more ih =>
      obtain ⟨hp, hmore⟩ := List.forall_mem_cons.mp h
      intro l
      rw [List.foldl_cons, ih hmore, contains_operator_addAll hp]
      rfl
  rw [read, hmore, contains_addAll]
  rfl

end Level

/-- The operators that ordinary characters stand for. -/
theorem SetOperator.of_ofSign? {op : SetOperator} (hc : IsOrdinary c) (h : ofSign? c = some op) :
    (c = '&' ∨ c = '~') ∧ op ≠ difference := by
  unfold ofSign? at h
  split at h
  · obtain rfl := Option.some.inj h
    exact ⟨.inl rfl, by decide⟩
  · exact absurd rfl hc.hyphen
  · obtain rfl := Option.some.inj h
    exact ⟨.inr rfl, by decide⟩
  · cases h

/-- No two hyphens stand among ordinary characters, so no difference does. -/
theorem Lists.ne_difference (h : ∀ c ∈ cs, IsOrdinary c) :
    ∀ p ∈ (Lists.of cs).more, p.1 ≠ .difference := by
  induction cs using Lists.of.induct with
  | case1 => exact nofun
  | case2 c => exact nofun
  | case3 c d cs op hop ih =>
    obtain ⟨hc, -, hcs⟩ : IsOrdinary c ∧ IsOrdinary d ∧ ∀ c ∈ cs, IsOrdinary c := by
      simpa only [List.forall_mem_cons] using h
    rw [Lists.of, hop]
    obtain ⟨-, hop⟩ := Option.ite_none_right_eq_some.mp hop
    exact List.forall_mem_cons.mpr ⟨(SetOperator.of_ofSign? hc hop).2, ih hcs⟩
  | case4 c d cs hop ih =>
    rw [Lists.of, hop]
    exact ih fun e he => h e (List.mem_cons_of_mem c he)

/-- A character belongs to a class of ordinary characters just if it belongs to what its lists stand
for. -/
theorem contains_classOf (h : ∀ c ∈ cs, IsOrdinary c) (c : Char) :
    (classOf cs).set.contains c = (Lists.of cs).holds c :=
  Level.contains_read (Lists.ne_difference h) c

/-! ### Without operators -/

/-- No sign that stands for an operator is written twice. -/
structure IsSimple (cs : List Char) : Prop where
  ampersand : ¬ ['&', '&'] <:+: cs
  tilde : ¬ ['~', '~'] <:+: cs

/-- Without a doubled sign there is only one list. -/
theorem Lists.of_eq (h : ∀ c ∈ cs, IsOrdinary c) (hsimple : IsSimple cs) :
    Lists.of cs = ⟨cs, []⟩ := by
  induction cs using Lists.of.induct with
  | case1 => rfl
  | case2 c => rfl
  | case3 c d cs op hop ih =>
    obtain ⟨rfl, hsign⟩ := Option.ite_none_right_eq_some.mp hop
    have hinfix : [c, c] <:+: c :: c :: cs := (List.prefix_append [c, c] cs).isInfix
    obtain rfl | rfl := (SetOperator.of_ofSign? (h c List.mem_cons_self) hsign).1
    · exact absurd hinfix hsimple.ampersand
    · exact absurd hinfix hsimple.tilde
  | case4 c d cs hop ih =>
    have htail : IsSimple (d :: cs) :=
      ⟨fun hinfix => hsimple.ampersand (List.infix_cons hinfix),
        fun hinfix => hsimple.tilde (List.infix_cons hinfix)⟩
    rw [Lists.of, hop]
    dsimp only
    rw [ih (fun e he => h e (List.mem_cons_of_mem c he)) htail]
    rfl

/-- A list of single characters has no more room than characters, and no parts in parts. -/
theorem Part.fits_ofList {ps : List Part} (h : ∀ p ∈ ps, p.set.ranges.Fits 1 ∧ p.nesting = 0) :
    (ofList ps).set.ranges.Fits ps.length ∧ (ofList ps).nesting ≤ 1 := by
  unfold ofList
  split
  · exact ⟨Ranges.fits_nil, Nat.zero_le 1⟩
  · next p =>
    obtain ⟨hfits, hnesting⟩ := h p List.mem_cons_self
    exact ⟨hfits, hnesting ▸ Nat.zero_le 1⟩
  · constructor
    · have hsets : ∀ rs ∈ (ps.reverse.map set).map CharSet.ranges, rs.Fits 1 := by
        simpa using fun p hp => (h p hp).1
      have hunions := Ranges.Fits.unions hsets
      rw [List.length_map, List.length_map, List.length_reverse] at hunions
      exact hunions
    · have hnesting : ∀ qs : List Part, (∀ q ∈ qs, q.nesting = 0) →
          qs.foldl (fun n q => max n q.nesting) 0 = 0 := by
        intro qs hqs
        induction qs with
        | nil => rfl
        | cons q qs ih =>
          obtain ⟨hq, hqs⟩ := List.forall_mem_cons.mp hqs
          rw [List.foldl_cons, hq]
          exact ih hqs
      rw [hnesting ps fun p hp => (h p hp).2]

/-- A class of ordinary characters, none of which forms an operator, is a list of them. -/
theorem classOf_eq (h : ∀ c ∈ cs, IsOrdinary c) (hsimple : IsSimple cs) :
    classOf cs = .ofList (cs.map fun c => .leaf (.char c)).reverse := by
  rw [classOf, Lists.of_eq h hsimple]
  change ((Level.addAll ⟨false, none, []⟩ cs).whole {}) = _
  rw [Level.addAll_eq, List.append_nil]
  rfl

/-- A class of ordinary characters without operators is small enough. -/
theorem isAllowed_classOf (h : ∀ c ∈ cs, IsOrdinary c) (hsimple : IsSimple cs)
    (hlength : cs.length ≤ 65000) :
    (Pattern.anchored (.bracket (classOf cs).set (classOf cs).nesting)).isAllowed := by
  -- Every character takes one range, so the class has no more ranges than characters.
  have hparts : ∀ p ∈ (cs.map fun c => Part.leaf (.char c)).reverse,
      p.set.ranges.Fits 1 ∧ p.nesting = 0 := by
    intro p hp
    obtain ⟨c, -, rfl⟩ := List.mem_map.mp (List.mem_reverse.mp hp)
    exact ⟨Ranges.fits_char c, rfl⟩
  obtain ⟨hfits, hnesting⟩ := Part.fits_ofList hparts
  rw [List.length_reverse, List.length_map] at hfits
  rw [classOf_eq h hsimple]
  exact Pattern.isAllowed_anchored_bracket hfits hlength (Nat.le_trans hnesting (by decide))

/-! ## Matching -/

/-- Whether a class is not too large. -/
def classFits (cs : List Char) : Bool := (compile? .whole (classText cs)).isSome

/-- A pattern of one class matches a text of one character just if that belongs to the class. -/
theorem Pattern.isMatch_anchored_bracket (s : CharSet) (nesting : Nat) (c : Char) :
    (anchored (.bracket s nesting)).isMatch [c] = s.contains c := by
  rw [Bool.eq_iff_iff, isMatch_anchored_iff]
  change s.contains c ∧ 0 + 1 = 1 ↔ s.contains c
  exact and_iff_left rfl

/-- A class accepts a character if it fits and the character belongs to its lists. -/
theorem accepts_classText (hne : cs ≠ []) (h : ∀ c ∈ cs, IsOrdinary c) (c : Char) :
    accepts (compile? .whole (classText cs)) (.singleton c)
      = (classFits cs && (Lists.of cs).holds c) := by
  have hcompile : compile? .whole (classText cs)
      = (some (.anchored (.bracket (classOf cs).set (classOf cs).nesting))).filter
          Pattern.isAllowed := by
    rw [compile?, Pattern.ofChars?, read?_classText hne h]
  have hmatch := Pattern.isMatch_anchored_bracket (classOf cs).set (classOf cs).nesting c
  rw [classFits, hcompile, ← contains_classOf h, ← hmatch]
  cases hallowed : (Pattern.anchored (.bracket (classOf cs).set (classOf cs).nesting)).isAllowed
  · rw [Option.filter_some, hallowed]
    rfl
  · rw [Option.filter_some, hallowed, accepts, String.toList_singleton]
    rfl

/-- A class of ordinary characters with no operator in it is not too large, unless it lists very
many. -/
theorem classFits_of_length_le (hne : cs ≠ []) (h : ∀ c ∈ cs, IsOrdinary c)
    (hsimple : IsSimple cs) (hlength : cs.length ≤ 65000) : classFits cs := by
  rw [classFits, compile?, Pattern.ofChars?, read?_classText hne h, Option.filter_some,
    isAllowed_classOf h hsimple hlength]
  rfl

end JsonPath.Regex

namespace JsonPath

open Regex Function.Kind

/-! ## Calls -/

/-- `match` tells of each character whether it is listed in the class of the characters. -/
def ListsItself (cs : List Char) : Prop :=
  ∀ (c : Char) (v w : Value), (value.coerce v).string? = some (.singleton c) →
    (value.coerce w).string? = some (classText cs) →
    ∀ r, ((Registry.builtin.call "match" [v, w]).run.run r).1 = .ok (.logical (cs.contains c))

section

variable {cs : List Char}

/-- Whatever happened before, a call tells whether the character belongs to what the lists of the
class stand for. -/
theorem Registry.call_class (hne : cs ≠ []) (h : ∀ c ∈ cs, IsOrdinary c) {c : Char} {v w : Value}
    (hv : (value.coerce v).string? = some (.singleton c))
    (hw : (value.coerce w).string? = some (classText cs)) (r : Run) :
    ((builtin.call "match" [v, w]).run.run r).1
      = .ok (.logical (classFits cs && (Lists.of cs).holds c)) := by
  rw [← accepts_classText hne h]
  exact call_matching .whole hv hw r

/-- A class lists just its characters if it fits and its lists hold of just these. -/
theorem listsItself_iff (hne : cs ≠ []) (h : ∀ c ∈ cs, IsOrdinary c) :
    ListsItself cs ↔ classFits cs ∧ ∀ c, (Lists.of cs).holds c = cs.contains c := by
  constructor
  · intro hlists
    have hanswer : ∀ c, cs.contains c = (classFits cs && (Lists.of cs).holds c) := by
      intro c
      have hfirst := hlists c (.primitive (.string (.singleton c)))
        (.primitive (.string (classText cs))) rfl rfl (.start .down)
      have hsecond := Registry.call_class hne h (c := c)
        (v := .primitive (.string (.singleton c))) (w := .primitive (.string (classText cs)))
        rfl rfl (.start .down)
      exact Value.logical.inj (Except.ok.inj (hfirst.symm.trans hsecond))
    -- A class that does not fit accepts nothing, and there is something in the class.
    obtain ⟨c, hc⟩ := List.exists_mem_of_ne_nil cs hne
    have hfits : classFits cs ∧ (Lists.of cs).holds c := by
      rw [← Bool.and_eq_true, ← hanswer, List.contains_iff_mem]
      exact hc
    refine ⟨hfits.1, fun d => ?_⟩
    rw [hanswer, hfits.1, Bool.true_and]
  · rintro ⟨hfits, hholds⟩ c v w hv hw r
    rw [Registry.call_class hne h hv hw r, hfits, Bool.true_and, hholds]

/-- **Classes.** What `match` answers for a character and a class of ordinary characters, after
any calls whatever. A class accepts what it lists just if it is not too large and its lists stand
for just its characters. This is so for a class without operators, unless it lists very many
characters. -/
theorem Registry.match_class (hne : cs ≠ []) (h : ∀ c ∈ cs, IsOrdinary c) :
    (∀ (c : Char) (v w : Value), (value.coerce v).string? = some (.singleton c) →
      (value.coerce w).string? = some (classText cs) →
      ∀ r, ((builtin.call "match" [v, w]).run.run r).1
        = .ok (.logical (classFits cs && (Lists.of cs).holds c))) ∧
    (ListsItself cs ↔ classFits cs ∧ ∀ c, (Lists.of cs).holds c = cs.contains c) ∧
    (IsSimple cs → (∀ c, (Lists.of cs).holds c = cs.contains c) ∧
      (cs.length ≤ 65000 → ListsItself cs)) := by
  refine ⟨fun c v w hv hw r => call_class hne h hv hw r, listsItself_iff hne h, fun hsimple => ?_⟩
  have hholds : ∀ c, (Lists.of cs).holds c = cs.contains c := by
    intro c
    rw [Lists.of_eq h hsimple]
    rfl
  refine ⟨hholds, fun hlength => (listsItself_iff hne h).mpr ⟨?_, hholds⟩⟩
  exact classFits_of_length_le hne h hsimple hlength

end

/-- Signs that stand for operators when they are doubled stand for themselves otherwise. -/
theorem Registry.match_class_signs : ListsItself ['a', '&', '~', '&'] := by
  have hordinary : ∀ c ∈ ['a', '&', '~', '&'], IsOrdinary c := by
    simp only [List.forall_mem_cons, List.not_mem_nil, false_implies, implies_true, and_true]
    refine ⟨?_, ?_, ?_, ?_⟩ <;> constructor <;> decide
  have hsimple : IsSimple ['a', '&', '~', '&'] := ⟨by decide, by decide⟩
  exact ((match_class (List.cons_ne_nil _ _) hordinary).2.2 hsimple).2 (by decide)

/-- A doubled ampersand takes what the lists in front of it and behind it have in common. There is
nothing, so the class does not even accept its first character. -/
theorem Registry.match_class_intersection :
    ((builtin.call "match" [.primitive (.string "a"), .primitive (.string "[a&&b]")]).run.run
        (.start .down)).1 = .ok (.logical false) ∧
      ¬ ListsItself ['a', '&', '&', 'b'] := by
  have hcall : ((builtin.call "match" [.primitive (.string "a"),
      .primitive (.string "[a&&b]")]).run.run (.start .down)).1 = .ok (.logical false) := rfl
  refine ⟨hcall, fun h => ?_⟩
  have hlisted := h 'a' (.primitive (.string "a")) (.primitive (.string "[a&&b]")) rfl rfl
    (.start .down)
  exact nomatch hcall.symm.trans hlisted

end JsonPath
