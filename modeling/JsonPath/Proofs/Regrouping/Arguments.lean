import JsonPath.Proofs.Regrouping.Chains
import JsonPath.Proofs.Regrouping.Operands

/-!
# Reading the texts of arguments

An argument that starts with a literal ends with its comparison, if there is one. So an expression
that goes on behind the comparison is no argument, and every other one is read as a disjunction.
-/

namespace JsonPath.Query

open JsonPath.Text JsonPath.Token Grammar Phrase

variable {c c' d : Cursor}

/-! ## Expressions and arguments -/

/-- What is read where an expression is written: from any front on, the loops come to its chain. A
comparison is a test of its own. -/
structure ReadsAlong (e : Expr) (c c' : Cursor) : Prop where
  from_iff : ∀ s x d, comparison? d.kind = none → (ReadsFrom s c x d ↔
    (e.isReadable = true ∧ (s.negated = true → e.startsSimple = true)) ∧
      ReadsOn (e.regroup s) c' x d)
  comparison : ∀ op l r, e = .binary (.compare op) l r → ∀ x d,
    Reads (test c) x d ↔ e.isReadable = true ∧ x = e.reread ∧ d = c'

theorem ReadsAlong.disjunction_iff {e x : Expr} (h : ReadsAlong e c c')
    (hc' : EndsDisjunction c'.kind) (hd : comparison? d.kind = none) :
    Reads (disjunction c) x d ↔ e.isReadable = true ∧ x = e.reread ∧ d = c' := by
  rw [readsFrom_start_iff, h.from_iff _ _ _ hd, readsOn_ends_iff hc'.conjunction hc'.disjunction]
  exact and_congr_left' ⟨fun h => h.1, fun h => ⟨h, fun hn => nomatch hn⟩⟩

namespace ReadsAlong

variable {c₁ : Cursor} {e l r : Expr}

/-- Behind a connective the loops start from a front again, with no negation in it. -/
theorem binary {op : Operator} {next : Chain → Front} (hop : ∀ cmp, op ≠ .compare cmp)
    (hnext : ∀ k, (next k).negated = false)
    (hstart : (Expr.binary op l r).startsSimple = l.startsSimple)
    (hregroup : ∀ s, (Expr.binary op l r).regroup s = r.regroup (next (l.regroup s)))
    (hjoin : ∀ k x d, ReadsOn k c₁ x d ↔ ReadsFrom (next k) c₁.skip x d)
    (hl : ReadsAlong l c c₁) (hr : ReadsAlong r c₁.skip c') :
    ReadsAlong (.binary op l r) c c' := by
  refine ⟨fun s x d hd => ?_, fun cmp l r heq => absurd (Expr.binary.inj heq).1 (hop cmp)⟩
  rw [hl.from_iff s x d hd, hjoin, hr.from_iff _ x d hd, hnext, hstart, hregroup, Expr.isReadable,
    Bool.and_eq_true]
  refine ⟨?_, ?_⟩
  · rintro ⟨⟨hl, hn⟩, ⟨hr, -⟩, hx⟩
    exact ⟨⟨⟨hl, hr⟩, hn⟩, hx⟩
  · rintro ⟨⟨⟨hl, hr⟩, hn⟩, hx⟩
    exact ⟨⟨hl, hn⟩, ⟨hr, fun h => absurd h Bool.false_ne_true⟩, hx⟩

/-- A disjunction is read along if both parts are. -/
theorem or (hk : c₁.kind = .disjunction) (hl : ReadsAlong l c c₁) (hr : ReadsAlong r c₁.skip c') :
    ReadsAlong (.binary .or l r) c c' :=
  binary nofun (fun _ => rfl) rfl (fun _ => rfl) (fun _ _ _ => readsOn_or_iff hk) hl hr

/-- A conjunction is read along if both parts are. -/
theorem and (hk : c₁.kind = .conjunction) (hl : ReadsAlong l c c₁) (hr : ReadsAlong r c₁.skip c') :
    ReadsAlong (.binary .and l r) c c' :=
  binary nofun (fun _ => rfl) rfl (fun _ => rfl) (fun _ _ _ => readsOn_and_iff hk) hl hr

/-- A negation is read along if what it negates is. -/
theorem not (hk : c.kind = .negation) (he : ReadsAlong e c.skip c') :
    ReadsAlong (.not e) c c' := by
  refine ⟨fun s x d hd => ?_, nofun⟩
  rw [readsFrom_of_negation hk, he.from_iff _ x d hd, Expr.isReadable, Bool.and_eq_true]
  refine ⟨?_, ?_⟩
  · rintro ⟨hn, ⟨he, hsimple⟩, hx⟩
    exact ⟨⟨⟨hsimple rfl, he⟩, fun h => absurd (hn.symm.trans h) Bool.false_ne_true⟩, hx⟩
  · rintro ⟨⟨⟨hsimple, he⟩, hn⟩, hx⟩
    exact ⟨Bool.eq_false_iff.mpr fun h => Bool.false_ne_true (hn h), ⟨he, fun _ => hsimple⟩, hx⟩

/-- A comparison is read along if both operands are read as operands. -/
theorem compare {op : Comparison} (ho : comparison? c₁.kind = some op) (hl : ReadsOperand l c c₁)
    (hr : ReadsOperand r c₁.skip c') : ReadsAlong (.binary (.compare op) l r) c c' := by
  refine ⟨fun s x d hd => ?_, ?_⟩
  · rw [readsFrom_of_comparison hl.kind_ne_negation hl.kind_ne_openParen ho hl.comparable_iff
      hl.simple hr.comparable_iff hd, Expr.isReadable, Bool.and_eq_true]
    -- No comparison is simple, so the front must have no negation.
    refine and_congr_left' (and_congr_right' ?_)
    exact ⟨fun h h' => absurd (h.symm.trans h') Bool.false_ne_true,
      fun h => Bool.eq_false_iff.mpr fun h' => Bool.false_ne_true (h h')⟩
  · rintro _ _ _ h x d
    cases h
    rw [reads_test_of_comparison hl.kind_ne_negation hl.kind_ne_openParen ho hl.comparable_iff
      hl.simple hr.comparable_iff, Expr.isReadable, Bool.and_eq_true]
    rfl

theorem of_simple (hs : e.startsSimple = true) (hregroup : ∀ s, e.regroup s = s.take e.reread)
    (hop : ∀ op l r, e ≠ .binary (.compare op) l r) (hc : c.kind ≠ .negation)
    (hl : ¬ LooksLiteral c.token) (hc' : comparison? c'.kind = none)
    (h : ∀ t d, SimpleRead c t d ↔ e.isReadable = true ∧ t = e.reread ∧ d = c') :
    ReadsAlong e c c' := by
  refine ⟨fun s x d _ => ?_, fun op l r heq => absurd heq (hop op l r)⟩
  rw [readsFrom_of_simple hc hl hc' h, hregroup]
  exact and_congr_left' (iff_self_and.mpr fun _ _ => hs)

end ReadsAlong

/-- A connective joins the tests of an expression. -/
def Expr.isConnective : Expr → Bool
  | .binary .or _ _ => true
  | .binary .and _ _ => true
  | _ => false

/-- What is taken behind something else is part of a connective. -/
theorem isConnective_take {s : Front} (t : Expr)
    (h : s.disjuncts.isSome = true ∨ s.conjuncts.isSome = true) :
    (s.take t).whole.isConnective = true := by
  obtain ⟨o, a, n⟩ := s
  cases o with
  | some l => rfl
  | none =>
    cases a with
    | some l => rfl
    | none => rcases h with h | h <;> cases h

/-- Behind `&&` or `||` a chain is not a single test. -/
theorem isConnective_regroup {e : Expr} {s : Front}
    (h : s.disjuncts.isSome = true ∨ s.conjuncts.isSome = true) :
    (e.regroup s).whole.isConnective = true := by
  match e with
  | .binary .or l r => exact isConnective_regroup (e := r) (.inl rfl)
  | .binary .and l r => exact isConnective_regroup (e := r) (.inr rfl)
  | .not e => exact isConnective_regroup (e := e) (s := s.negate) h
  | .binary (.compare c) l r => exact isConnective_take _ h
  | .paren e => exact isConnective_take _ h
  | .call f es => exact isConnective_take _ h
  | .single a ss => exact isConnective_take _ h
  | .nodes a ss => exact isConnective_take _ h
  | .integer n => exact isConnective_take _ h
  | .float x => exact isConnective_take _ h
  | .string t => exact isConnective_take _ h
  | .bool b => exact isConnective_take _ h
  | .null => exact isConnective_take _ h

theorem isConnective_of_simpleRead {t : Expr} (h : SimpleRead c t d) : t.isConnective = false := by
  cases h with
  | paren _ he =>
    obtain ⟨_, _, _, _, rfl, _⟩ := reads_parenthesized_iff.mp he
    rfl
  | call _ he => cases reads_call_iff.mp he <;> rfl
  | query => rfl

/-- A test is no connective. -/
theorem isConnective_of_reads_test {t : Expr} (h : Reads (test c) t d) :
    t.isConnective = false := by
  cases reads_test_iff.mp h with
  | not => rfl
  | paren hk he => exact isConnective_of_simpleRead (.paren hk he)
  | simple _ he => exact isConnective_of_simpleRead (reads_negated_iff.mp he)
  | comparison => rfl

/-- An argument is followed by a comma or by the closing parenthesis. -/
def EndsArgument (k : Kind) : Prop := k = .comma ∨ k = .closeParen

theorem EndsArgument.endsDisjunction {k : Kind} (h : EndsArgument k) : EndsDisjunction k := by
  rcases h with rfl | rfl
  · exact endsDisjunction_comma
  · exact endsDisjunction_closeParen

/-- A literal that is followed by nothing but the end of the argument is the whole argument. -/
theorem reads_argument_of_isLiteral {u : Token} {e x : Expr} (hl : IsLiteral u e)
    (ht : c.Through [u] c') (hc' : EndsArgument c'.kind) :
    Reads (argument c) x d ↔ x = e ∧ d = c' := by
  have hlit : IsLiteral c.token e := ht.uncons.1 ▸ hl
  have hnone := hc'.endsDisjunction.comparison
  obtain rfl := ht.eq_skip
  rw [reads_argument_iff]
  refine ⟨?_, ?_⟩
  · intro hx
    cases hx with
    | literal hl' he =>
      obtain rfl := hl'.unique hlit
      rcases reads_compared_iff.mp he with ⟨-, h⟩ | ⟨op, r, ho, -⟩
      · exact h
      · rw [hnone] at ho
        cases ho
    | expr hn => exact absurd (isLiteral_iff.mp hlit).1 hn
  · rintro ⟨rfl, rfl⟩
    exact .literal hlit (reads_compared_iff.mpr (.inl ⟨hnone, rfl, rfl⟩))

/-- In front of a comparison, a literal is read as an argument exactly as it is read as a test. -/
theorem reads_argument_of_comparison {op : Comparison} {x : Expr} (hl : LooksLiteral c.token)
    (ho : comparison? c.skip.kind = some op) : Reads (argument c) x d ↔ Reads (test c) x d := by
  rw [reads_argument_iff, reads_test_iff]
  refine ⟨?_, ?_⟩
  · intro hx
    cases hx with
    | literal hlit he =>
      rcases reads_compared_iff.mp he with ⟨hn, -⟩ | ⟨op', r, ho', hr, rfl⟩
      · rw [ho] at hn
        cases hn
      · exact .comparison (reads_comparable_iff.mpr (.literal hlit)) ho' hr
    | expr hn => exact absurd hl hn
  · intro hx
    cases hx with
    | not hk => exact absurd hk (kind_ne_of_looksLiteral hl).2
    | paren hk he => exact absurd (.paren hk he) (not_simpleRead_of_looksLiteral hl)
    | simple _ he => exact absurd (reads_negated_iff.mp he) (not_simpleRead_of_looksLiteral hl)
    | comparison he ho' hr =>
      cases reads_comparable_iff.mp he with
      | literal hlit =>
        exact .literal hlit (reads_compared_iff.mpr (.inr ⟨_, _, ho', hr, rfl⟩))
      | call hf => exact absurd hl (not_looksLiteral_of_isFunctionName hf)
      | query ha => exact absurd hl (not_looksLiteral_of_isAnchor ha)

/-- A test that is read up to where an expression ends is all of the expression. -/
theorem reads_disjunction_of_reads_test {x : Expr} (h : Reads (test c) x d)
    (hd : EndsDisjunction d.kind) : Reads (disjunction c) x d :=
  reads_disjunction_iff.mpr ⟨x, d, reads_conjunction_iff.mpr
    ⟨x, d, h, moreConjuncts_ends hd.toEndsConjunction⟩, moreDisjuncts_ends hd⟩

/-- A test that starts with a literal starts with a comparison of it. -/
theorem exists_comparison_of_startsWithLiteral {e : Expr} (hb : e.isBuilt .test = true)
    (h : startsWithLiteral e = true) :
    ∃ t u us op, e.tokens = t :: u :: us ∧ comparison? u.kind = some op := by
  match e with
  | .binary .or l r =>
    rw [Expr.isBuilt, Bool.and_eq_true, Bool.and_eq_true] at hb
    obtain ⟨t, u, us, op, htok, ho⟩ := exists_comparison_of_startsWithLiteral hb.1.2 h
    exact ⟨t, u, _, op, by rw [Expr.tokens, htok]; rfl, ho⟩
  | .binary .and l r =>
    rw [Expr.isBuilt, Bool.and_eq_true, Bool.and_eq_true] at hb
    obtain ⟨t, u, us, op, htok, ho⟩ := exists_comparison_of_startsWithLiteral hb.1.2 h
    exact ⟨t, u, _, op, by rw [Expr.tokens, htok]; rfl, ho⟩
  | .binary (.compare op) l r =>
    have ho := comparison?_kind_token op
    match l with
    | .integer _ => exact ⟨_, _, _, op, rfl, ho⟩
    | .float _ => exact ⟨_, _, _, op, rfl, ho⟩
    | .string _ => exact ⟨_, _, _, op, rfl, ho⟩
    | .bool true => exact ⟨_, _, _, op, rfl, ho⟩
    | .bool false => exact ⟨_, _, _, op, rfl, ho⟩
    | .null => exact ⟨_, _, _, op, rfl, ho⟩
    | .binary (.compare _) _ _ => cases hb
    | .binary .or _ _ => cases hb
    | .binary .and _ _ => cases hb

/-- The first token of an expression says whether it starts with a literal. -/
theorem Expr.exists_opens {e : Expr} {role : Role} (hb : e.isBuilt role = true) :
    ∃ t us, e.tokens = t :: us ∧ Opens t e := by
  match e with
  | .binary .or l r =>
    rw [Expr.isBuilt, Bool.and_eq_true, Bool.and_eq_true] at hb
    obtain ⟨t, us, htok, ho⟩ := exists_opens hb.1.2
    exact ⟨t, _, by rw [Expr.tokens, htok]; rfl, ho.binary _ _⟩
  | .binary .and l r =>
    rw [Expr.isBuilt, Bool.and_eq_true, Bool.and_eq_true] at hb
    obtain ⟨t, us, htok, ho⟩ := exists_opens hb.1.2
    exact ⟨t, _, by rw [Expr.tokens, htok]; rfl, ho.binary _ _⟩
  | .binary (.compare op) l r =>
    rw [Expr.isBuilt, Bool.and_eq_true, Bool.and_eq_true] at hb
    obtain ⟨t, us, htok, ho⟩ := exists_opens hb.1.2
    exact ⟨t, _, by rw [Expr.tokens, htok]; rfl, ho.binary _ _⟩
  | .not e => exact ⟨_, _, rfl, .of_kind rfl (by decide) rfl⟩
  | .paren e => exact ⟨_, _, rfl, .of_kind rfl (by decide) rfl⟩
  | .call f es =>
    rw [Expr.isBuilt, Bool.and_eq_true, Bool.not_eq_true'] at hb
    exact ⟨_, _, rfl, IsFunctionName.opens ⟨rfl, hb.1⟩⟩
  | .single a ss => exact ⟨_, _, rfl, (IsAnchor.canonical a).opens rfl⟩
  | .nodes a ss => exact ⟨_, _, rfl, (IsAnchor.canonical a).opens rfl⟩
  | .integer _ => exact ⟨_, _, rfl, nofun, iff_of_true (.inl rfl) rfl⟩
  | .float _ => exact ⟨_, _, rfl, nofun, iff_of_true (.inr (.inl rfl)) rfl⟩
  | .string _ => exact ⟨_, _, rfl, nofun, iff_of_true (.inr (.inr (.inl rfl))) rfl⟩
  | .bool true => exact ⟨_, _, rfl, (IsLiteral.true rfl rfl).opens⟩
  | .bool false => exact ⟨_, _, rfl, (IsLiteral.false rfl rfl).opens⟩
  | .null => exact ⟨_, _, rfl, (IsLiteral.null rfl rfl).opens⟩

/-- What is reread as no connective stands alone. -/
theorem Expr.standsAlone_of_reread {e : Expr} (h : e.reread.isConnective = false) :
    e.standsAlone = true := by
  match e with
  | .binary .or l r =>
    have hc := isConnective_regroup (e := r) (s := (l.regroup .start).or) (.inl rfl)
    exact nomatch hc.symm.trans h
  | .binary .and l r =>
    have hc := isConnective_regroup (e := r) (s := (l.regroup .start).and) (.inr rfl)
    exact nomatch hc.symm.trans h
  | .binary (.compare _) _ _ => rfl
  | .not _ => rfl
  | .paren _ => rfl
  | .call _ _ => rfl
  | .single _ _ => rfl
  | .nodes _ _ => rfl
  | .integer _ => rfl
  | .float _ => rfl
  | .string _ => rfl
  | .bool _ => rfl
  | .null => rfl

/-- What starts with no literal stands alone. -/
theorem Expr.standsAlone_of_startsWithLiteral {e : Expr} (h : startsWithLiteral e = false) :
    e.standsAlone = true := by
  match e with
  | .binary .or l r => exact congrArg (!·) h
  | .binary .and l r => exact congrArg (!·) h
  | .binary (.compare _) _ _ => rfl
  | .not _ => rfl
  | .paren _ => rfl
  | .call _ _ => rfl
  | .single _ _ => rfl
  | .nodes _ _ => rfl

/-- What starts with a literal and stands alone is a comparison. -/
theorem exists_compare_of_standsAlone {e : Expr} (hb : e.isBuilt .test = true)
    (hs : startsWithLiteral e = true) (h : e.standsAlone = true) :
    ∃ op l r, e = .binary (.compare op) l r := by
  match e with
  | .binary .or l r =>
    have hl : (!startsWithLiteral l) = true := h
    rw [show startsWithLiteral l = true from hs] at hl
    cases hl
  | .binary .and l r =>
    have hl : (!startsWithLiteral l) = true := h
    rw [show startsWithLiteral l = true from hs] at hl
    cases hl
  | .binary (.compare op) l r => exact ⟨op, l, r, rfl⟩

/-- An expression that is read along is read as an argument if it stands alone. -/
theorem ReadsAlong.argument_iff {e x : Expr} (h : ReadsAlong e c c') (hb : e.isBuilt .test = true)
    (ht : c.Through e.tokens c') (hc' : EndsArgument c'.kind) (hd : EndsArgument d.kind) :
    Reads (argument c) x d ↔
      (e.standsAlone && e.isReadable) = true ∧ x = e.reread ∧ d = c' := by
  rw [Bool.and_eq_true]
  obtain ⟨t, us, htok, ho⟩ := Expr.exists_opens hb
  have hl : LooksLiteral c.token ↔ startsWithLiteral e = true := by
    rw [htok] at ht
    rw [ht.uncons.1]
    exact ho.looksLiteral_iff
  -- The first token decides: behind a literal one comparison is read, and otherwise a disjunction.
  cases hs : startsWithLiteral e with
  | true =>
    obtain ⟨t, u, us, op, htok, hop⟩ := exists_comparison_of_startsWithLiteral hb hs
    rw [htok] at ht
    have hk : comparison? c.skip.kind = some op := ht.uncons.2.kind_eq ▸ hop
    rw [reads_argument_of_comparison (hl.mpr hs) hk]
    refine ⟨?_, ?_⟩
    · intro hx
      obtain ⟨hr, rfl, rfl⟩ := (h.disjunction_iff hc'.endsDisjunction
        hd.endsDisjunction.comparison).mp (reads_disjunction_of_reads_test hx hd.endsDisjunction)
      exact ⟨⟨Expr.standsAlone_of_reread (isConnective_of_reads_test hx), hr⟩, rfl, rfl⟩
    · rintro ⟨⟨ha, hr⟩, rfl, rfl⟩
      obtain ⟨op, l, r, he⟩ := exists_compare_of_standsAlone hb hs ha
      exact (h.comparison op l r he _ _).mpr ⟨hr, rfl, rfl⟩
  | false =>
    have hn : ¬ LooksLiteral c.token := fun h => Bool.false_ne_true (hs.symm.trans (hl.mp h))
    have hdis := h.disjunction_iff (x := x) hc'.endsDisjunction hd.endsDisjunction.comparison
    rw [reads_argument_iff]
    refine ⟨?_, ?_⟩
    · intro hx
      cases hx with
      | literal hlit => exact absurd (isLiteral_iff.mp hlit).1 hn
      | expr _ he =>
        obtain ⟨hr, h⟩ := hdis.mp he
        exact ⟨⟨Expr.standsAlone_of_startsWithLiteral hs, hr⟩, h⟩
    · rintro ⟨⟨-, hr⟩, h⟩
      exact .expr hn (hdis.mpr ⟨hr, h⟩)

/-- A built argument is read if it stands alone and can be read: a literal or a query by itself, or
a test. -/
theorem reads_argument_of_isBuilt {e x : Expr} (hs : e.isSpellable = true)
    (hb : e.isBuilt .argument = true) (ht : c.Through e.tokens c') (hc' : EndsArgument c'.kind)
    (h : e.isBuilt .test = true → ReadsAlong e c c') (hd : EndsArgument d.kind) :
    Reads (argument c) x d ↔
      (e.standsAlone && e.isReadable) = true ∧ x = e.reread ∧ d = c' := by
  have hlit : ∀ u, e.tokens = [u] → IsLiteral u e → (Reads (argument c) x d ↔
      (e.standsAlone && e.isReadable) = true ∧ x = e.reread ∧ d = c') := by
    intro u hu hl
    rw [reads_argument_of_isLiteral hl (hu ▸ ht) hc', hl.standsAlone, hl.isReadable, hl.reread]
    exact ⟨fun h => ⟨rfl, h⟩, fun h => h.2⟩
  match e with
  | .integer n => exact hlit _ rfl (isLiteral_integerToken n)
  | .float x => exact hlit _ rfl (isLiteral_float hs)
  | .string s => exact hlit _ rfl (isLiteral_literalToken s)
  | .bool true => exact hlit _ rfl (.true rfl rfl)
  | .bool false => exact hlit _ rfl (.false rfl rfl)
  | .null => exact hlit _ rfl (.null rfl rfl)
  | .binary .or l r => exact (h hb).argument_iff hb ht hc' hd
  | .binary .and l r => exact (h hb).argument_iff hb ht hc' hd
  | .binary (.compare op) l r => exact (h hb).argument_iff hb ht hc' hd
  | .not e => exact (h hb).argument_iff hb ht hc' hd
  | .paren e => exact (h hb).argument_iff hb ht hc' hd
  | .call f es => exact (h hb).argument_iff hb ht hc' hd
  | .nodes a ss => exact (h hb).argument_iff hb ht hc' hd

/-- Arguments are read one after the other, up to the closing parenthesis. -/
def ReadsArguments (c : Cursor) (xs : List Expr) (d : Cursor) : Prop :=
  ∃ x c₁ more, Reads (argument c) x c₁ ∧ Reads (moreArguments c₁) more d ∧ xs = x :: more

/-- Behind a comma further arguments are read. -/
theorem reads_moreArguments_of_comma_iff {xs : List Expr} (hk : c.kind = .comma) :
    Reads (moreArguments c) xs d ↔ ReadsArguments c.skip xs d := by
  rw [reads_moreArguments_iff]
  refine ⟨?_, ?_⟩
  · intro hx
    cases hx with
    | more _ he hes => exact ⟨_, _, _, he, hes, rfl⟩
    | none hk' => exact nomatch hk.symm.trans hk'
  · rintro ⟨x, c₁, more, hx, hm, rfl⟩
    exact .more hk hx hm

theorem reads_moreArguments_of_closeParen {xs : List Expr}
    (ht : c.Through [sign .closeParen ')'] c') :
    Reads (moreArguments c) xs d ↔ True ∧ xs = [] ∧ d = c' := by
  have hk : c.kind = .closeParen := ht.kind_eq
  rw [reads_moreArguments_iff, ht.eq_skip, true_and]
  refine ⟨?_, ?_⟩
  · intro hx
    cases hx with
    | more hk' => exact nomatch hk.symm.trans hk'
    | none => exact ⟨rfl, rfl⟩
  · rintro ⟨rfl, rfl⟩
    exact .none hk

/-- Arguments are an argument and further ones. -/
theorem readsArguments_of_argument {c₁ : Cursor} {e₀ : Expr} {es₀ xs : List Expr} {ok ok' : Prop}
    (he : ∀ x d, EndsArgument d.kind → (Reads (argument c) x d ↔ ok ∧ x = e₀ ∧ d = c₁))
    (hes : ∀ xs d, Reads (moreArguments c₁) xs d ↔ ok' ∧ xs = es₀ ∧ d = c') :
    ReadsArguments c xs d ↔ (ok ∧ ok') ∧ xs = e₀ :: es₀ ∧ d = c' := by
  have hends : ∀ e xs d, Reads (moreArguments e) xs d → EndsArgument e.kind := by
    intro e xs d h
    cases reads_moreArguments_iff.mp h with
    | more hk => exact .inl hk
    | none hk => exact .inr hk
  exact exists_pair_iff hends he hes

/-- Arguments start as the first of them does. -/
theorem exists_opens_commaTokens {e : Expr} {role : Role} (hb : e.isBuilt role = true)
    (es : List Expr) : ∃ t us, commaTokens (exprTokens (e :: es)) = t :: us ∧ Opens t e := by
  obtain ⟨t, us, htok, ho⟩ := Expr.exists_opens hb
  cases es with
  | nil => exact ⟨t, us, htok, ho⟩
  | cons e' es =>
    have hne : exprTokens (e' :: es) ≠ [] := List.cons_ne_nil _ _
    refine ⟨t, us ++ sign .comma ',' :: commaTokens (exprTokens (e' :: es)), ?_, ho⟩
    rw [exprTokens, commaTokens_cons hne, htok, List.cons_append]

/-- A call is read if its arguments are. -/
theorem reads_call_of_arguments {f : String} {es : List Expr} {x : Expr}
    (hb : areBuiltArguments es = true)
    (ht : c.Through (sign .openParen '(' :: (commaTokens (exprTokens es)
      ++ [sign .closeParen ')'])) c')
    (hes : es ≠ [] → ∀ xs d, ReadsArguments c.skip xs d ↔
      areReadableArguments es = true ∧ xs = rereadExprs es ∧ d = c') :
    Reads (call f c) x d ↔
      areReadableArguments es = true ∧ x = .call f (rereadExprs es) ∧ d = c' := by
  have hk : c.kind = .openParen := ht.kind_eq
  have ht' := ht.uncons.2
  rw [reads_call_iff]
  -- Without arguments the closing parenthesis follows at once, and nothing is left to read.
  cases es with
  | nil =>
    have hk' : c.skip.kind = .closeParen := ht'.kind_eq
    obtain rfl := ht'.eq_skip
    refine ⟨?_, ?_⟩
    · intro hx
      cases hx with
      | none => exact ⟨rfl, rfl, rfl⟩
      | some _ hne => exact absurd hk' hne
    · rintro ⟨-, rfl, rfl⟩
      exact .none hk hk'
  | cons e es =>
    have hk' : c.skip.kind ≠ .closeParen := by
      rw [areBuiltArguments, Bool.and_eq_true] at hb
      obtain ⟨t, us, htok, ho⟩ := exists_opens_commaTokens hb.1 es
      rw [htok] at ht'
      rw [ht'.kind_eq]
      exact ho.kind_ne
    have hes := hes (List.cons_ne_nil _ _)
    refine ⟨?_, ?_⟩
    · intro hx
      cases hx with
      | none _ hc => exact absurd hc hk'
      | some _ _ he hm =>
        obtain ⟨hok, hxs, rfl⟩ := (hes _ _).mp ⟨_, _, _, he, hm, rfl⟩
        exact ⟨hok, congrArg (Expr.call f) hxs, rfl⟩
    · rintro ⟨hok, rfl, rfl⟩
      obtain ⟨x, c₁, more, hx, hm, heq⟩ := (hes _ _).mpr ⟨hok, rfl, rfl⟩
      rw [heq]
      exact .some hk hk' hx hm

end JsonPath.Query
