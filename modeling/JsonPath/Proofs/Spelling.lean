import JsonPath.Proofs.Lexing.Cut
import JsonPath.Proofs.Octets

/-!
# The tokens of canonical text

A query is written token by token, with blanks in between. `tokens` lists the tokens that are
written for a part of a query, and `Spells` says that cutting the text into tokens gives these: it
does so in front of any text with which the last token cannot merge. Spelling is put together along
the text (`Spells.append`), so each part of a query is spelled by its parts.

This asks only that names are made of the characters of names and that numbers are finite
(`isSpellable`). How the parts of a query are nested does not matter: also an expression that no
text is read as has its tokens.
-/

namespace JsonPath.Query

open JsonPath.Text JsonPath.Token

/-! ## Tokens -/

/-- A token of one sign. -/
def sign (k : Kind) (c : Char) : Token := ⟨k, .ofList [c]⟩

/-- The sign of an anchor as a token. -/
def Anchor.token (a : Anchor) : Token :=
  ⟨match a with
    | root => .root
    | current => .current, .ofList [a.sign]⟩

/-- The kind of the token for a comparison. -/
def Comparison.kind : Comparison → Kind
  | equal => .equal
  | notEqual => .notEqual
  | less => .less
  | lessEqual => .lessEqual
  | greater => .greater
  | greaterEqual => .greaterEqual

/-- The token of an operator. -/
def Operator.token (o : Operator) : Token :=
  ⟨match o with
    | and => .conjunction
    | or => .disjunction
    | compare c => c.kind, .ofList o.text⟩

/-- The token of an integer. -/
def integerToken (i : Int64) : Token := ⟨.integer, .ofList (integer i.toInt)⟩

/-- The token of a text in quotes. -/
def literalToken (s : String) : Token := ⟨.string, .ofList (literalText s)⟩

/-- The token of a bound, if there is one. -/
def boundTokens (bound : Option Int64) : List Token :=
  match bound with
  | some i => [integerToken i]
  | none => []

/-- The tokens of the step of a slice. -/
def stepTokens (step : Option Int64) : List Token :=
  if step.isSome then sign .colon ':' :: boundTokens step else []

/-- The tokens of a slice. -/
def Slice.tokens (s : Slice) : List Token :=
  boundTokens s.start ++ sign .colon ':' :: (boundTokens s.stop ++ stepTokens s.step)

/-- Lists of tokens with commas between them. -/
def commaTokens : List (List Token) → List Token
  | [] => []
  | [t] => t
  | t :: ts => t ++ sign .comma ',' :: commaTokens ts

/-- The token in front of selectors in brackets, if there is one. -/
def Reach.tokens : Reach → List Token
  | children => []
  | descendants => [⟨.dotDot, .ofList ['.', '.']⟩]

/-- The token in front of a selector without brackets. -/
def Reach.dotToken : Reach → Token
  | children => sign .dot '.'
  | descendants => ⟨.dotDot, .ofList ['.', '.']⟩

/-- Tokens in brackets. -/
def bracketed (ts : List Token) : List Token :=
  sign .openBracket '[' :: (ts ++ [sign .closeBracket ']'])

mutual

/-- The tokens of a selector in brackets. -/
def Selector.tokens : Selector → List Token
  | .name s => [literalToken s]
  | .shorthand s => [literalToken s]
  | .wildcard => [sign .asterisk '*']
  | .index i => [integerToken i]
  | .slice s => s.tokens
  | .filter e => sign .questionMark '?' :: e.tokens

/-- The tokens of a segment. -/
def Segment.tokens : Segment → List Token
  | .dot reach (.shorthand s) => [reach.dotToken, ⟨.name, s⟩]
  | .dot reach .wildcard => [reach.dotToken, sign .asterisk '*']
  | .dot reach s => reach.tokens ++ bracketed s.tokens
  | .brackets reach ss => reach.tokens ++ bracketed (commaTokens (selectorTokens ss))

/-- The tokens of each selector. -/
def selectorTokens : List Selector → List (List Token)
  | [] => []
  | s :: ss => s.tokens :: selectorTokens ss

/-- The tokens of segments. -/
def segmentsTokens : List Segment → List Token
  | [] => []
  | s :: ss => s.tokens ++ segmentsTokens ss

/-- The tokens of an expression. -/
def Expr.tokens : Expr → List Token
  | .integer n => [integerToken n]
  | .float x => [⟨.decimal, .ofList (literalLayout.float x)⟩]
  | .string s => [literalToken s]
  | .bool true => [⟨.name, .ofList ['t', 'r', 'u', 'e']⟩]
  | .bool false => [⟨.name, .ofList ['f', 'a', 'l', 's', 'e']⟩]
  | .null => [⟨.name, .ofList ['n', 'u', 'l', 'l']⟩]
  | .binary op l r => l.tokens ++ op.token :: r.tokens
  | .not e => sign .negation '!' :: e.tokens
  | .paren e => sign .openParen '(' :: (e.tokens ++ [sign .closeParen ')'])
  | .call f es => ⟨.name, f⟩ :: sign .openParen '(' ::
      (commaTokens (exprTokens es) ++ [sign .closeParen ')'])
  | .single a ss => a.token :: segmentsTokens ss
  | .nodes a ss => a.token :: segmentsTokens ss

/-- The tokens of each expression. -/
def exprTokens : List Expr → List (List Token)
  | [] => []
  | e :: es => e.tokens :: exprTokens es

end

/-! ## What can be spelled -/

mutual

/-- Whether all names in a selector are names, and all numbers finite. -/
def Selector.isSpellable : Selector → Bool
  | .filter e => e.isSpellable
  | _ => true

/-- Whether all names in a segment are names, and all numbers finite. -/
def Segment.isSpellable : Segment → Bool
  | .dot _ (.shorthand s) => isName s.toList
  | .dot _ s => s.isSpellable
  | .brackets _ ss => areSpellableSelectors ss

/-- Whether all names in selectors are names, and all numbers finite. -/
def areSpellableSelectors : List Selector → Bool
  | [] => true
  | s :: ss => s.isSpellable && areSpellableSelectors ss

/-- Whether all names in segments are names, and all numbers finite. -/
def areSpellableSegments : List Segment → Bool
  | [] => true
  | s :: ss => s.isSpellable && areSpellableSegments ss

/-- Whether all names in an expression are names, and all numbers finite. -/
def Expr.isSpellable : Expr → Bool
  | .float x => Number.isFinite x
  | .binary _ l r => l.isSpellable && r.isSpellable
  | .not e => e.isSpellable
  | .paren e => e.isSpellable
  | .call f es => isName f.toList && areSpellableExprs es
  | .single _ ss => areSpellableSegments ss
  | .nodes _ ss => areSpellableSegments ss
  | _ => true

/-- Whether all names in expressions are names, and all numbers finite. -/
def areSpellableExprs : List Expr → Bool
  | [] => true
  | e :: es => e.isSpellable && areSpellableExprs es

end

/-! ## Spelling -/

/-- In front of any text that is `ok`, the text `cs` is cut into the tokens `ts`. -/
def Spells (ok : List Char → Prop) (cs : List Char) (ts : List Token) : Prop :=
  ∀ rest, ok rest → lexemes ((cs ++ rest).map some) = ts ++ lexemes (rest.map some)

namespace Spells

variable {ok ok' : List Char → Prop} {cs ds : List Char} {ts us : List Token}

theorem nil : Spells ok [] [] := fun _ _ => rfl

/-- A text that is cut in front of more texts is cut in front of fewer. -/
theorem mono (h : Spells ok cs ts) (hok : ∀ rest, ok' rest → ok rest) : Spells ok' cs ts :=
  fun rest hr => h rest (hok rest hr)

/-- One text behind the other, if the second does not merge with the first. -/
theorem append (h : Spells ok cs ts) (h' : Spells ok' ds us)
    (hok : ∀ rest, ok' rest → ok (ds ++ rest)) : Spells ok' (cs ++ ds) (ts ++ us) := by
  intro rest hr
  rw [List.append_assoc, h _ (hok rest hr), h' rest hr, List.append_assoc]

/-- A single token, if it is cut off in front of everything that is allowed. -/
theorem single {k : Kind} (h : ∀ rest, ok rest → CutsOff k cs rest) :
    Spells ok cs [⟨k, .ofList cs⟩] :=
  fun rest hr => (h rest hr).lexemes_eq

/-- A sign in front of a text that does not merge with it. -/
theorem cons {c : Char} {k : Kind} (hc : ∀ rest, ok rest → CutsOff k [c] (ds ++ rest))
    (h : Spells ok ds us) : Spells ok (c :: ds) (sign k c :: us) := by
  intro rest hr
  rw [← List.singleton_append, List.append_assoc, (hc rest hr).lexemes_eq, h rest hr]
  rfl

/-- A blank in front of a text adds no token. -/
theorem blank (h : Spells ok ds us) : Spells ok (' ' :: ds) us := by
  intro rest hr
  rw [List.cons_append, List.map_cons, lexemes_blank rfl, h rest hr]

/-- With nothing behind it, a text has its own tokens alone. -/
theorem lexemes_eq (h : Spells ok cs ts) (hok : ok []) : lexemes (cs.map some) = ts := by
  have hall := h [] hok
  rwa [List.append_nil, List.map_nil, lexemes_of_none (show next? [] = none from rfl),
    List.append_nil] at hall

/-- The octets of a text that does not start with a byte order mark are its tokens and the end of
the input. -/
theorem tokenize_ofList {c : Char} (h : Spells ok (c :: cs) ts) (hok : ok []) (hc : c ≠ '\uFEFF') :
    tokenize (String.ofList (c :: cs)).toUTF8.toList = ts ++ [endOfInput] := by
  have hlist : (String.ofList (c :: cs)).toList = c :: cs := String.toList_ofList
  have hmark : (String.ofList (c :: cs)).toList.head? ≠ some '\uFEFF' := by
    rw [hlist]
    exact fun hhead => hc (Option.some.inj hhead)
  rw [tokenize_toUTF8 hmark, hlist, h.lexemes_eq hok]

end Spells

/-! ### What follows a token -/

/-- A number ends at a character that is no part of a name and no point. -/
theorem endsNumber_cons {c : Char} (h : isNameChar c = false) (h' : c ≠ '.') (cs : List Char) :
    EndsNumber (c :: cs) := by
  intro d hd
  cases hd
  exact ⟨h, h'⟩

theorem endsNumber_blank (cs : List Char) : EndsNumber (' ' :: cs) :=
  endsNumber_cons (by decide) (by decide) cs

theorem endsNumber_colon (cs : List Char) : EndsNumber (':' :: cs) :=
  endsNumber_cons (by decide) (by decide) cs

theorem endsNumber_comma (cs : List Char) : EndsNumber (',' :: cs) :=
  endsNumber_cons (by decide) (by decide) cs

theorem endsNumber_closeBracket (cs : List Char) : EndsNumber (']' :: cs) :=
  endsNumber_cons (by decide) (by decide) cs

theorem endsNumber_closeParen (cs : List Char) : EndsNumber (')' :: cs) :=
  endsNumber_cons (by decide) (by decide) cs

/-- Segments start with a point or a bracket, so they are no part of a name in front of them. -/
theorem endsName_segmentsText {rest : List Char} (h : EndsName rest) (ss : List Segment) :
    EndsName (segmentsText ss ++ rest) := by
  cases ss with
  | nil => exact h
  | cons s ss =>
    have hs : ∃ c cs, s.text = c :: cs ∧ (c = '.' ∨ c = '[') := by
      cases s with
      | dot reach s =>
        cases reach <;> cases s <;> exact ⟨_, _, rfl, by decide⟩
      | brackets reach ss => cases reach <;> exact ⟨_, _, rfl, by decide⟩
    obtain ⟨c, cs, hc, hor⟩ := hs
    rw [segmentsText, hc]
    intro d hd
    cases hd
    rcases hor with rfl | rfl <;> decide

/-! ### Texts without parts -/

/-- An integer, with nothing behind it that would go on with it. -/
theorem integer_spells (i : Int64) : Spells EndsNumber (integer i.toInt) [integerToken i] :=
  .single fun _ h => cutsOff_integer _ h

/-- A string between its quotes, whatever follows. -/
theorem literalText_spells (s : String) : Spells (fun _ => True) (literalText s) [literalToken s] :=
  .single fun _ _ => cutsOff_literalText s _

/-- A name, in front of anything that does not go on with it. -/
theorem name_spells {s : String} (h : isName s.toList = true) :
    Spells EndsName s.toList [⟨.name, s⟩] := by
  have hs : Spells EndsName s.toList [⟨.name, .ofList s.toList⟩] :=
    .single fun _ hr => cutsOff_name h hr
  rwa [String.ofList_toList] at hs

/-- A bound of a slice, which may be missing. -/
theorem boundText_spells (b : Option Int64) : Spells EndsNumber (boundText b) (boundTokens b) := by
  cases b with
  | none => exact .nil
  | some i => exact integer_spells i

/-- A slice: its colons end the numbers in front of them. -/
theorem Slice.spells (s : Slice) : Spells EndsNumber s.text s.tokens := by
  -- The last bound may be missing with its colon, so what follows the second one is either a colon
  -- or what follows the slice.
  have hstep : Spells EndsNumber (if s.step.isSome then ':' :: boundText s.step else [])
      (stepTokens s.step) := by
    unfold stepTokens
    split
    · exact .cons (fun _ _ => cutsOff_of_scanChar rfl rfl) (boundText_spells s.step)
    · exact .nil
  have hstop : Spells EndsNumber (boundText s.stop
      ++ (if s.step.isSome then ':' :: boundText s.step else []))
        (boundTokens s.stop ++ stepTokens s.step) := by
    refine (boundText_spells s.stop).append hstep fun rest hr => ?_
    split
    · exact endsNumber_colon _
    · exact hr
  have htext : s.text = boundText s.start ++ ':' :: (boundText s.stop
      ++ (if s.step.isSome then ':' :: boundText s.step else [])) := List.append_assoc _ _ _
  rw [htext]
  exact (boundText_spells s.start).append (.cons (fun _ _ => cutsOff_of_scanChar rfl rfl) hstop)
    fun rest _ => endsNumber_colon _

theorem Operator.spells (o : Operator) {cs : List Char} {ts : List Token}
    {ok : List Char → Prop} (h : Spells ok cs ts) :
    Spells ok (o.text ++ ' ' :: cs) (o.token :: ts) := by
  have hop : Spells (fun rest => rest.head? = some ' ') o.text [o.token] := by
    refine .single fun rest hr => ?_
    obtain ⟨cs, rfl⟩ : ∃ cs, rest = ' ' :: cs := by
      cases rest with
      | nil => cases hr
      | cons c cs => exact ⟨cs, by rw [Option.some.inj hr]⟩
    cases o with
    | and => exact cutsOff_of_scanChar rfl rfl
    | or => exact cutsOff_of_scanChar rfl rfl
    | compare c => cases c <;> exact cutsOff_of_scanChar rfl rfl
  exact hop.append h.blank fun _ _ => rfl

/-- Any text in brackets, behind two points or not. -/
theorem Reach.bracketed_spells (r : Reach) {cs : List Char} {ts : List Token}
    (h : Spells EndsNumber cs ts) :
    Spells (fun _ => True) (r.text ++ '[' :: cs ++ [']']) (r.tokens ++ bracketed ts) := by
  have hclose : Spells (fun _ => True) [']'] [sign .closeBracket ']'] :=
    .cons (fun _ _ => cutsOff_of_scanChar rfl rfl) .nil
  have hin : Spells (fun _ => True) ('[' :: (cs ++ [']'])) (bracketed ts) :=
    .cons (fun _ _ => cutsOff_of_scanChar rfl rfl)
      (h.append hclose fun rest _ => endsNumber_closeBracket _)
  rw [List.append_assoc, List.cons_append]
  cases r with
  | children => exact hin
  | descendants =>
    have hdots : Spells (fun _ => True) (Reach.text .descendants) (Reach.tokens .descendants) :=
      .single fun _ _ => cutsOff_of_scanChar rfl rfl
    exact hdots.append hin fun _ _ => trivial

theorem Reach.dots_spells (r : Reach) {cs : List Char} {t : Token} {ok : List Char → Prop}
    (h : Spells ok cs [t]) (hcs : ∃ c ds, cs = c :: ds ∧ c ≠ '.') :
    Spells ok (r.dots ++ cs) [r.dotToken, t] := by
  obtain ⟨c, ds, rfl, hc⟩ := hcs
  cases r with
  | children =>
    exact .cons (fun rest _ => cutsOff_dot fun h => hc (Option.some.inj h)) h
  | descendants =>
    have hdots : Spells (fun _ => True) (Reach.dots .descendants) [Reach.dotToken .descendants] :=
      .single fun _ _ => cutsOff_of_scanChar rfl rfl
    exact hdots.append h fun _ _ => trivial

/-! ### The front of an expression

A negation sign merges with an equals sign, so no expression may start with one. -/

theorem ne_equals_of_isDigit {c : Char} (h : isDigit c = true) : c ≠ '=' := by
  rintro rfl
  exact absurd h (by decide)

/-- A text of digits does not start with an equals sign. -/
theorem head?_digits_ne_equals {ds : List Char} (h : ∀ c ∈ ds, isDigit c = true)
    (rest : List Char) (hne : ds ≠ []) : (ds ++ rest).head? ≠ some '=' := by
  obtain ⟨c, ds, rfl⟩ := List.exists_cons_of_ne_nil hne
  exact fun he => ne_equals_of_isDigit (h c List.mem_cons_self) (Option.some.inj he)

/-- Nor does an integer, with its sign or without. -/
theorem head?_integer_ne_equals (i : Int) (rest : List Char) :
    (integer i ++ rest).head? ≠ some '=' := by
  unfold integer
  split
  · exact nofun
  · exact head?_digits_ne_equals (isDigit_of_mem_digits _) rest (digits_ne_nil _ _)

theorem head?_float_ne_equals {x : Float} (h : Number.isFinite x = true) (rest : List Char) :
    (literalLayout.float x ++ rest).head? ≠ some '=' := by
  obtain ⟨n, hn, -⟩ := literalLayout.exists_numeral_float h
  rw [← hn, Number.Numeral.text]
  split
  · exact fun h => absurd (Option.some.inj h) (by decide)
  · rw [Number.Numeral.unsigned, List.append_assoc]
    exact head?_digits_ne_equals n.whole_digits _ n.whole_ne_nil

/-- No expression starts with an equals sign. -/
theorem Expr.head?_text_ne_equals (e : Expr) (h : e.isSpellable = true) (rest : List Char) :
    (e.text ++ rest).head? ≠ some '=' := by
  match e with
  | .integer n => exact head?_integer_ne_equals _ rest
  | .float x => exact head?_float_ne_equals h rest
  | .string s => exact nofun
  | .bool true => exact nofun
  | .bool false => exact nofun
  | .null => exact nofun
  | .binary op l r =>
    rw [Expr.isSpellable, Bool.and_eq_true] at h
    rw [Expr.text, List.append_assoc, List.append_assoc]
    exact l.head?_text_ne_equals h.1 _
  | .not e => exact nofun
  | .paren e => exact nofun
  | .call f es =>
    rw [Expr.isSpellable, Bool.and_eq_true] at h
    obtain ⟨c, ds, hf, hc, -⟩ := exists_cons_of_isName h.1
    rw [Expr.text, hf]
    intro he
    rw [Option.some.inj he] at hc
    exact absurd hc (by decide)
  | .single .root ss => exact nofun
  | .single .current ss => exact nofun
  | .nodes .root ss => exact nofun
  | .nodes .current ss => exact nofun

/-! ### Texts with parts -/

/-- The sign of an anchor, whatever follows. -/
theorem Anchor.spells (a : Anchor) {cs : List Char} {ts : List Token} {ok : List Char → Prop}
    (h : Spells ok cs ts) : Spells ok (a.sign :: cs) (a.token :: ts) := by
  have hsign : Spells (fun _ => True) [a.sign] [a.token] := by
    cases a with
    | root => exact .single fun _ _ => cutsOff_of_scanChar rfl rfl
    | current => exact .single fun _ _ => cutsOff_of_scanChar rfl rfl
  exact hsign.append h fun _ _ => trivial

mutual

/-- A selector is cut into its tokens, as are the other parts of a query: the induction is on all of
them together. -/
theorem Selector.spells (s : Selector) (h : s.isSpellable = true) :
    Spells EndsNumber s.text s.tokens := by
  match s with
  | .name s => exact (literalText_spells s).mono fun _ _ => trivial
  | .shorthand s => exact (literalText_spells s).mono fun _ _ => trivial
  | .wildcard => exact .single fun _ _ => cutsOff_of_scanChar rfl rfl
  | .index i => exact integer_spells i
  | .slice s => exact s.spells
  | .filter e => exact .cons (fun _ _ => cutsOff_of_scanChar rfl rfl) (e.spells h)

/-- A segment. A name behind a dot must be one, and all other selectors stand between brackets. -/
theorem Segment.spells (s : Segment) (h : s.isSpellable = true) :
    Spells EndsName s.text s.tokens := by
  match s with
  | .dot reach (.shorthand s) =>
    refine reach.dots_spells (name_spells h) ?_
    obtain ⟨c, ds, hs, hc, -⟩ := exists_cons_of_isName h
    refine ⟨c, ds, hs, ?_⟩
    rintro rfl
    exact absurd hc (by decide)
  | .dot reach .wildcard =>
    refine reach.dots_spells (.single fun _ _ => cutsOff_of_scanChar rfl rfl) ?_
    exact ⟨'*', [], rfl, by decide⟩
  | .dot reach (.name s) =>
    exact (reach.bracketed_spells (Selector.spells (.name s) h)).mono fun _ _ => trivial
  | .dot reach (.index i) =>
    exact (reach.bracketed_spells (Selector.spells (.index i) h)).mono fun _ _ => trivial
  | .dot reach (.slice s) =>
    exact (reach.bracketed_spells (Selector.spells (.slice s) h)).mono fun _ _ => trivial
  | .dot reach (.filter e) =>
    exact (reach.bracketed_spells (Selector.spells (.filter e) h)).mono fun _ _ => trivial
  | .brackets reach ss =>
    exact (reach.bracketed_spells (selectorTexts_spells ss h)).mono fun _ _ => trivial

/-- Selectors between commas, each with a blank behind it. -/
theorem selectorTexts_spells (ss : List Selector) (h : areSpellableSelectors ss = true) :
    Spells EndsNumber (commaSeparated (selectorTexts ss)) (commaTokens (selectorTokens ss)) := by
  match ss with
  | [] => exact .nil
  | [s] =>
    rw [areSpellableSelectors, Bool.and_eq_true] at h
    exact s.spells h.1
  | s :: s' :: ss =>
    rw [areSpellableSelectors, Bool.and_eq_true] at h
    exact (s.spells h.1).append (.cons (fun _ _ => cutsOff_of_scanChar rfl rfl)
      (selectorTexts_spells (s' :: ss) h.2).blank) fun _ _ => endsNumber_comma _

theorem segmentsText_spells (ss : List Segment) (h : areSpellableSegments ss = true) :
    Spells EndsName (segmentsText ss) (segmentsTokens ss) := by
  match ss with
  | [] => exact .nil
  | s :: ss =>
    rw [areSpellableSegments, Bool.and_eq_true] at h
    exact (s.spells h.1).append (segmentsText_spells ss h.2) fun _ hr => endsName_segmentsText hr ss

/-- An expression. The blanks around an operator and the parentheses keep its tokens apart. -/
theorem Expr.spells (e : Expr) (h : e.isSpellable = true) :
    Spells EndsNumber e.text e.tokens := by
  match e with
  | .integer n => exact integer_spells n
  | .float x => exact .single fun _ hr => cutsOff_float literalLayout h hr
  | .string s => exact (literalText_spells s).mono fun _ _ => trivial
  | .bool true => exact .single fun _ hr => cutsOff_name (by decide) hr.endsName
  | .bool false => exact .single fun _ hr => cutsOff_name (by decide) hr.endsName
  | .null => exact .single fun _ hr => cutsOff_name (by decide) hr.endsName
  | .binary op l r =>
    rw [Expr.isSpellable, Bool.and_eq_true] at h
    rw [Expr.text, List.append_assoc]
    exact (l.spells h.1).append (op.spells (r.spells h.2)).blank fun _ _ => endsNumber_blank _
  | .not e =>
    exact .cons (fun rest _ => cutsOff_negation (e.head?_text_ne_equals h rest)) (e.spells h)
  | .paren e =>
    have hclose : Spells EndsNumber [')'] [sign .closeParen ')'] :=
      .cons (fun _ _ => cutsOff_of_scanChar rfl rfl) .nil
    exact .cons (fun _ _ => cutsOff_of_scanChar rfl rfl)
      ((e.spells h).append hclose fun _ _ => endsNumber_closeParen _)
  | .call f es =>
    rw [Expr.isSpellable, Bool.and_eq_true] at h
    have hclose : Spells EndsNumber [')'] [sign .closeParen ')'] :=
      .cons (fun _ _ => cutsOff_of_scanChar rfl rfl) .nil
    have hargs : Spells EndsNumber ('(' :: (commaSeparated (exprTexts es) ++ [')'])) _ :=
      .cons (fun _ _ => cutsOff_of_scanChar rfl rfl)
        ((exprTexts_spells es h.2).append hclose fun _ _ => endsNumber_closeParen _)
    rw [Expr.text, List.append_assoc, List.cons_append]
    refine (name_spells h.1).append hargs fun rest _ => ?_
    intro c hc
    cases hc
    decide
  | .single a ss => exact a.spells ((segmentsText_spells ss h).mono fun _ hr => hr.endsName)
  | .nodes a ss => exact a.spells ((segmentsText_spells ss h).mono fun _ hr => hr.endsName)

/-- Arguments between commas, each with a blank behind it. -/
theorem exprTexts_spells (es : List Expr) (h : areSpellableExprs es = true) :
    Spells EndsNumber (commaSeparated (exprTexts es)) (commaTokens (exprTokens es)) := by
  match es with
  | [] => exact .nil
  | [e] =>
    rw [areSpellableExprs, Bool.and_eq_true] at h
    exact e.spells h.1
  | e :: e' :: es =>
    rw [areSpellableExprs, Bool.and_eq_true] at h
    exact (e.spells h.1).append (.cons (fun _ _ => cutsOff_of_scanChar rfl rfl)
      (exprTexts_spells (e' :: es) h.2).blank) fun _ _ => endsNumber_comma _

end

/-- The canonical text of a query is cut into the tokens that are written for it. -/
theorem text_spells {q : Query} (h : areSpellableSegments q.segments = true) :
    Spells EndsName q.text (sign .root '$' :: segmentsTokens q.segments) :=
  .cons (fun _ _ => cutsOff_of_scanChar rfl rfl) (segmentsText_spells q.segments h)

theorem lexemes_text {q : Query} (h : areSpellableSegments q.segments = true) :
    lexemes (q.text.map some) = sign .root '$' :: segmentsTokens q.segments :=
  (text_spells h).lexemes_eq nofun

/-- The tokens of a query that is written are those written for it, and the end of the input. -/
theorem tokenize_toText {q : Query} (h : areSpellableSegments q.segments = true) :
    tokenize q.toText.toUTF8.toList
      = sign .root '$' :: segmentsTokens q.segments ++ [endOfInput] :=
  (text_spells h).tokenize_ofList nofun (by decide)

/-! ## Escaping -/

/-- **Escaping.** Escaping is undone by reading and unescaping. What is written for a text,
between single quotes, is one string token and nothing else, and that token denotes the text. -/
theorem tokenize_escapeText (s : String) :
    let text := String.ofList ('\'' :: escapeText s ++ ['\''])
    tokenize text.toUTF8.toList = [⟨.string, text⟩, endOfInput] ∧ Literal.unescape text = s := by
  intro text
  constructor
  · exact (literalText_spells s).tokenize_ofList trivial (by decide)
  · exact unescape_literalText s

end JsonPath.Query
