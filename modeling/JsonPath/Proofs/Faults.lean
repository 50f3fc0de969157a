import JsonPath.Proofs.Grammar.Decision
import JsonPath.Proofs.Reading.Orderly

/-!
# Where reading stops

An error is decided by the tokens up to the one it reports (`ofBytes_error_of_agrees`), and what it
reports about that token is so; without an error, all tokens have been passed over
(`ofBytes_points_or_consumes`). Both rest on every step of reading being `Orderly`.
-/

namespace JsonPath.Query

open JsonPath.Token Grammar

/-! ## Errors are decided early -/

theorem ofTokens_eq_error_iff {ts : List Token} {e : ParseError} :
    ofTokens ts = .error e ↔ Program.query ⟨[], ts⟩ = .error e := by
  rw [ofTokens_eq]
  constructor
  · intro h
    cases ho : Program.query ⟨[], ts⟩ with
    | error e' =>
      rw [ho] at h
      cases h
      rfl
    | ok p =>
      rw [ho] at h
      cases h
  · intro h
    rw [h]
    rfl

/-- The tokens up to the reach of an error decide it. -/
theorem ofTokens_error_of_agrees {ts ts' : List Token} {e : ParseError}
    (h : ofTokens ts = .error e)
    (ha : ∀ k ≤ e.reach, ts'.getD k endOfInput = ts.getD k endOfInput) :
    ofTokens ts' = .error e := by
  rw [ofTokens_eq_error_iff] at h ⊢
  have hagree : Cursor.AgreesTo e.reach ⟨[], ts⟩ ⟨[], ts'⟩ := by
    refine ⟨rfl, fun k hk => ha k ?_⟩
    rwa [Cursor.position, List.length_nil, Nat.zero_add] at hk
  have hreach : reach (Program.query ⟨[], ts⟩) ≤ e.reach := by
    rw [h]
    exact Nat.le_refl _
  have hsteady := (query_orderly ⟨[], ts⟩).steady e.reach ⟨[], ts'⟩ hreach hagree
  rw [h] at hsteady
  generalize Program.query ⟨[], ts'⟩ = o at hsteady ⊢
  cases hsteady
  rfl

/-- **Locality of errors.** An error is decided by the tokens up to the one at fault, or up to
the one behind it if an operand is at fault. -/
theorem ofBytes_error_of_agrees {octets octets' : List UInt8} {e : ParseError}
    (h : ofBytes octets = .error e)
    (ha : ∀ k ≤ e.reach,
      (tokenize octets').getD k endOfInput = (tokenize octets).getD k endOfInput) :
    ofBytes octets' = .error e :=
  ofTokens_error_of_agrees h ha

/-- The operator behind `@.*` is the last token that counts, so the parenthesis behind it does not
come up. -/
theorem ofBytes_error_of_agrees_operand :
    ofBytes "$[?@.* == 1]".toUTF8.toList = .error ⟨.nonSingular, "*", 5⟩ ∧
      ofBytes "$[?@.*==)..".toUTF8.toList = .error ⟨.nonSingular, "*", 5⟩ := by
  have ht : tokenize "$[?@.* == 1]".toUTF8.toList = [⟨.root, "$"⟩, ⟨.openBracket, "["⟩,
      ⟨.questionMark, "?"⟩, ⟨.current, "@"⟩, ⟨.dot, "."⟩, ⟨.asterisk, "*"⟩, ⟨.equal, "=="⟩,
      ⟨.integer, "1"⟩, ⟨.closeBracket, "]"⟩, endOfInput] := by decide +kernel
  have ht' : tokenize "$[?@.*==)..".toUTF8.toList = [⟨.root, "$"⟩, ⟨.openBracket, "["⟩,
      ⟨.questionMark, "?"⟩, ⟨.current, "@"⟩, ⟨.dot, "."⟩, ⟨.asterisk, "*"⟩, ⟨.equal, "=="⟩,
      ⟨.closeParen, ")"⟩, ⟨.dotDot, ".."⟩, endOfInput] := by decide +kernel
  have h : ofBytes "$[?@.* == 1]".toUTF8.toList = .error ⟨.nonSingular, "*", 5⟩ := by
    rw [ofBytes, ht]
    cbv
  refine ⟨h, ofBytes_error_of_agrees h ?_⟩
  rw [ht, ht']
  decide

/-! ## What errors report -/

/-- The token number `i` is the last one of an embedded query next to a comparison operator, and
the query is not singular. -/
inductive EndsNonSingular (ts : List Token) : Nat → Prop
  | mk {front t us behind a ss} (hts : ts = front ++ t :: us ++ behind) (ht : IsAnchor t a)
      (hs : IsSegments us ss) (hend : Phrase.EndsSegments (behind.headD endOfInput).kind)
      (hsing : ss.all Segment.isSingular = false)
      (hop : (front.getLastD endOfInput).kind.isComparison = true ∨
        (behind.headD endOfInput).kind.isComparison = true) :
      EndsNonSingular ts (front.length + us.length)

/-- The error reports the text and the number of one of the tokens, with a cause that this token
gives. -/
inductive PointsAt (ts : List Token) : ParseError → Prop
  | unexpectedToken {i t} (ht : ts[i]? = some t) (hk : t.kind ≠ .endOfInput) :
      PointsAt ts ⟨.unexpectedToken, t.text, i⟩
  | unexpectedEnd {i t} (ht : ts[i]? = some t) (hk : t.kind = .endOfInput) :
      PointsAt ts ⟨.unexpectedEnd, t.text, i⟩
  | invalidLiteral {i t} (ht : ts[i]? = some t) (hk : t.kind = .integer ∨ t.kind = .decimal) :
      PointsAt ts ⟨.invalidLiteral, t.text, i⟩
  | nonSingular {i t} (ht : ts[i]? = some t) (hq : EndsNonSingular ts i) :
      PointsAt ts ⟨.nonSingular, t.text, i⟩
  | missingRoot {i t} (ht : ts[i]? = some t) (hk : t.kind ≠ .root) :
      PointsAt ts ⟨.missingRoot, t.text, i⟩

/-- Reading passes over each of the tokens once: over the root sign, with or without a byte order
mark in front of it, over the segments of the query, and over the end of the input. -/
inductive Consumes (ts : List Token) (q : Query) : Prop
  | mk {opening c us d} (ho : Cursor.Through ⟨[], ts⟩ opening c)
      (hk : opening.map Token.kind = [.root] ∨ opening.map Token.kind = [.byteOrderMark, .root])
      (hs : Reads (Phrase.segments c) q.segments d) (hu : c.Through us d)
      (he : Reads (Phrase.expect d .endOfInput) () ⟨ts.reverse, []⟩)

namespace Phrase

/-- Segments are read as long as there are any. -/
theorem ends_of_reads_segments (c : Cursor) {d : Cursor} {ss : List Segment}
    (h : Reads (segments c) ss d) : EndsSegments d.kind := by
  cases reads_segments_iff.mp h with
  | brackets hk hs hm =>
    have hc := Cursor.size_skip_lt hk (by decide)
    have h₁ := hs.size_le
    exact ends_of_reads_segments _ hm
  | dot hk hs hm =>
    have hc := Cursor.size_skip_lt hk (by decide)
    have h₁ := hs.size_le
    exact ends_of_reads_segments _ hm
  | descendantBrackets hk _ hs hm =>
    have hc := Cursor.size_skip_lt hk (by decide)
    have hc' := c.skip.size_skip_le
    have h₁ := hs.size_le
    exact ends_of_reads_segments _ hm
  | descendantDot hk _ hs hm =>
    have hc := Cursor.size_skip_lt hk (by decide)
    have h₁ := hs.size_le
    exact ends_of_reads_segments _ hm
  | none h₁ h₂ h₃ => exact ⟨h₁, h₂, h₃⟩
termination_by c.size

end Phrase

/-- All tokens are before the place or behind it. -/
theorem Cursor.Through.eq_append {ts us : List Token} {d : Cursor}
    (h : Cursor.Through ⟨[], ts⟩ us d) : ts = d.before.reverse ++ d.after := by
  rw [h.before, List.append_nil, List.reverse_reverse]
  exact h.after

/-- The end of the input is ahead of every stretch. -/
theorem Cursor.Through.getElem?_position {ts us : List Token} {e : Token} {d : Cursor}
    (h : Cursor.Through ⟨[], ts ++ [e]⟩ us d) (he : e.kind = .endOfInput) :
    (ts ++ [e])[d.position]? = some d.token := by
  obtain ⟨before, after⟩ := d
  rw [h.eq_append]
  cases after with
  | nil =>
    have hts : ts ++ [e] = us := h.after.trans (List.append_nil us)
    exact absurd he (h.inside e (hts ▸ List.mem_append_right _ (List.mem_singleton_self e)))
  | cons t after => simp [Cursor.position, Cursor.token]

/-- The token before a place, if there is one. -/
theorem Cursor.Through.getElem?_last {ts us b : List Token} {t : Token} {d : Cursor}
    (h : Cursor.Through ⟨[], ts⟩ us d) (hb : d.before = t :: b) :
    ts[d.position - 1]? = some d.last := by
  rw [h.eq_append, Cursor.position, Cursor.last, hb]
  simp

/-- An embedded query is where the tokens before its end are. -/
theorem endsNonSingular {ts us b : List Token} {c d : Cursor} {t : Token} {a : Anchor}
    {ss : List Segment} (hd : Cursor.Through ⟨[], ts⟩ us d) (ht : IsAnchor t a)
    (hb : c.before = t :: b) (hs : Reads (Phrase.segments c) ss d)
    (hsing : ss.all Segment.isSingular = false)
    (hop : (b.headD endOfInput).kind.isComparison = true ∨ d.kind.isComparison = true) :
    EndsNonSingular ts (d.position - 1) := by
  obtain ⟨vs, hv, hvs⟩ := Phrase.segments_sound _ hs
  have hts : ts = b.reverse ++ t :: vs ++ d.after := by
    rw [hd.eq_append, hv.before, hb]
    simp
  have hpos : d.position - 1 = b.reverse.length + vs.length := by
    rw [hv.position_eq, Cursor.position, hb, List.length_reverse, List.length_cons]
    omega
  rw [hpos]
  refine .mk hts ht hvs (Phrase.ends_of_reads_segments _ hs) hsing ?_
  cases b with
  | nil => exact hop
  | cons u b =>
    rw [List.reverse_cons, List.getLastD_concat]
    exact hop

theorem Blames.pointsAt {ts us : List Token} {e : Token} {d : Cursor} {error : ParseError}
    (h : Blames d error) (hd : Cursor.Through ⟨[], ts ++ [e]⟩ us d) (he : e.kind = .endOfInput) :
    PointsAt (ts ++ [e]) error := by
  have ht := hd.getElem?_position he
  cases h with
  | unexpected =>
    rw [Cursor.unexpected]
    split
    · next hk => exact .unexpectedEnd ht hk
    · next hk => exact .unexpectedToken ht hk
  | literal hk => exact .invalidLiteral ht hk
  | missingRoot hk => exact .missingRoot ht hk
  | operand ha hb hs hsing hop =>
    obtain ⟨vs, hv, -⟩ := Phrase.segments_sound _ hs
    obtain ⟨u, x, hx⟩ : ∃ u x, d.before = u :: x :=
      List.exists_cons_of_ne_nil (by rw [hv.before, hb]; simp)
    exact .nonSingular (hd.getElem?_last hx) (endsNonSingular hd ha hb hs hsing hop)

/-- All the tokens of a query that is read are passed over. -/
theorem consumes_of_ofTokens {ts : List Token} {e : Token} {q : Query}
    (hts : ∀ t ∈ ts, t.kind ≠ .endOfInput) (he : e.kind = .endOfInput)
    (h : ofTokens (ts ++ [e]) = .ok q) : Consumes (ts ++ [e]) q := by
  rw [ofTokens_eq_ok_iff_reads] at h
  have hstart : ∃ mark c, Cursor.Through ⟨[], ts ++ [e]⟩ mark c ∧
      (mark.map Token.kind = [] ∨ mark.map Token.kind = [.byteOrderMark]) ∧ ReadsQuery c q := by
    split at h
    · next hk => exact ⟨_, _, .skip hk (by decide), .inr (congrArg (fun k => [k]) hk), h⟩
    · exact ⟨[], _, .nil _, .inl rfl, h⟩
  obtain ⟨mark, c, hm, hmark, hk, d, hs, hd⟩ := hstart
  obtain ⟨us, hu, -⟩ := Phrase.segments_sound _ hs
  have ho := hm.snoc hk (by decide)
  have ht := ho.trans hu
  obtain ⟨-, hafter⟩ := append_eq_append_endOfInput ht.after.symm ht.inside hts he hd
  have hskip : (⟨(ts ++ [e]).reverse, []⟩ : Cursor) = d.skip := by
    rw [ht.eq_append, hafter, List.reverse_append, List.reverse_reverse]
    obtain ⟨before, after⟩ := d
    subst hafter
    rfl
  refine .mk ho ?_ hs hu (Phrase.reads_expect_iff.mpr ⟨hd, hskip⟩)
  have hk' : c.token.kind = .root := hk
  rcases hmark with hmark | hmark
  · exact .inl (by rw [List.map_append, hmark, List.map_singleton, hk']; rfl)
  · exact .inr (by rw [List.map_append, hmark, List.map_singleton, hk']; rfl)

/-- **Position of errors.** Reading fails at one of the tokens and reports it as it is, or it
passes over all tokens. -/
theorem ofBytes_points_or_consumes (octets : List UInt8) :
    match ofBytes octets with
    | .error e => PointsAt (tokenize octets) e
    | .ok q => Consumes (tokenize octets) q := by
  obtain ⟨ts, hts, hinner⟩ := tokenize_eq_append octets
  rw [ofBytes, hts]
  split
  · next e h =>
    rw [ofTokens_eq_error_iff] at h
    obtain ⟨us, d, hd, hb⟩ := (query_orderly _).error e h
    exact hb.pointsAt hd rfl
  · next q h => exact consumes_of_ofTokens hinner rfl h

end JsonPath.Query
