import JsonPath.Query.Parser

/-!
# Stretches of tokens

What reading a phrase does to a cursor: `c.Through ts d` says that `d` is the place behind the
tokens `ts` that follow `c`, and that none of them is the end of the input. A stretch is
determined by the place where it starts and by its tokens, stretches can be put together
(`Through.trans`) and taken apart (`Through.split`), and a token whose kind is known is a stretch
of one (`Through.skip`).

The rest is about outcomes: `Reads` keeps the proofs that a reading function carries along out of
sight.
-/

namespace JsonPath.Query

open JsonPath.Token

namespace Cursor

/-! ## Stretches -/

/-- The tokens `ts` lead from the place `c` to the place `d`. -/
structure Through (c : Cursor) (ts : List Token) (d : Cursor) : Prop where
  after : c.after = ts ++ d.after
  before : d.before = ts.reverse ++ c.before
  /-- the end of the input is not among the tokens -/
  inside : ∀ t ∈ ts, t.kind ≠ .endOfInput

namespace Through

variable {c d e : Cursor} {t : Token} {ts us : List Token}

theorem nil (c : Cursor) : c.Through [] c :=
  ⟨rfl, rfl, fun _ ht => absurd ht List.not_mem_nil⟩

/-- A token whose kind is known can be skipped, unless it is the end of the input. -/
theorem skip {k : Kind} (h : c.kind = k) (hk : k ≠ .endOfInput) : c.Through [c.token] c.skip := by
  obtain ⟨before, after⟩ := c
  cases after with
  | nil => exact absurd h.symm hk
  | cons t ts =>
    refine ⟨rfl, rfl, ?_⟩
    intro u hu
    rw [List.mem_singleton.mp hu]
    intro hu'
    exact hk (h.symm.trans hu')

/-- Two stretches, one behind the other, are a stretch. -/
theorem trans (h₁ : c.Through ts d) (h₂ : d.Through us e) : c.Through (ts ++ us) e := by
  refine ⟨?_, ?_, ?_⟩
  · rw [h₁.after, h₂.after, List.append_assoc]
  · rw [h₂.before, h₁.before, List.reverse_append, List.append_assoc]
  · intro t ht
    rcases List.mem_append.mp ht with ht | ht
    · exact h₁.inside t ht
    · exact h₂.inside t ht

/-- A token that can be skipped, and a stretch behind it, are a stretch. -/
theorem cons {k : Kind} (h : c.kind = k) (hk : k ≠ .endOfInput) (hs : c.skip.Through ts d) :
    c.Through (c.token :: ts) d :=
  (skip h hk).trans hs

theorem snoc {k : Kind} (hs : c.Through ts d) (h : d.kind = k) (hk : k ≠ .endOfInput) :
    c.Through (ts ++ [d.token]) d.skip :=
  hs.trans (skip h hk)

/-- Every stretch can be left anywhere. -/
theorem split (h : c.Through (ts ++ us) e) : ∃ d, c.Through ts d ∧ d.Through us e := by
  refine ⟨⟨ts.reverse ++ c.before, us ++ e.after⟩, ⟨?_, rfl, ?_⟩, ⟨rfl, ?_, ?_⟩⟩
  · rw [h.after, List.append_assoc]
  · exact fun t ht => h.inside t (List.mem_append_left _ ht)
  · rw [h.before, List.reverse_append, List.append_assoc]
  · exact fun t ht => h.inside t (List.mem_append_right _ ht)

/-- The first token of a stretch is the next one, and the others lie behind it. -/
theorem uncons (h : c.Through (t :: ts) d) : c.token = t ∧ c.skip.Through ts d := by
  obtain ⟨before, after⟩ := c
  have ha : after = t :: (ts ++ d.after) := h.after
  subst ha
  refine ⟨rfl, rfl, ?_, fun u hu => h.inside u (List.mem_cons_of_mem _ hu)⟩
  rw [h.before, List.reverse_cons, List.append_assoc]
  rfl

theorem eq_of_nil (h : c.Through [] d) : d = c := by
  obtain ⟨before, after⟩ := c
  obtain ⟨before', after'⟩ := d
  have ha : after = after' := h.after
  have hb : before' = before := h.before
  rw [ha, hb]

/-- The kind of the next token, at the start of a stretch. -/
theorem kind_eq (h : c.Through (t :: ts) d) : c.kind = t.kind := by
  rw [Cursor.kind, h.uncons.1]

/-- A stretch of one token ends behind it. -/
theorem eq_skip (h : c.Through [t] d) : d = c.skip := eq_of_nil h.uncons.2

end Through

end Cursor

/-! ## Outcomes -/

/-- From the place `c` on, the value `x` is read, up to the place `d`. -/
def Reads {c : Cursor} {α : Type} (o : Outcome α c) (x : α) (d : Cursor) : Prop :=
  ∃ h, o = .ok ⟨x, d, h⟩

/-- No token is given back. -/
theorem Reads.size_le {c d : Cursor} {α : Type} {o : Outcome α c} {x : α} (h : Reads o x d) :
    d.size ≤ c.size := h.1

end JsonPath.Query
