import JsonPath.Regex.Interoperable

/-!
# Remembering patterns

A filter asks about the same expression for every child. What was made of an expression is therefore
remembered, also if it is invalid, as long as there is room. Looking up (`Cache.find?`) and
remembering (`Cache.insert`) are separate steps, so several callers may take turns.

A cache is sound if everything in it is what making it anew would give (`Cache.Sound`). Both steps
keep that, so an answer never depends on what was asked before (`Cache.compile_fst`).
-/

namespace JsonPath.Regex

/-- Expressions and what was made of them. -/
structure Cache where
  entries : List (String × Option Pattern)

namespace Cache

/-- The number of expressions that there is room for. -/
def capacity : Nat := 64

/-- Nothing remembered. -/
def empty : Cache := ⟨[]⟩

/-- What was made of an expression, if it is remembered. -/
def find? (c : Cache) (pattern : String) : Option (Option Pattern) :=
  (c.entries.find? fun e => e.1 == pattern).map (·.2)

/-- Remembers what was made of an expression if there is room. It takes the place of what is known
of the same expression. -/
def insert (c : Cache) (pattern : String) (compiled : Option Pattern) : Cache :=
  if c.entries.length < capacity then
    ⟨(pattern, compiled) :: c.entries.filter fun e => e.1 != pattern⟩
  else c

/-- The pattern for an expression, and the cache in which it is remembered. -/
def compile (extent : Extent) (c : Cache) (pattern : String) : Option Pattern × Cache :=
  match c.find? pattern with
  | some compiled => (compiled, c)
  | none => (compile? extent pattern, c.insert pattern (compile? extent pattern))

/-- Whether every entry is what its expression gives anew. -/
def Sound (extent : Extent) (c : Cache) : Prop := ∀ e ∈ c.entries, e.2 = compile? extent e.1

theorem sound_empty (extent : Extent) : empty.Sound extent := fun _ h => nomatch h

/-- What a sound cache finds is what would be compiled. -/
theorem Sound.find? {extent : Extent} {c : Cache} (hc : c.Sound extent) {pattern : String}
    {compiled : Option Pattern} (h : c.find? pattern = some compiled) :
    compiled = compile? extent pattern := by
  obtain ⟨e, he, rfl⟩ := Option.map_eq_some_iff.1 h
  have hkey : e.1 = pattern := by simpa using List.find?_some he
  rw [hc e (List.mem_of_find?_eq_some he), hkey]

/-- A cache stays sound when a compiled pattern is put in. -/
theorem Sound.insert {extent : Extent} {c : Cache} (hc : c.Sound extent) (pattern : String) :
    (c.insert pattern (compile? extent pattern)).Sound extent := by
  unfold Cache.insert
  split
  · intro e he
    rcases List.mem_cons.1 he with rfl | he
    · rfl
    · exact hc e (List.mem_filter.1 he).1
  · exact hc

/-- An answer of a sound cache does not depend on what is in it. -/
theorem compile_fst {extent : Extent} {c : Cache} (hc : c.Sound extent) (pattern : String) :
    (c.compile extent pattern).1 = compile? extent pattern := by
  unfold compile
  split
  · rename_i h
    exact hc.find? h
  · rfl

/-- A cache stays sound when a pattern is looked for, and compiled if it is missing. -/
theorem Sound.compile {extent : Extent} {c : Cache} (hc : c.Sound extent) (pattern : String) :
    (c.compile extent pattern).2.Sound extent := by
  unfold Cache.compile
  split
  · exact hc
  · exact hc.insert pattern

end Cache

/-- A cache in which everything is what it would be if it were made anew. -/
abbrev SoundCache (extent : Extent) := { c : Cache // c.Sound extent }

/-- What a run remembers: patterns for whole texts and patterns for parts of texts, apart from each
other. -/
structure Memo where
  whole : SoundCache .whole
  part : SoundCache .part

namespace Memo

/-- Nothing remembered. -/
def empty : Memo :=
  ⟨⟨.empty, Cache.sound_empty .whole⟩, ⟨.empty, Cache.sound_empty .part⟩⟩

/-- The pattern for an expression, and what is remembered afterwards. -/
def compile (m : Memo) (extent : Extent) (pattern : String) : Option Pattern × Memo :=
  match extent with
  | .whole =>
    let r := m.whole.1.compile .whole pattern
    (r.1, { m with whole := ⟨r.2, m.whole.2.compile pattern⟩ })
  | .part =>
    let r := m.part.1.compile .part pattern
    (r.1, { m with part := ⟨r.2, m.part.2.compile pattern⟩ })

/-- A memo gives what would be compiled, be it kept already or not. -/
theorem compile_fst (m : Memo) (extent : Extent) (pattern : String) :
    (m.compile extent pattern).1 = compile? extent pattern := by
  cases extent
  · exact Cache.compile_fst m.whole.2 pattern
  · exact Cache.compile_fst m.part.2 pattern

end Memo

end JsonPath.Regex
