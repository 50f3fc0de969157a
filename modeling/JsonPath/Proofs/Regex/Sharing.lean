import Mathlib.Data.List.Basic
import Mathlib.Logic.Function.Basic
import JsonPath.Proofs.Cancellation
import JsonPath.Proofs.Regex.Anchoring

/-!
# Callers that share what is remembered

Copies of a registry share the functions that look for expressions, and with them the two caches.
Looking into a cache and remembering in it are separate steps, so several callers may look for an
expression before any of them has remembered it, or find that there is no room left for it.

A `Scene` is what such callers share and how far each of them has come, and a turn is one step of
one of them (`Call.turn`, `Call.Move`). Whatever the turns are, everything in a cache is what making
it anew would give (`Cache.IsKept`, `Scene.Sound`), so what is remembered is not seen in any answer
(`Scene.play_start`). Callers who do not interrupt each other are a run
(`Scene.play_undisturbed`).
-/

namespace JsonPath.Regex

/-! ## Caches -/

namespace Cache

variable {extent : Extent} {c : Cache} {P : String → Prop} {pattern : String}

/-- What is true of a cache at any time, for expressions with some property. -/
structure IsKept (extent : Extent) (P : String → Prop) (c : Cache) : Prop where
  /-- what is remembered is what making it anew would give -/
  sound : c.Sound extent
  /-- only such expressions are remembered -/
  keys : ∀ e ∈ c.entries, P e.1
  /-- none is remembered twice -/
  distinct : (c.entries.map Prod.fst).Nodup
  /-- there are no more than there is room for -/
  fits : c.entries.length ≤ capacity

theorem isKept_empty : empty.IsKept extent P where
  sound := sound_empty extent
  keys := nofun
  distinct := .nil
  fits := Nat.zero_le _

/-- Remembering one more expression keeps that, also if there is no room for it. -/
theorem IsKept.insert (h : c.IsKept extent P) (hp : P pattern) :
    (c.insert pattern (compile? extent pattern)).IsKept extent P := by
  have hsound := h.sound.insert pattern
  unfold Cache.insert at hsound ⊢
  split
  · next hroom =>
    rw [if_pos hroom] at hsound
    have hsub := List.filter_sublist (l := c.entries) (p := fun e => e.1 != pattern)
    refine ⟨hsound, ?_, ?_, ?_⟩
    · refine List.forall_mem_cons.mpr ⟨hp, fun e he => ?_⟩
      exact h.keys e (List.mem_of_mem_filter he)
    · refine List.nodup_cons.mpr ⟨?_, (hsub.map _).nodup h.distinct⟩
      simp
    · have hle := hsub.length_le
      rw [List.length_cons]
      omega
  · exact h

end Cache

/-- The cache for patterns of an extent. -/
def Memo.cache (m : Memo) : Extent → Cache
  | .whole => m.whole.1
  | .part => m.part.1

/-- To compile a pattern changes one of the two caches. -/
theorem Memo.cache_compile (m : Memo) (extent : Extent) (pattern : String) :
    (m.compile extent pattern).2.cache
      = Function.update m.cache extent ((m.cache extent).compile extent pattern).2 := by
  funext e
  cases extent <;> cases e <;> rfl

theorem Memo.sound_cache (m : Memo) (extent : Extent) : (m.cache extent).Sound extent := by
  cases extent
  · exact m.whole.2
  · exact m.part.2

/-! ## Calls -/

/-- A call of one of the two functions that look for expressions, in a registry that has it. -/
structure Call where
  registry : Registry
  /-- which of the two functions is called -/
  extent : Extent
  arguments : List Value
  /-- the registry has not replaced the function -/
  shares : registry.lookup? extent.functionName = Registry.builtin.lookup? extent.functionName

namespace Call

variable (c : Call)

/-- The call as a part of a run. -/
def run : Eval Value := c.registry.call c.extent.functionName c.arguments

/-- What the call answers if nothing is remembered. -/
def answer : Value :=
  match textAndPattern? c.arguments with
  | some (text, pattern) => .logical (accepts (compile? c.extent pattern) text)
  | none => blankAnswer c.arguments

theorem run_eq (r : Run) : c.run.run.run r = respond c.extent c.arguments r := by
  rw [run, Registry.call, c.shares, Registry.lookup?_functionName]
  exact run_invoke_matching ..

/-- Whatever a run remembers, a call gives its answer. -/
theorem run_fst (r : Run) : (c.run.run.run r).1 = .ok c.answer := by
  rw [run_eq, respond, answer]
  cases textAndPattern? c.arguments with
  | none => rfl
  | some subject =>
    dsimp only
    rw [Memo.compile_fst]

/-- A call leaves the cache of the other extent as it is. -/
theorem run_cache_of_ne (r : Run) {extent : Extent} (h : extent ≠ c.extent) :
    (c.run.run.run r).2.memo.cache extent = r.memo.cache extent := by
  rw [run_eq, respond]
  split
  · rw [Memo.cache_compile, Function.update_of_ne h]
  · rfl

end Call

/-! ## Callers -/

/-- How far a caller has come. -/
inductive Stage where
  /-- the cache has not been looked at yet -/
  | asked
  /-- the expression was not found there -/
  | missed
  | answered (v : Value)

/-- How many turns a caller still needs at most. -/
def Stage.left : Stage → Nat
  | asked => 2
  | missed => 1
  | answered _ => 0

/-- What a caller does in one turn: it looks whether its expression is remembered, or it makes the
pattern anew and remembers it. A cache out of reach is passed over. -/
def Call.turn (c : Call) (reaches : Bool) (cache : Cache) (stage : Stage) : Stage × Cache :=
  match stage, textAndPattern? c.arguments with
  | .answered v, _ => (.answered v, cache)
  | _, none => (.answered (blankAnswer c.arguments), cache)
  | .asked, some (text, pattern) =>
    match if reaches then cache.find? pattern else none with
    | some compiled => (.answered (.logical (accepts compiled text)), cache)
    | none => (.missed, cache)
  | .missed, some (text, pattern) =>
    let compiled := compile? c.extent pattern
    (.answered (.logical (accepts compiled text)),
      if reaches then cache.insert pattern compiled else cache)

namespace Call

variable {c : Call} {cache : Cache} {stage : Stage} {P : String → Prop}

/-- What can happen in a turn, to how far the caller has come and to its cache. -/
inductive Move (c : Call) (cache : Cache) : Stage → Stage → Cache → Prop
  /-- the caller has its answer already -/
  | settled (v : Value) : Move c cache (.answered v) (.answered v) cache
  /-- there is no expression to look for -/
  | blank {stage : Stage} (h : textAndPattern? c.arguments = none) :
    Move c cache stage (.answered (blankAnswer c.arguments)) cache
  | found {text pattern : String} {compiled : Option Pattern}
    (h : textAndPattern? c.arguments = some (text, pattern))
    (hfound : cache.find? pattern = some compiled) :
    Move c cache .asked (.answered (.logical (accepts compiled text))) cache
  | notFound : Move c cache .asked .missed cache
  | made {text pattern : String} {cache' : Cache}
    (h : textAndPattern? c.arguments = some (text, pattern))
    (hcache : cache' = cache ∨ cache' = cache.insert pattern (compile? c.extent pattern)) :
    Move c cache .missed (.answered (.logical (accepts (compile? c.extent pattern) text))) cache'

/-- A turn is one of the moves of a call. -/
theorem move_turn (c : Call) (reaches : Bool) (cache : Cache) (stage : Stage) :
    c.Move cache stage (c.turn reaches cache stage).1 (c.turn reaches cache stage).2 := by
  unfold turn
  split
  · exact .settled _
  · next hsubject => exact .blank hsubject
  · next hsubject =>
    split
    · next hfound => exact .found hsubject (Option.ite_none_right_eq_some.mp hfound).2
    · exact .notFound
  · next hsubject =>
    refine .made hsubject ?_
    cases reaches with
    | false => exact .inl rfl
    | true => exact .inr rfl

namespace Move

variable {stage' : Stage} {cache' : Cache}

theorem left_le (h : c.Move cache stage stage' cache') : stage'.left ≤ stage.left - 1 := by
  cases h with
  | notFound => exact Nat.le_refl 1
  | _ => exact Nat.zero_le _

/-- Whoever finds its expression in a cache answers as if nothing were remembered. -/
theorem answer (h : c.Move cache stage stage' cache') (hcache : cache.Sound c.extent)
    (hstage : ∀ v, stage = .answered v → v = c.answer) (v : Value)
    (hv : stage' = .answered v) : v = c.answer := by
  cases h with
  | settled w => exact hstage v hv
  | blank hsubject =>
    obtain rfl := Stage.answered.inj hv
    rw [Call.answer, hsubject]
  | found hsubject hfound =>
    obtain rfl := Stage.answered.inj hv
    rw [Call.answer, hsubject, hcache.find? hfound]
  | notFound => cases hv
  | made hsubject =>
    obtain rfl := Stage.answered.inj hv
    rw [Call.answer, hsubject]

/-- What holds of all patterns that are kept still holds behind a move, if it holds of the pattern
of the call. -/
theorem isKept (h : c.Move cache stage stage' cache') (hcache : cache.IsKept c.extent P)
    (hP : ∀ text pattern, textAndPattern? c.arguments = some (text, pattern) → P pattern) :
    cache'.IsKept c.extent P := by
  cases h with
  | made hsubject hmade =>
    obtain rfl | rfl := hmade
    · exact hcache
    · exact hcache.insert (hP _ _ hsubject)
  | _ => exact hcache

end Move

/-- Two turns in a row are what the call does in a run. -/
theorem turn_turn (c : Call) (r : Run) :
    let first := c.turn true (r.memo.cache c.extent) .asked
    c.turn true first.2 first.1
      = (.answered c.answer, (c.run.run.run r).2.memo.cache c.extent) := by
  cases hsubject : textAndPattern? c.arguments with
  | none => simp only [run_eq, respond, turn, answer, hsubject]
  | some subject =>
    obtain ⟨text, pattern⟩ := subject
    have hcache : (c.run.run.run r).2.memo.cache c.extent
        = ((r.memo.cache c.extent).compile c.extent pattern).2 := by
      rw [run_eq, respond, hsubject, Memo.cache_compile, Function.update_self]
    rw [hcache, Cache.compile, answer, hsubject]
    cases hfound : (r.memo.cache c.extent).find? pattern with
    | none => simp [turn, hsubject, hfound]
    | some compiled =>
      have hsound := (r.memo.sound_cache c.extent).find? hfound
      simp [turn, hsubject, hfound, hsound]

end Call

/-- What several callers share, and how far they have come. -/
structure Scene (ι : Type) where
  caches : Extent → Cache
  stages : ι → Stage

/-- The turn of a caller. The cache is out of reach if another caller broke down over it. -/
structure Turn (ι : Type) where
  caller : ι
  reaches : Bool

namespace Scene

variable {ι : Type} [DecidableEq ι] (calls : ι → Call)

/-- Nothing is remembered, and nobody has had a turn. -/
def start : Scene ι := ⟨fun _ => .empty, fun _ => .asked⟩

/-- How far the caller whose turn it is comes, and what is in its cache then. -/
def outcome (s : Scene ι) (t : Turn ι) : Stage × Cache :=
  (calls t.caller).turn t.reaches (s.caches (calls t.caller).extent) (s.stages t.caller)

/-- The scene after the turn of a caller. -/
def turn (s : Scene ι) (t : Turn ι) : Scene ι where
  caches := Function.update s.caches (calls t.caller).extent (s.outcome calls t).2
  stages := Function.update s.stages t.caller (s.outcome calls t).1

/-- The scene after any turns, in which the callers alternate in whatever way. -/
def play (s : Scene ι) (turns : List (Turn ι)) : Scene ι := turns.foldl (turn calls) s

@[simp]
theorem caches_turn (s : Scene ι) (t : Turn ι) :
    (s.turn calls t).caches
      = Function.update s.caches (calls t.caller).extent (s.outcome calls t).2 := rfl

@[simp]
theorem stages_turn (s : Scene ι) (t : Turn ι) :
    (s.turn calls t).stages = Function.update s.stages t.caller (s.outcome calls t).1 := rfl

variable {calls} {s s' : Scene ι} {extent : Extent} {t : Turn ι}

/-! ### Answers -/

/-- Some caller looks for the expression. -/
def Asked (calls : ι → Call) (extent : Extent) (pattern : String) : Prop :=
  ∃ i text, (calls i).extent = extent ∧
    textAndPattern? (calls i).arguments = some (text, pattern)

/-- What is true of a scene at any time. -/
structure Sound (calls : ι → Call) (s : Scene ι) : Prop where
  caches : ∀ extent, (s.caches extent).IsKept extent (Asked calls extent)
  answers : ∀ i v, s.stages i = .answered v → v = (calls i).answer

omit [DecidableEq ι] in
theorem sound_start : start.Sound calls := ⟨fun _ => Cache.isKept_empty, nofun⟩

/-- A turn keeps that: the caller puts nothing but its own expression into its own cache. -/
theorem Sound.turn (h : s.Sound calls) (t : Turn ι) : (s.turn calls t).Sound calls := by
  have hmove := (calls t.caller).move_turn t.reaches (s.caches (calls t.caller).extent)
    (s.stages t.caller)
  have hcaches := hmove.isKept (h.caches _)
    fun text pattern hsubject => ⟨t.caller, text, rfl, hsubject⟩
  have hanswers := hmove.answer (h.caches _).sound (h.answers t.caller)
  constructor
  · intro e
    by_cases he : e = (calls t.caller).extent
    · rw [he, caches_turn, Function.update_self]
      exact hcaches
    · rw [caches_turn, Function.update_of_ne he]
      exact h.caches e
  · intro i
    by_cases hi : i = t.caller
    · rw [hi, stages_turn, Function.update_self]
      exact hanswers
    · rw [stages_turn, Function.update_of_ne hi]
      exact h.answers i

/-- Behind any turns, the scene is sound. -/
theorem Sound.play (h : s.Sound calls) (turns : List (Turn ι)) :
    (s.play calls turns).Sound calls := by
  induction turns generalizing s with
  | nil => exact h
  | cons t turns ih => exact ih (h.turn t)

/-! ### Progress -/

/-- A turn of a call leaves fewer turns of it. -/
theorem left_turn_le (calls : ι → Call) (s : Scene ι) (t : Turn ι) (i : ι) :
    ((s.turn calls t).stages i).left ≤ (s.stages i).left - if t.caller = i then 1 else 0 := by
  by_cases hi : i = t.caller
  · rw [hi, if_pos rfl, stages_turn, Function.update_self]
    exact ((calls t.caller).move_turn ..).left_le
  · rw [if_neg (Ne.symm hi), stages_turn, Function.update_of_ne hi]
    exact Nat.le_refl _

/-- With every turn, a caller needs one turn less. -/
theorem left_play_le (calls : ι → Call) (s : Scene ι) (turns : List (Turn ι)) (i : ι) :
    ((s.play calls turns).stages i).left ≤ (s.stages i).left - turns.countP (·.caller = i) := by
  induction turns generalizing s with
  | nil => exact Nat.le_refl _
  | cons t turns ih =>
    have hfirst := left_turn_le calls s t i
    have hrest := ih (s.turn calls t)
    simp only [List.countP_cons, decide_eq_true_eq]
    change (((s.turn calls t).play calls turns).stages i).left ≤ _
    omega

/-! ### Separate caches -/

/-- Two scenes agree on everything that has to do with an extent. -/
structure AgreesOn (calls : ι → Call) (extent : Extent) (s s' : Scene ι) : Prop where
  caches : s.caches extent = s'.caches extent
  stages : ∀ i, (calls i).extent = extent → s.stages i = s'.stages i

/-- Scenes that agree on a cache still do so behind a turn at it. -/
theorem AgreesOn.turn (h : AgreesOn calls extent s s') (ht : (calls t.caller).extent = extent) :
    AgreesOn calls extent (s.turn calls t) (s'.turn calls t) := by
  have houtcome : s.outcome calls t = s'.outcome calls t := by
    rw [outcome, outcome, ht, h.caches, h.stages t.caller ht]
  constructor
  · rw [caches_turn, caches_turn, ht, Function.update_self, Function.update_self, houtcome]
  · intro i hi
    by_cases hit : i = t.caller
    · rw [hit, stages_turn, stages_turn, Function.update_self, Function.update_self, houtcome]
    · rw [stages_turn, stages_turn, Function.update_of_ne hit, Function.update_of_ne hit,
        h.stages i hi]

/-- A turn at another cache does not matter. -/
theorem AgreesOn.turn_of_ne (h : AgreesOn calls extent s s')
    (ht : (calls t.caller).extent ≠ extent) : AgreesOn calls extent (s.turn calls t) s' := by
  constructor
  · rw [caches_turn, Function.update_of_ne (Ne.symm ht), h.caches]
  · intro i hi
    have hit : i ≠ t.caller := fun hit => ht (hit ▸ hi)
    rw [stages_turn, Function.update_of_ne hit, h.stages i hi]

/-- The turns of the callers for one extent decide alone about its cache and about their answers. -/
theorem AgreesOn.play (h : AgreesOn calls extent s s') (turns : List (Turn ι)) :
    AgreesOn calls extent (s.play calls turns)
      (s'.play calls (turns.filter fun t => (calls t.caller).extent = extent)) := by
  induction turns generalizing s s' with
  | nil => exact h
  | cons t turns ih =>
    by_cases ht : (calls t.caller).extent = extent
    · rw [List.filter_cons_of_pos (by simpa using ht)]
      exact ih (h.turn ht)
    · rw [List.filter_cons_of_neg (by simpa using ht)]
      exact ih (h.turn_of_ne ht)

/-! ### Callers one after another -/

/-- Two turns of a caller who has not had any are its call. -/
theorem caches_turn_turn {r : Run} (hcaches : s.caches = r.memo.cache) {i : ι}
    (hasked : s.stages i = .asked) :
    ((s.turn calls ⟨i, true⟩).turn calls ⟨i, true⟩).caches
      = ((calls i).run.run.run r).2.memo.cache := by
  have hturns := congrArg Prod.snd ((calls i).turn_turn r)
  funext extent
  by_cases he : extent = (calls i).extent
  · rw [he]
    refine Eq.trans ?_ hturns
    simp [outcome, hcaches, hasked]
  · rw [(calls i).run_cache_of_ne r he]
    simp [he, hcaches]

/-- Callers who have their turns one after another do what a run does in which they call. -/
theorem play_undisturbed (is : List ι) (hnodup : is.Nodup) {r : Run}
    (hcaches : s.caches = r.memo.cache) (hasked : ∀ i ∈ is, s.stages i = .asked) :
    ∃ r', (is.mapM fun i => (calls i).run).run.run r
        = (.ok (is.map fun i => (calls i).answer), r') ∧
      (s.play calls (is.flatMap fun i => [⟨i, true⟩, ⟨i, true⟩])).caches = r'.memo.cache := by
  induction is generalizing s r with
  | nil => exact ⟨r, rfl, hcaches⟩
  | cons i is ih =>
    obtain ⟨hi, hnodup⟩ := List.nodup_cons.mp hnodup
    have hrest : ∀ j ∈ is, ((s.turn calls ⟨i, true⟩).turn calls ⟨i, true⟩).stages j = .asked := by
      intro j hj
      have hji : j ≠ i := fun h => hi (h ▸ hj)
      simp [hji, hasked j (List.mem_cons_of_mem i hj)]
    obtain ⟨r', hrun, hplay⟩ := ih hnodup (caches_turn_turn hcaches (hasked i List.mem_cons_self))
      hrest
    refine ⟨r', ?_, hplay⟩
    have hfirst : (calls i).run.run.run r = (.ok (calls i).answer, _) :=
      Prod.ext ((calls i).run_fst r) rfl
    rw [List.mapM_cons, Eval.run_bind_ok hfirst, Eval.run_bind_ok hrun]
    rfl

/-! ### Any callers -/

/-- **Sharing.** Callers share what is remembered and have their turns in any order, and a cache
may break down over one of them. Whoever is answered is answered as in a run in which nobody
called before, and after two turns everyone is. The cache of an extent holds what is made of the
expressions that are asked about for it, no more than there is room for, and only their callers
have to do with it. -/
theorem play_start (calls : ι → Call) (turns : List (Turn ι)) :
    let s := start.play calls turns
    (∀ i v, s.stages i = .answered v →
      (∀ signal, ((calls i).run.run.run (.start signal)).1 = .ok v) ∧
      ∀ text pattern, textAndPattern? (calls i).arguments = some (text, pattern) →
        v = .logical (accepts (compile? (calls i).extent pattern) text)) ∧
    (∀ i, 2 ≤ turns.countP (·.caller = i) → ∃ v, s.stages i = .answered v) ∧
    (∀ extent, (s.caches extent).IsKept extent (Asked calls extent)) ∧
    ∀ extent, AgreesOn calls extent s
      (start.play calls (turns.filter fun t => (calls t.caller).extent = extent)) := by
  have hsound : (start.play calls turns).Sound calls := sound_start.play turns
  refine ⟨fun i v hv => ?_, fun i hturns => ?_, hsound.caches, fun extent => ?_⟩
  · obtain rfl := hsound.answers i v hv
    refine ⟨fun signal => (calls i).run_fst (.start signal), fun text pattern hsubject => ?_⟩
    rw [Call.answer, hsubject]
  · have hleft := left_play_le calls start turns i
    have hstart : (start.stages i : Stage).left = 2 := rfl
    cases hstage : (start.play calls turns).stages i with
    | answered v => exact ⟨v, rfl⟩
    | asked =>
      rw [hstage, hstart] at hleft
      simp only [Stage.left] at hleft
      omega
    | missed =>
      rw [hstage, hstart] at hleft
      simp only [Stage.left] at hleft
      omega
  · exact AgreesOn.play ⟨rfl, fun _ _ => rfl⟩ turns

/-- Two callers look for the same expression before either of them has remembered it. Both are
answered, and it is remembered once. -/
theorem play_start_two :
    let calls : Bool → Call := fun _ =>
      ⟨.builtin, .whole, [.primitive (.string "b"), .primitive (.string "a|b")], rfl⟩
    let s := start.play calls [⟨false, true⟩, ⟨true, true⟩, ⟨false, true⟩, ⟨true, true⟩]
    (∀ i, s.stages i = .answered (.logical true)) ∧
      (s.caches .whole).Sound .whole ∧
      (s.caches .whole).entries.map Prod.fst = ["a|b"] ∧
      (s.caches .part).entries.map Prod.fst = [] := by
  intro calls s
  obtain ⟨hanswers, hanswered, hcaches, -⟩ :=
    play_start calls [⟨false, true⟩, ⟨true, true⟩, ⟨false, true⟩, ⟨true, true⟩]
  have haccepts : accepts (compile? .whole "a|b") "b" = true := by decide +kernel
  refine ⟨fun i => ?_, (hcaches .whole).sound, rfl, rfl⟩
  obtain ⟨v, hv⟩ := hanswered i (by cases i <;> decide)
  have hvalue : v = .logical (accepts (compile? .whole "a|b") "b") := (hanswers i v hv).2 _ _ rfl
  rw [haccepts] at hvalue
  rw [← hvalue]
  exact hv

end Scene

end JsonPath.Regex
