import JsonPath.Function

/-!
# Registries

A registry holds functions of different names. A function that is registered takes the place of the
one of its name. Calling a name that is not registered has no value.
-/

namespace JsonPath

/-- Functions of different names. -/
structure Registry where
  functions : List Function
  distinct : (functions.map Function.name).Nodup

namespace Registry

/-- No functions. -/
def empty : Registry := ⟨[], .nil⟩

/-- The registry with one more function, which replaces any other of its name. -/
def register (r : Registry) (f : Function) : Registry where
  functions := f :: r.functions.filter fun g => g.name != f.name
  distinct := by
    refine List.nodup_cons.2 ⟨?_, (List.filter_sublist.map _).nodup r.distinct⟩
    simp

/-- The registry with several more functions, one after the other. -/
def extend (r : Registry) (fs : List Function) : Registry := fs.foldl register r

/-- The function of a name. -/
def lookup? (r : Registry) (name : String) : Option Function :=
  r.functions.find? fun f => f.name == name

/-- The number of functions. -/
def size (r : Registry) : Nat := r.functions.length

/-- Whether there are no functions. -/
def isEmpty (r : Registry) : Bool := r.functions.isEmpty

/-- Calls the function of a name. -/
def call (r : Registry) (name : String) (vs : List Value) : Eval Value :=
  match r.lookup? name with
  | some f => f.invoke vs
  | none => return .nothing

/-- A function that is registered is found by its name. -/
theorem lookup?_register_self (r : Registry) (f : Function) :
    (r.register f).lookup? f.name = some f := by
  simp [lookup?, register]

/-- Every other name finds what it found before. -/
theorem lookup?_register_of_ne (r : Registry) (f : Function) {name : String} (h : f.name ≠ name) :
    (r.register f).lookup? name = r.lookup? name := by
  have : ∀ fs : List Function, (fs.filter fun g => g.name != f.name).find? (·.name == name)
      = fs.find? (·.name == name) := by
    intro fs
    rw [List.find?_filter]
    congr 1
    funext g
    by_cases hg : g.name = name <;> simp [hg, h.symm]
  simp [lookup?, register, h, this]

end Registry

end JsonPath
