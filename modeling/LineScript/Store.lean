import LineScript.Variable

/-!
# The store

A store gives each of the 52 variables an integer or leaves it undefined; it is a partial map from
letters to integers. A variable counts as defined from its first assignment on, whatever the value.

Every variable has a slot from the start, with an integer and a mark that says whether the variable
is defined. A slot without the mark holds zero, so that stores with the same map are equal
(`Store.ext`).
-/

namespace LineScript

/-- The slots of the variables. -/
structure Store where
  /-- The integers in the slots. -/
  values : Vector Int 52
  /-- Which of the variables are defined. -/
  defined : Vector Bool 52
  value_eq_zero : ∀ v : Variable, defined[v] = false → values[v] = 0
  deriving DecidableEq

namespace Store

/-- The store in which no variable is defined. -/
def empty : Store where
  values := Vector.replicate 52 0
  defined := Vector.replicate 52 false
  value_eq_zero _ _ := by simp

/-- The value of a variable, if it is defined. -/
def get? (s : Store) (v : Variable) : Option Int :=
  if s.defined[v] then some s.values[v] else none

/-- The store with one variable set. -/
def set (s : Store) (v : Variable) (value : Int) : Store where
  values := s.values.set v value
  defined := s.defined.set v true
  value_eq_zero w h := by
    have hne : v.val ≠ w.val := fun heq => by simp [heq] at h
    have hkept : s.defined[w] = false := by simpa [hne] using h
    simpa [hne] using s.value_eq_zero w hkept

/-- The value of a variable that has to be defined. -/
def get (s : Store) (v : Variable) : Except Fault Int :=
  match s.get? v with
  | some value => .ok value
  | none => .error (.undefinedVariable v.letter)

/-- The value of the variable that a text names. -/
def lookup (s : Store) (name : Text) : Except Fault Int := do
  s.get (← Variable.resolve name)

/-- The defined variables and their values, in order. -/
def bindings (s : Store) : List (Variable × Int) :=
  Variable.all.filterMap fun v => (s.get? v).map fun value => (v, value)

/-- The store that results from setting variables one after the other. -/
def ofBindings (bs : List (Variable × Int)) : Store :=
  bs.foldl (fun s b => s.set b.1 b.2) empty

/-- The store that holds a partial map. -/
def ofFn (f : Variable → Option Int) : Store where
  values := Vector.ofFn fun v => (f v).getD 0
  defined := Vector.ofFn fun v => (f v).isSome
  value_eq_zero v h := by
    have hnone : f v = none := by simpa using h
    simp [hnone]

@[simp] theorem get?_empty (v : Variable) : empty.get? v = none := by
  simp [empty, get?]

theorem get?_set (s : Store) (v w : Variable) (value : Int) :
    (s.set v value).get? w = if v = w then some value else s.get? w := by
  by_cases h : v.val = w.val <;> simp [set, get?, Fin.ext_iff, h]

@[simp] theorem get?_ofFn (f : Variable → Option Int) (v : Variable) : (ofFn f).get? v = f v := by
  cases h : f v <;> simp [ofFn, get?, h]

/-- The mark of a slot tells whether the variable is defined. -/
theorem isSome_get? (s : Store) (v : Variable) : (s.get? v).isSome = s.defined[v] := by
  rw [get?]
  cases s.defined[v] <;> rfl

/-- A slot holds the value of the variable, and zero if it is undefined. -/
theorem getD_get? (s : Store) (v : Variable) : (s.get? v).getD 0 = s.values[v] := by
  rw [get?]
  cases h : s.defined[v] with
  | true => rfl
  | false => exact (s.value_eq_zero v h).symm

/-- Two stores are equal when they give every variable the same value. -/
@[ext] theorem ext {s t : Store} (h : ∀ v, s.get? v = t.get? v) : s = t := by
  have hvalues : s.values = t.values := by
    ext i hi : 1
    have hslot := congrArg (Option.getD · 0) (h ⟨i, hi⟩)
    simpa [getD_get?] using hslot
  have hdefined : s.defined = t.defined := by
    ext i hi : 1
    have hslot := congrArg Option.isSome (h ⟨i, hi⟩)
    simpa [isSome_get?] using hslot
  cases s
  cases t
  congr

end Store

end LineScript
