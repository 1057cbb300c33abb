import PodCheck.SortedMap

/-! # Keys of objects

Pods and checks are known by their namespace and name. Keys are ordered by namespace, and by name
within one. -/

namespace PodCheck

/-- The key of an object. -/
structure ObjectKey where
  /-- The namespace. -/
  ns : String
  /-- The name. -/
  name : String
deriving DecidableEq, Inhabited

namespace ObjectKey

instance : Ord ObjectKey := ⟨compareLex (compareOn ObjectKey.ns) (compareOn ObjectKey.name)⟩

instance : Std.TransOrd ObjectKey :=
  inferInstanceAs (Std.TransCmp (compareLex (compareOn ObjectKey.ns) (compareOn ObjectKey.name)))

instance : Std.LawfulEqOrd ObjectKey where
  eq_of_compare {a b} h := by
    have h' : compareLex (compareOn ObjectKey.ns) (compareOn ObjectKey.name) a b = .eq := h
    simp only [compareLex_eq_eq, compareOn, Std.LawfulEqCmp.compare_eq_iff_eq] at h'
    cases a; cases b; simp_all

end ObjectKey

end PodCheck
