import KubeZap.Controller.ResourceWatcher
import KubeZap.Foundation.ObjectNames
import Mathlib

/-! # Watched fields

`fieldsChanged` compares what `fmt.Sprintf("%v", …)` prints for the two versions of a field. The
texts tell values of one scalar type apart, but not lists.
-/

namespace KubeZap

open Foundation

def watchedValue (field : String) (u : Unstructured) : Option BodyValue :=
  nestedField ((trimStart field ".").splitOn ".") u.object

/-- The texts of scalar values. An integer of an object is an `int64`. -/
structure GoLib.PrintsScalars (lib : GoLib) : Prop where
  string : ∀ s, lib.sprintV (.string s) = s
  bool : ∀ b, lib.sprintV (.bool b) = toString b
  integer : ∀ n : Int, Int64Range n → lib.sprintV (.number n) = toString n

/-- Two versions of a field of one scalar type, which may be missing. -/
inductive Legible : Option BodyValue → Option BodyValue → Prop
  | string {s t : Option String} : s ≠ "<nil>" → t ≠ "<nil>" →
      Legible (s.map .string) (t.map .string)
  | bool (a b : Option Bool) : Legible (a.map .bool) (b.map .bool)
  | integer {m n : Option Int} : (∀ k ∈ m, Int64Range k) → (∀ k ∈ n, Int64Range k) →
      Legible (m.map fun k : Int => .number k) (n.map fun k : Int => .number k)

variable {lib : GoLib}

theorem nil_ne_repr {n : Int} (h : Int64Range n) : "<nil>" ≠ n.repr := by
  intro heq
  have hrune := (closes_int h).tail.runes '<' (by simp [← heq])
  exact absurd hrune (by decide)

theorem Legible.fieldText_eq_iff (hlib : lib.PrintsScalars) {x y : Option BodyValue}
    (h : Legible x y) : fieldText lib x = fieldText lib y ↔ x = y := by
  cases h with
  | @string s t hs ht => cases s <;> cases t <;> simp_all [fieldText, hlib.string, eq_comm]
  | bool a b =>
    rcases a with _ | _ | _ <;> rcases b with _ | _ | _ <;> simp [fieldText, hlib.bool, toString]
  | @integer m n hm hn =>
    rcases m with _ | m <;> rcases n with _ | n
    · simp
    · simp [fieldText, hlib.integer n (hn n rfl), nil_ne_repr (hn n rfl)]
    · simp [fieldText, hlib.integer m (hm m rfl), (nil_ne_repr (hm m rfl)).symm]
    · simp [fieldText, hlib.integer m (hm m rfl), hlib.integer n (hn n rfl), Int.repr_inj]

def along : List String → BodyValue → BodyValue
  | [], value => value
  | field :: path, value => .object [(field, along path value)]

def job (args : BodyValue) : Unstructured :=
  ⟨⟨"team", "import"⟩, "", "", [], along ((trimStart ".spec.args" ".").splitOn ".") args⟩

theorem watchedValue_job (args : BodyValue) : watchedValue ".spec.args" (job args) = some args := by
  rw [watchedValue, job]
  induction (trimStart ".spec.args" ".").splitOn "." with
  | nil => rfl
  | cons field path ih => simpa [along, nestedField] using ih

def printed : BodyValue → String
  | .string s => s
  | .bool b => toString b
  | .number n => toString n.num
  | .array items => "[" ++ " ".intercalate (items.map fun | .string s => s | _ => "<nil>") ++ "]"
  | _ => "<nil>"

def printingLib : GoLib := { (default : GoLib) with sprintV := printed, toLower := id }

end KubeZap
