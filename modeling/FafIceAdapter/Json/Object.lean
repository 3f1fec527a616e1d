import FafIceAdapter.Json.Value

namespace Faf.Json.Value

/-- A member keeps its place when its value changes, and a new one goes before the larger names. -/
def setMember (name : Bytes) (value : Value) : List (Bytes × Value) → List (Bytes × Value)
  | [] => [(name, value)]
  | (other, old) :: rest =>
      if name = other then (name, value) :: rest
      else if name < other then (name, value) :: (other, old) :: rest
      else (other, old) :: setMember name value rest

/-- The assignment to a member. A null becomes an object. -/
def set (object : Value) (name : Bytes) (value : Value) : Value :=
  match object with
  | objectValue members => objectValue (setMember name value members)
  | nullValue => objectValue [(name, value)]
  | other => other

def isMember (name : Bytes) : Value → Bool
  | objectValue members => (members.lookup name).isSome
  | _ => false

/-- The integers, the small unsigned integers and the whole reals that an `int` can hold. -/
def int? : Value → Option Int
  | intValue value => if FitsInt32 value then some value else none
  | uintValue value => if FitsInt32 value then some value else none
  | realValue value => if value.den = 1 ∧ FitsInt32 value.num then some value.num else none
  | _ => none

theorem lookup_setMember_same (name : Bytes) (value : Value) (members : List (Bytes × Value)) :
    (setMember name value members).lookup name = some value := by
  induction members with
  | nil => simp [setMember]
  | cons head rest ih =>
      obtain ⟨other, old⟩ := head
      rw [setMember]
      split
      · simp
      · rename_i different
        split
        · simp
        · rw [List.lookup_cons, beq_false_of_ne different]
          exact ih

theorem lookup_setMember_of_ne {name other : Bytes} (different : other ≠ name) (value : Value)
    (members : List (Bytes × Value)) :
    (setMember name value members).lookup other = members.lookup other := by
  have skip : (other == name) = false := beq_false_of_ne different
  induction members with
  | nil => simp [setMember, List.lookup_cons, skip]
  | cons head rest ih =>
      obtain ⟨first, old⟩ := head
      rw [setMember]
      split
      · rename_i same
        subst same
        simp [List.lookup_cons, skip]
      · split
        · simp [List.lookup_cons, skip]
        · simp [List.lookup_cons, ih]

section Assignment

variable {object : Value} (assigned : object.isNull || object.isObject)
include assigned

theorem isObject_set (name : Bytes) (value : Value) : (object.set name value).isObject := by
  cases object <;> first | rfl | contradiction

@[simp] theorem member_set_same (name : Bytes) (value : Value) :
    (object.set name value).member name = value := by
  cases object with
  | nullValue => simp [set, member]
  | objectValue members => simp [set, member, lookup_setMember_same]
  | _ => contradiction

theorem isMember_set_same (name : Bytes) (value : Value) : (object.set name value).isMember name := by
  cases object with
  | nullValue => simp [set, isMember]
  | objectValue members => simp [set, isMember, lookup_setMember_same]
  | _ => contradiction

omit assigned in
theorem member_set_of_ne {name other : Bytes} (different : other ≠ name) (value : Value) :
    (object.set name value).member other = object.member other := by
  have skip : (other == name) = false := beq_false_of_ne different
  cases object with
  | nullValue => simp [set, member, List.lookup_cons, skip]
  | objectValue members => simp [set, member, lookup_setMember_of_ne different]
  | _ => rfl

omit assigned in
theorem isMember_set_of_ne {name other : Bytes} (different : other ≠ name) (value : Value) :
    (object.set name value).isMember other = object.isMember other := by
  have skip : (other == name) = false := beq_false_of_ne different
  cases object with
  | nullValue => simp [set, isMember, List.lookup_cons, skip]
  | objectValue members => simp [set, isMember, lookup_setMember_of_ne different]
  | _ => rfl

end Assignment

end Faf.Json.Value
