import SqlGateway.Value.Basic

/-
  This file defines what holds of every value inside another
  one, and shows how to prove it through lists, tuples and
  objects.

  Key definitions include:
    * `Value.isLeaf`
    * `Value.everyLeaf`

  Main declarations:
    * `Value.inductionOn`
    * `Value.everyLeaf_list`
    * `Value.everyLeaf_object`
-/

namespace SqlGateway

namespace Value

/- A value that holds no other values. -/
def isLeaf : Value → Bool
  | list _ => false
  | tuple _ => false
  | object _ => false
  | _ => true

/- A named value is larger than the value. -/
theorem sizeOf_snd_lt (f : String × Value) :
    sizeOf f.2 < sizeOf f := by
  cases f
  simp only [Prod.mk.sizeOf_spec]
  omega

/- A property of every leaf, of lists, tuples and objects with
   it inside them is one of every value. -/
@[elab_as_elim]
theorem inductionOn
    {motive : Value → Prop}
    (v : Value)
    (leaf : ∀ v, v.isLeaf = true → motive v)
    (list :
      ∀ vs, (∀ v ∈ vs, motive v) → motive (list vs))
    (tuple :
      ∀ vs, (∀ v ∈ vs, motive v) → motive (tuple vs))
    (object :
      ∀ fields, (∀ f ∈ fields, motive f.2) →
        motive (object fields)) :
    motive v := by
  cases v with
  | list vs =>
      exact list vs fun v hMem =>
        inductionOn v leaf list tuple object
  | tuple vs =>
      exact tuple vs fun v hMem =>
        inductionOn v leaf list tuple object
  | object fields =>
      exact object fields fun f hMem =>
        inductionOn f.2 leaf list tuple object
  | _ => exact leaf _ rfl
termination_by sizeOf v
decreasing_by
  · have hItem := List.sizeOf_lt_of_mem hMem
    simp only [Value.list.sizeOf_spec]
    omega
  · have hItem := List.sizeOf_lt_of_mem hMem
    simp only [Value.tuple.sizeOf_spec]
    omega
  · have hField := List.sizeOf_lt_of_mem hMem
    have hValue := sizeOf_snd_lt f
    simp only [Value.object.sizeOf_spec]
    omega

mutual

/- Every leaf inside a value has a property. -/
def everyLeaf (p : Value → Bool) : Value → Bool
  | list vs => everyLeafOf p vs
  | tuple vs => everyLeafOf p vs
  | object fields => everyLeafIn p fields
  | v => p v

def everyLeafOf (p : Value → Bool) : List Value → Bool
  | [] => true
  | v :: vs => everyLeaf p v && everyLeafOf p vs

def everyLeafIn
    (p : Value → Bool) : List (String × Value) → Bool
  | [] => true
  | (_, v) :: rest => everyLeaf p v && everyLeafIn p rest

end

variable {p : Value → Bool}

/- The leaves inside a list are those inside its items. -/
theorem everyLeafOf_eq_all (vs : List Value) :
    everyLeafOf p vs = vs.all (everyLeaf p) := by
  induction vs with
  | nil => rfl
  | cons v vs ih => rw [everyLeafOf, ih, List.all_cons]

theorem everyLeafIn_eq_all (fields : Fields) :
    everyLeafIn p fields =
      fields.all fun f => everyLeaf p f.2 := by
  induction fields with
  | nil => rfl
  | cons f fields ih =>
      rw [everyLeafIn, ih, List.all_cons]

@[simp]
theorem everyLeaf_list (vs : List Value) :
    everyLeaf p (list vs) = vs.all (everyLeaf p) :=
  everyLeafOf_eq_all vs

@[simp]
theorem everyLeaf_tuple (vs : List Value) :
    everyLeaf p (tuple vs) = vs.all (everyLeaf p) :=
  everyLeafOf_eq_all vs

@[simp]
theorem everyLeaf_object (fields : Fields) :
    everyLeaf p (object fields) =
      fields.all fun f => everyLeaf p f.2 :=
  everyLeafIn_eq_all fields

@[simp]
theorem everyLeaf_text (s : String) :
    everyLeaf p (text s) = p (text s) :=
  rfl

@[simp]
theorem everyLeaf_int (i : Int) :
    everyLeaf p (int i) = p (int i) :=
  rfl

@[simp]
theorem everyLeaf_bool (b : Bool) :
    everyLeaf p (bool b) = p (bool b) :=
  rfl

/- A leaf is the only leaf inside it. -/
theorem everyLeaf_of_isLeaf
    {v : Value}
    (hLeaf : v.isLeaf = true) :
    everyLeaf p v = p v := by
  cases v with
  | list vs => cases hLeaf
  | tuple vs => cases hLeaf
  | object fields => cases hLeaf
  | _ => rfl

end Value

end SqlGateway
