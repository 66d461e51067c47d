import Rulebook.Proofs.Comparison.Basic
import Rulebook.Proofs.Text.NumeralCase

/-!
# What equality identifies

`Value.zeroed` writes every zero in a value without a sign. Two values are structurally equal if and
only if they are then the same (`Value.same_iff`), so that structural equality is an equivalence. In
the same way `mode.view` is what a comparison mode sees of a value: a string in lower case, where
case is ignored, and any other value up to the signs of its zeros. Two values are equal in a mode if
and only if it sees the same of both (`CaseMode.equals_iff`).

**Theorem (`equals_congruence`).** In either mode equality is an equivalence, and equal values are
judged alike by every operator, on either side and with whatever value.

What an operator says depends on no more of a value than the mode sees. For the operators on strings
this holds by definition, as they compare the folded texts. The numeric ones read the texts as they
are; there it rests on `Numeral.readFinite?_lowercase`, since texts that differ in case only denote
one number, or none.
-/

namespace Rulebook

/-! ## Numbers up to the sign of zero -/

namespace Binary64

/-- The number itself, zero without a sign. -/
def zeroed (x : Binary64) : Binary64 := if x.units = 0 then .zero false else x

theorem scaled_zeroed (x : Binary64) : x.zeroed.scaled = x.scaled := by
  unfold zeroed
  split
  · next h => simp [scaled, zero, h]
  · rfl

/-- Numbers denote the same only if they are the same, or both zeros. -/
theorem zeroed_eq_of_scaled_eq {x y : Binary64} (h : x.scaled = y.scaled) :
    x.zeroed = y.zeroed := by
  obtain ⟨sx, ux, hgx, hrx⟩ := x
  obtain ⟨sy, uy, hgy, hry⟩ := y
  have hunits : ux = uy := by
    cases sx <;> cases sy <;> simp [scaled] at h <;> omega
  subst hunits
  unfold zeroed
  by_cases h0 : ux = 0
  · simp [h0]
  · have hsign : sx = sy := by
      cases sx <;> cases sy <;> simp [scaled] at h ⊢ <;> omega
    simp [hsign]

theorem numEq_iff {x y : Binary64} : x.numEq y = true ↔ x.zeroed = y.zeroed := by
  rw [numEq, beq_iff_eq]
  constructor
  · exact zeroed_eq_of_scaled_eq
  · intro h
    rw [← scaled_zeroed x, h, scaled_zeroed]

end Binary64

namespace Number

def zeroed : Number → Number
  | .whole i h => .whole i h
  | .real x => .real x.zeroed

theorem same_iff {n m : Number} : n.same m = true ↔ n.zeroed = m.zeroed := by
  cases n <;> cases m <;> simp [same, zeroed, Binary64.numEq_iff]

theorem scaled_toBinary64_zeroed (n : Number) :
    n.zeroed.toBinary64.scaled = n.toBinary64.scaled := by
  cases n with
  | whole i h => rfl
  | real x => exact x.scaled_zeroed

end Number

/-! ## Values up to the signs of zeros -/

namespace Value

mutual

/-- The value with every zero in it written without a sign. -/
def zeroed : Value → Value
  | .num n => .num n.zeroed
  | .arr elements => .arr (zeroedElements elements)
  | .obj members => .obj (zeroedMembers members)
  | .null => .null
  | .bool b => .bool b
  | .str s => .str s

def zeroedElements : List Value → List Value
  | [] => []
  | v :: rest => zeroed v :: zeroedElements rest

def zeroedMembers : List (String × Value) → List (String × Value)
  | [] => []
  | (k, v) :: rest => (k, zeroed v) :: zeroedMembers rest

end

mutual

/-- **Structural equality** is equality up to the signs of zeros. -/
theorem same_iff (a b : Value) : a.same b = true ↔ a.zeroed = b.zeroed := by
  cases a with
  | null | bool | str => cases b <;> simp [same, zeroed]
  | num n => cases b <;> simp [same, zeroed, Number.same_iff]
  | arr as =>
    cases b with
    | arr bs => simp [same, zeroed, sameElements_iff as bs]
    | null | bool | str | num | obj => simp [same, zeroed]
  | obj as =>
    cases b with
    | obj bs => simp [same, zeroed, sameMembers_iff as bs]
    | null | bool | str | num | arr => simp [same, zeroed]

theorem sameElements_iff (as bs : List Value) :
    sameElements as bs = true ↔ zeroedElements as = zeroedElements bs := by
  cases as with
  | nil => cases bs <;> simp [sameElements, zeroedElements]
  | cons a as =>
    cases bs with
    | nil => simp [sameElements, zeroedElements]
    | cons b bs => simp [sameElements, zeroedElements, same_iff a b, sameElements_iff as bs]

theorem sameMembers_iff (as bs : List (String × Value)) :
    sameMembers as bs = true ↔ zeroedMembers as = zeroedMembers bs := by
  cases as with
  | nil => cases bs <;> simp [sameMembers, zeroedMembers]
  | cons a as =>
    obtain ⟨k, a⟩ := a
    cases bs with
    | nil => simp [sameMembers, zeroedMembers]
    | cons b bs =>
      obtain ⟨l, b⟩ := b
      simp [sameMembers, zeroedMembers, same_iff a b, sameMembers_iff as bs]

end

end Value

/-! ## What a mode sees of a value -/

namespace CaseMode

/-- What a mode sees of a value. -/
def view (mode : CaseMode) : Value → Value
  | .str s => .str (String.ofList (mode.fold s))
  | v => v.zeroed

variable {mode : CaseMode} {a b : Value}

/-- **Equality in a mode** is sameness of what the mode sees. -/
theorem equals_iff : a.equals mode b = true ↔ mode.view a = mode.view b := by
  unfold Value.equals
  split
  · rw [beq_iff_eq, view, view, Value.str.injEq, String.ofList_inj]
  · next hstr =>
    rw [Value.same_iff]
    cases a with
    | str s =>
      cases b with
      | str t => exact absurd rfl (hstr s t rfl)
      | null | bool | num | arr | obj => simp [view, Value.zeroed]
    | null | bool | num | arr | obj => cases b <;> simp [view, Value.zeroed]

/-- The characters of a string as the mode sees it. -/
def text? (mode : CaseMode) : Value → Option (List Char)
  | .str s => some (mode.fold s)
  | _ => none

theorem text?_congr (h : mode.view a = mode.view b) : mode.text? a = mode.text? b := by
  have hview (v : Value) : mode.text? v =
      match mode.view v with
      | .str s => some s.toList
      | _ => none := by
    cases v <;> simp [text?, view, Value.zeroed]
  rw [hview a, hview b, h]

/-- Reading a number does not depend on the case of letters. -/
theorem readFinite?_fold (mode : CaseMode) (s : String) :
    Numeral.readFinite? (mode.fold s) = Numeral.readFinite? s.toList := by
  cases mode with
  | exact => rfl
  | ignored => exact Numeral.readFinite?_lowercase s.toList

theorem scaled_numeric?_congr (h : mode.view a = mode.view b) :
    a.numeric?.map Binary64.scaled = b.numeric?.map Binary64.scaled := by
  have hview (v : Value) :
      (mode.view v).numeric?.map Binary64.scaled = v.numeric?.map Binary64.scaled := by
    cases v with
    | num n => exact congrArg some n.scaled_toBinary64_zeroed
    | str s =>
      show (Numeral.readFinite? (String.ofList (mode.fold s)).toList).map _ =
        (Numeral.readFinite? s.toList).map _
      rw [String.toList_ofList, readFinite?_fold]
    | null | bool | arr | obj => rfl
  rw [← hview a, ← hview b, h]

end CaseMode

/-! ## Operators on values that a mode sees alike -/

namespace Value

variable {mode : CaseMode} {a b : Value}

theorem stringsStand_eq (relation : List Char → List Char → Bool) :
    a.stringsStand mode relation b =
      match mode.text? a, mode.text? b with
      | some s, some t => relation s t
      | _, _ => false := by
  cases a <;> cases b <;> rfl

/-- Standing in a relation of the numbers denoted. -/
theorem numbersStand_eq (relation : Int → Int → Bool) :
    a.numbersStand (fun x y => relation x.scaled y.scaled) b =
      match a.numeric?.map Binary64.scaled, b.numeric?.map Binary64.scaled with
      | some x, some y => relation x y
      | _, _ => false := by
  unfold numbersStand
  cases a.numeric? <;> cases b.numeric? <;> rfl

end Value

namespace Operator

variable {mode : CaseMode} {a a' b b' : Value}

theorem holds?_congr (ha : mode.view a = mode.view a') (hb : mode.view b = mode.view b')
    (o : Operator) : o.holds? mode a b = o.holds? mode a' b' := by
  have hequals : a.equals mode b = a'.equals mode b' := by
    rw [Bool.eq_iff_iff, CaseMode.equals_iff, CaseMode.equals_iff, ha, hb]
  have hstrings (relation : List Char → List Char → Bool) :
      a.stringsStand mode relation b = a'.stringsStand mode relation b' := by
    rw [Value.stringsStand_eq, Value.stringsStand_eq, CaseMode.text?_congr ha,
      CaseMode.text?_congr hb]
  have hnumbers (relation : Int → Int → Bool) :
      a.numbersStand (fun x y => relation x.scaled y.scaled) b =
        a'.numbersStand (fun x y => relation x.scaled y.scaled) b' := by
    rw [Value.numbersStand_eq, Value.numbersStand_eq, CaseMode.scaled_numeric?_congr ha,
      CaseMode.scaled_numeric?_congr hb]
  cases o with
  | equals | notEquals => simp only [holds?, hequals]
  | startsWith | endsWith | contains | notContains => simp only [holds?, hstrings]
  | greaterThan => exact congrArg some (hnumbers fun x y => decide (y < x))
  | greaterThanOrEquals => exact congrArg some (hnumbers fun x y => decide (y ≤ x))
  | lessThan => exact congrArg some (hnumbers fun x y => decide (x < y))
  | lessThanOrEquals => exact congrArg some (hnumbers fun x y => decide (x ≤ y))
  | _ => rfl

end Operator

namespace CaseMode

theorem compare_congr {mode : CaseMode} {a a' b b' : Value} (ha : mode.view a = mode.view a')
    (hb : mode.view b = mode.view b') (operator : String) :
    (Judge.standard mode).compare a operator b = (Judge.standard mode).compare a' operator b' := by
  show Judge.ofResult operator ((Operator.ofName? operator).bind _) =
    Judge.ofResult operator ((Operator.ofName? operator).bind _)
  cases Operator.ofName? operator with
  | none => rfl
  | some o => exact congrArg (Judge.ofResult operator) (Operator.holds?_congr ha hb o)

end CaseMode

/-- **Equality is a congruence.** In either mode it is reflexive, symmetric and transitive, and
values that are equal can stand for each other: whatever the operator and the value that they are
compared with, on either side, the outcome is the same. -/
theorem equals_congruence (mode : CaseMode) :
    Equivalence (fun a b => mode.Accepts a "equals" b) ∧
      ∀ a b, mode.Accepts a "equals" b → ∀ c operator,
        (Judge.standard mode).compare a operator c = (Judge.standard mode).compare b operator c ∧
          (Judge.standard mode).compare c operator a =
            (Judge.standard mode).compare c operator b := by
  simp only [CaseMode.accepts_equals, CaseMode.equals_iff]
  refine ⟨⟨fun _ => rfl, Eq.symm, Eq.trans⟩, fun a b h c operator => ⟨?_, ?_⟩⟩
  · exact CaseMode.compare_congr h rfl operator
  · exact CaseMode.compare_congr rfl h operator

/-- Two spellings of one number, and a greater number. -/
theorem equals_congruence_exponent :
    let a : Value := .str " 1E5"
    let b : Value := .str " 1e5"
    let c : Value := .num (.whole 1000000 (by decide))
    CaseMode.ignored.Accepts a "equals" b ∧
      CaseMode.ignored.Accepts a "lessThan" c ∧ CaseMode.ignored.Accepts b "lessThan" c ∧
      ¬ CaseMode.exact.Accepts a "equals" b := by
  intro a b c
  have hequal : CaseMode.ignored.Accepts a "equals" b := by decide +kernel
  have hless : CaseMode.ignored.Accepts a "lessThan" c := by decide +kernel
  refine ⟨hequal, hless, ?_, by decide +kernel⟩
  have hcompare := ((equals_congruence .ignored).2 a b hequal c "lessThan").1
  exact (congrArg Traced.value hcompare).symm.trans hless

end Rulebook
