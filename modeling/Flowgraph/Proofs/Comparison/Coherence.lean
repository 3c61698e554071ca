import Flowgraph.Comparison
import Flowgraph.Proofs.Time.Order
/-!
# Comparisons agree with each other

Two operands of one kind are equal exactly when neither goes before the other
(`Operand.beq_iff_of_order?`), and their order turns around with them (`Operand.order?_swap`). The
common kind of two values does not depend on the side, and it is a kind that one of them is of by
itself, which reading it as that kind does not lose (`Comparison.toOperand_ne_null`). That is what
keeps a side that cannot be read from passing for null: no two operands of a comparison are null
unless both values are (`Comparison.operands_ne_null`). Together these give the laws between the
operators, `Comparison.Coherent`, for any two values.
-/

namespace Flowgraph

/-! ## Operands -/

namespace Operand

theorem beq_comm (a b : Operand) : a.beq b = b.beq a := by
  cases a with
  | null => cases b <;> rfl
  | date t =>
    cases b with
    | date u => exact decide_eq_decide.2 eq_comm
    | _ => rfl
  | decimal x =>
    cases b with
    | decimal y => exact BEq.comm (a := x.key)
    | _ => rfl
  | bool p =>
    cases b with
    | bool q => exact BEq.comm
    | _ => rfl
  | text s =>
    cases b with
    | text t => exact BEq.comm
    | _ => rfl
  | other v =>
    cases b with
    | other w => exact Value.beq_comm v w
    | _ => rfl

theorem beq_self (a : Operand) : a.beq a = true := by
  cases a with
  | null => rfl
  | date t => exact decide_eq_true rfl
  | decimal x => exact beq_self_eq_true x.key
  | bool p => exact beq_self_eq_true p
  | text s => exact beq_self_eq_true s
  | other v => exact Value.beq_self v

/-- Comparing from the other side turns the order around. -/
theorem order?_swap (a b : Operand) : b.order? a = (a.order? b).map Ordering.swap := by
  cases a with
  | null => cases b <;> rfl
  | date t =>
    cases b with
    | date u => exact congrArg some (Std.OrientedOrd.eq_swap (α := Instant))
    | _ => rfl
  | decimal x =>
    cases b with
    | decimal y => exact congrArg some (Binary64.compare_swap x y).symm
    | _ => rfl
  | bool p =>
    cases b with
    | bool q => exact congrArg some Std.OrientedOrd.eq_swap
    | _ => rfl
  | text s =>
    cases b with
    | text t => exact congrArg some Std.OrientedOrd.eq_swap
    | _ => rfl
  | other v => cases b <;> rfl

/-- Operands that are ordered are equal exactly when neither goes before the other. -/
theorem beq_iff_of_order? {a b : Operand} {order : Ordering} (h : a.order? b = some order) :
    a.beq b = true ↔ order = .eq := by
  cases a <;> cases b <;> cases h
  case date.date.refl t u => exact decide_eq_true_iff.trans Instant.compare_eq_iff.symm
  case decimal.decimal.refl x y =>
    exact (Binary64.beq_iff x y).trans (Binary64.compare_eq_iff x y).symm
  case bool.bool.refl p q => exact beq_iff_eq.trans Std.compare_eq_iff_eq.symm
  case text.text.refl s t => exact beq_iff_eq.trans Std.compare_eq_iff_eq.symm

/-- Equal operands are ordered, unless they are null or documents as they are. -/
theorem order?_of_beq {a b : Operand} (h : a.beq b = true) (hnull : ¬(a = .null ∧ b = .null))
    (hother : ∀ v, a ≠ .other v) : a.order? b = some .eq := by
  have hsome : ∃ order, a.order? b = some order := by
    cases a <;> cases b <;> first
      | exact ⟨_, rfl⟩
      | cases h; done
      | exact absurd ⟨rfl, rfl⟩ hnull
      | exact absurd rfl (hother _)
  obtain ⟨order, horder⟩ := hsome
  rw [horder, (beq_iff_of_order? horder).1 h]

end Operand

/-! ## The common kind -/

namespace Comparison

variable {l r v : Value}

/-- Whether a value is a number, a truth value or a text. -/
def isOrderable (v : Value) : Bool :=
  v.isNumber || isBool v || isText v

/-- Whether a value is of a kind by itself. -/
def Kind.shows : Kind → Value → Bool
  | .date, v => looksLikeDate v
  | .decimal, v => v.isNumber
  | .bool, v => isBool v
  | .text, v => isText v
  | .other, v => !v.isNull

theorem kindOf_comm (l r : Value) : kindOf l r = kindOf r l := by
  simp only [kindOf, Bool.or_comm, Bool.and_assoc, Bool.and_comm (allowsDate l)]

/-- One of the sides is of the common kind by itself, unless both are null. -/
theorem shows_kindOf (h : l.isNull = false ∨ r.isNull = false) :
    (kindOf l r).shows l = true ∨ (kindOf l r).shows r = true := by
  unfold kindOf
  split
  · next hdate =>
    simp only [Bool.and_eq_true, Bool.or_eq_true] at hdate
    exact hdate.1.1
  split
  · next hnumber => exact Bool.or_eq_true _ _ ▸ hnumber
  split
  · next hbool => exact Bool.or_eq_true _ _ ▸ hbool
  split
  · next htext => exact Bool.or_eq_true _ _ ▸ htext
  · simpa [Kind.shows] using h

theorem kindOf_ne_other (h : isOrderable l = true ∨ isOrderable r = true) :
    kindOf l r ≠ .other := by
  simp only [isOrderable, Bool.or_eq_true] at h
  unfold kindOf
  split
  · exact nofun
  split
  · exact nofun
  split
  · exact nofun
  split
  · exact nofun
  · simp_all

/-- Reading a value as a kind that it is of by itself does not lose it. -/
theorem toOperand_ne_null {kind : Kind} (h : kind.shows v = true) : toOperand kind v ≠ .null := by
  cases kind with
  | date =>
    cases v with
    | text s =>
      obtain ⟨t, ht⟩ := Option.isSome_iff_exists.1 h
      have hoperand : toOperand .date (.text s) = ((Instant.read? s).map .date).getD .null := rfl
      rw [hoperand, ht]
      exact nofun
    | _ => cases h
  | decimal => cases v <;> first | cases h; done | exact nofun
  | bool => cases v <;> first | cases h; done | exact nofun
  | text => cases v <;> first | cases h; done | exact nofun
  | other => cases v <;> first | cases h; done | exact nofun

theorem toOperand_ne_other {kind : Kind} (h : kind ≠ .other) (v w : Value) :
    toOperand kind v ≠ .other w := by
  have hread : ∀ {α : Type} (read : Option α) (wrap : α → Operand),
      (∀ a, wrap a ≠ .other w) → (read.map wrap).getD .null ≠ .other w := by
    intro α read wrap hwrap
    cases read with
    | none => exact nofun
    | some a => exact hwrap a
  unfold toOperand
  split
  · exact nofun
  · cases kind with
    | other => exact absurd rfl h
    | text => exact nofun
    | date => exact hread _ .date fun _ => nofun
    | decimal => exact hread _ .decimal fun _ => nofun
    | bool => exact hread _ .bool fun _ => nofun

/-- The operands of a comparison are not both null, unless both values are. -/
theorem operands_ne_null (h : l.isNull = false ∨ r.isNull = false) :
    ¬(toOperand (kindOf l r) l = .null ∧ toOperand (kindOf l r) r = .null) := by
  rintro ⟨hl, hr⟩
  rcases shows_kindOf h with hshows | hshows
  · exact toOperand_ne_null hshows hl
  · exact toOperand_ne_null hshows hr

/-! ## Values -/

theorem equal_comm (l r : Value) : equal l r = equal r l := by
  simp only [equal, operands, kindOf_comm r l, Operand.beq_comm (toOperand _ r)]

theorem order?_swap (l r : Value) : order? r l = (order? l r).map Ordering.swap := by
  simp only [order?, operands, kindOf_comm r l]
  exact Operand.order?_swap _ _

theorem equal_of_order? {order : Ordering} (h : order? l r = some order) :
    equal l r = (order == .eq) :=
  Bool.eq_iff_iff.2 ((Operand.beq_iff_of_order? h).trans beq_iff_eq.symm)

/-- Equal values are ordered if one of them is of a kind that has an order. -/
theorem order?_of_equal (h : equal l r = true)
    (horderable : isOrderable l = true ∨ isOrderable r = true) : order? l r = some .eq := by
  have hnull : l.isNull = false ∨ r.isNull = false :=
    horderable.imp (fun h => by cases l <;> first | rfl | cases h)
      (fun h => by cases r <;> first | rfl | cases h)
  exact Operand.order?_of_beq h (operands_ne_null hnull)
    (toOperand_ne_other (kindOf_ne_other horderable) l)

/-- Only null is equal to null. -/
theorem equal_null_iff : equal .null r = true ↔ r = .null := by
  constructor
  · intro h
    have hbeq : Operand.null.beq (toOperand (kindOf .null r) r) = true := h
    have hlost : toOperand (kindOf .null r) r = .null := by
      cases hr : toOperand (kindOf .null r) r with
      | null => rfl
      | _ =>
        rw [hr] at hbeq
        cases hbeq
    cases hnull : r.isNull with
    | true => exact (Value.isNull_iff r).1 hnull
    | false => exact absurd ⟨rfl, hlost⟩ (operands_ne_null (.inr hnull))
  · rintro rfl
    rfl

/-! ## The laws between the operators -/

/-- At most one of less, equal and greater holds. -/
theorem countP_strict_le_one (l r : Value) :
    [Operator.less, .equal, .greater].countP (fun op => compare l (some op) r) ≤ 1 := by
  cases horder : order? l r with
  | none =>
    simp only [List.countP_cons, List.countP_nil, compare, holds, horder]
    cases equal l r <;> simp
  | some order =>
    simp only [List.countP_cons, List.countP_nil, compare, holds, horder, equal_of_order? horder]
    cases order <;> simp

theorem greaterEqual_iff (horderable : isOrderable l = true ∨ isOrderable r = true) :
    compare l (some .greaterEqual) r = true ↔
      compare l (some .greater) r = true ∨ compare l (some .equal) r = true := by
  cases horder : order? l r with
  | none =>
    -- Sides that are equal would be ordered, one of them being of a kind that has an order.
    have hne : equal l r ≠ true := fun h => by
      rw [order?_of_equal h horderable] at horder
      cases horder
    simp [compare, holds, horder, hne]
  | some order =>
    simp only [compare, holds, horder, equal_of_order? horder]
    cases order <;> decide

/-- What makes the comparisons of two values agree with each other. -/
structure Coherent (l r : Value) : Prop where
  equal_swap : compare l (some .equal) r = compare r (some .equal) l
  equal_self : compare l (some .equal) l = true
  notEqual : compare l (some .notEqual) r = !compare l (some .equal) r
  less_swap : compare l (some .less) r = compare r (some .greater) l
  lessEqual_swap : compare l (some .lessEqual) r = compare r (some .greaterEqual) l
  /-- At most one of the three holds. -/
  exclusive : [Operator.less, .equal, .greater].countP (fun op => compare l (some op) r) ≤ 1
  greaterEqual : isOrderable l = true ∨ isOrderable r = true →
    (compare l (some .greaterEqual) r = true ↔
      compare l (some .greater) r = true ∨ compare l (some .equal) r = true)
  equal_null : compare .null (some .equal) r = true ↔ r = .null

/-- **The comparisons of any two values agree with each other.** -/
theorem comparisons_coherent (l r : Value) : Coherent l r where
  equal_swap := equal_comm l r
  equal_self := Operand.beq_self _
  notEqual := rfl
  less_swap := by
    simp only [compare, holds, order?_swap l r]
    cases order? l r with
    | none => rfl
    | some order => exact (Ordering.isGT_swap).symm
  lessEqual_swap := by
    simp only [compare, holds, order?_swap l r]
    cases order? l r with
    | none => rfl
    | some order => exact (Ordering.isGE_swap).symm
  exclusive := countP_strict_le_one l r
  greaterEqual := greaterEqual_iff
  equal_null := equal_null_iff

end Comparison

end Flowgraph
