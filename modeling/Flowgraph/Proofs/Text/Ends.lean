import Flowgraph.Text.Blank
import Mathlib.Data.List.DropRight
/-!
# Where dropping ends

What is dropped from one end of a text is dropped up to the first character that stays, whatever
stands behind it (`dropWhile_append_cons`, `dropEndWhile_append_cons`).
-/

namespace Flowgraph.Text

variable {p : Char → Bool} {c : Char}

theorem dropWhile_append_cons (hc : p c = false) (as bs : List Char) :
    (as ++ c :: bs).dropWhile p = as.dropWhile p ++ c :: bs := by
  rw [List.dropWhile_append]
  split
  · next hall =>
    rw [List.isEmpty_iff.1 hall, List.dropWhile_cons_of_neg (ne_true_of_eq_false hc),
      List.nil_append]
  · rfl

theorem takeWhile_append_cons (hc : p c = false) (as bs : List Char) :
    (as ++ c :: bs).takeWhile p = as.takeWhile p := by
  rw [List.takeWhile_append]
  split
  · next hall =>
    rw [List.takeWhile_cons_of_neg (ne_true_of_eq_false hc), List.append_nil,
      (List.takeWhile_prefix p).eq_of_length hall]
  · rfl

theorem dropEndWhile_concat (c : Char) (cs : List Char) :
    dropEndWhile p (cs ++ [c]) = if p c then dropEndWhile p cs else cs ++ [c] :=
  List.rdropWhile_concat p cs c

theorem dropEndWhile_append_cons (hc : p c = false) (as bs : List Char) :
    dropEndWhile p (as ++ c :: bs) = as ++ c :: dropEndWhile p bs := by
  rw [dropEndWhile, List.reverse_append, List.reverse_cons, List.append_assoc,
    List.singleton_append, dropWhile_append_cons hc, List.reverse_append, List.reverse_cons,
    List.reverse_reverse, List.append_assoc, List.singleton_append, dropEndWhile]

/-- A text is what stays of it, and what is dropped behind that. -/
theorem exists_dropEndWhile_append (p : Char → Bool) (cs : List Char) :
    ∃ back, cs = dropEndWhile p cs ++ back ∧ ∀ c ∈ back, p c = true := by
  refine ⟨(cs.reverse.takeWhile p).reverse, ?_, fun c hc => ?_⟩
  · rw [dropEndWhile, ← List.reverse_append, List.takeWhile_append_dropWhile, List.reverse_reverse]
  · exact List.mem_takeWhile_imp (List.mem_reverse.1 hc)

end Flowgraph.Text
