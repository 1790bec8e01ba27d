/-! # Slices of a text

A text is a sequence of code points and positions count them. Surrogates on their own
do not occur in texts. A slice keeps what lies between two positions; slices that meet
join to one slice.
-/
namespace Patchwork

/-- The part of a text from position `start` up to, not including, position `stop`. -/
def slice (text : String) (start stop : Nat) : String :=
  String.ofList ((text.toList.take stop).drop start)

@[simp] theorem toList_slice (text : String) (start stop : Nat) :
    (slice text start stop).toList = (text.toList.take stop).drop start := by
  simp [slice]

theorem length_slice {text : String} {start stop : Nat} (fits : stop ≤ text.length) :
    (slice text start stop).length = stop - start := by
  rw [← String.length_toList, toList_slice, List.length_drop, List.length_take,
    String.length_toList, Nat.min_eq_left fits]

@[simp] theorem slice_length (text : String) : slice text 0 text.length = text := by
  rw [← String.toList_inj, toList_slice, List.drop_zero, ← String.length_toList,
    List.take_length]

theorem slice_append (text : String) {start mid stop : Nat} (left : start ≤ mid)
    (right : mid ≤ stop) : slice text start mid ++ slice text mid stop = slice text start stop := by
  rw [← String.toList_inj, String.toList_append]
  simp only [toList_slice]
  by_cases inside : mid ≤ text.toList.length
  · conv =>
      rhs
      rw [← List.take_append_drop mid (text.toList.take stop), List.take_take, Nat.min_eq_left right,
        List.drop_append_of_le_length (by simp; omega)]
  · rw [List.take_of_length_le (by omega), List.take_of_length_le (by omega),
      List.drop_of_length_le (i := mid) (by omega), List.append_nil]

theorem slice_slice (text : String) {start stop last : Nat} (first : Nat)
    (within : start + last ≤ stop) :
    slice (slice text start stop) first last = slice text (start + first) (start + last) := by
  rw [← String.toList_inj]
  simp only [toList_slice]
  rw [List.take_drop, List.take_take, Nat.min_eq_left within, List.drop_drop]

theorem join_slices (source : String) (start count : Nat) :
    String.join ((List.range' start count).map fun position =>
      slice source position (position + 1)) = slice source start (start + count) := by
  induction count generalizing start with
  | zero => simp [← String.toList_inj]
  | succ count ih =>
    rw [List.range'_succ, List.map_cons, String.join_cons, ih, slice_append source (by omega)
      (by omega)]
    congr 1
    omega

theorem join_blank (count : Nat) : String.join (List.replicate count "") = "" := by
  induction count with
  | zero => rfl
  | succ count ih => rw [List.replicate_succ, String.join_cons, ih, String.append_empty]

end Patchwork
