/-!
# Lines

A sequence is cut into lines behind each item that ends a line. The last line may be without an
end, and is left out if it is empty.

* `splitAfter`: the lines of a sequence.
* `splitAfter_append_cons`: the first line ends with the first end.
* `splitAfter_induction`: induction along the lines.
-/

namespace Loxeme

variable {α : Type}

/-- The lines of a sequence, put behind lines that are already complete, the latest of them first,
and behind the items of the line that is begun, the latest of them first. -/
def splitAfterOnto (isEnd : α → Bool) (done : List (List α)) (begun : List α) :
    List α → List (List α)
  | [] => (if begun.isEmpty then done else begun.reverse :: done).reverse
  | a :: rest =>
    if isEnd a then splitAfterOnto isEnd ((a :: begun).reverse :: done) [] rest
    else splitAfterOnto isEnd done (a :: begun) rest

/-- The lines of a sequence. -/
def splitAfter (isEnd : α → Bool) (items : List α) : List (List α) :=
  splitAfterOnto isEnd [] [] items

/-- Items that end no line go on with the line that is begun. -/
theorem splitAfterOnto_append {isEnd : α → Bool} {items : List α}
    (h : ∀ a ∈ items, isEnd a = false) (done : List (List α)) (begun rest : List α) :
    splitAfterOnto isEnd done begun (items ++ rest) =
      splitAfterOnto isEnd done (items.reverse ++ begun) rest := by
  induction items generalizing begun with
  | nil => rfl
  | cons a items ih =>
    rw [List.cons_append, splitAfterOnto, if_neg (by simp [h a]),
      ih (fun b hb => h b (List.mem_cons_of_mem a hb))]
    simp

theorem splitAfterOnto_eq (isEnd : α → Bool) (done : List (List α)) (begun items : List α) :
    splitAfterOnto isEnd done begun items =
      done.reverse ++ splitAfterOnto isEnd [] begun items := by
  induction items generalizing done begun with
  | nil =>
    cases begun with
    | nil => simp [splitAfterOnto]
    | cons b begun => simp [splitAfterOnto]
  | cons a rest ih =>
    rw [splitAfterOnto, splitAfterOnto]
    split
    · rw [ih, ih [_]]
      simp
    · rw [ih]

@[simp] theorem splitAfter_nil (isEnd : α → Bool) : splitAfter isEnd [] = [] := rfl

/-- Items without an end are one line. -/
theorem splitAfter_of_forall {isEnd : α → Bool} {items : List α}
    (h : ∀ a ∈ items, isEnd a = false) (hne : items ≠ []) : splitAfter isEnd items = [items] := by
  have hline := splitAfterOnto_append h [] [] []
  rw [List.append_nil, List.append_nil] at hline
  rw [splitAfter, hline, splitAfterOnto]
  simp [hne]

/-- The first line ends with the first end. -/
theorem splitAfter_append_cons {isEnd : α → Bool} {items : List α} {a : α}
    (h : ∀ b ∈ items, isEnd b = false) (ha : isEnd a = true) (rest : List α) :
    splitAfter isEnd (items ++ a :: rest) = (items ++ [a]) :: splitAfter isEnd rest := by
  rw [splitAfter, splitAfterOnto_append h, splitAfterOnto, if_pos ha, splitAfterOnto_eq]
  simp [splitAfter]

/-- Induction along the lines of a sequence: what holds of the empty sequence and of each last line,
and of a sequence if it holds of what is behind its first line, holds of each sequence. -/
theorem splitAfter_induction {p : α → Bool} {motive : List α → Prop} (nil : motive [])
    (last : ∀ line, line ≠ [] → (∀ a ∈ line, p a = false) → motive line)
    (cons : ∀ line a rest, (∀ b ∈ line, p b = false) → p a = true → motive rest →
      motive (line ++ a :: rest)) (items : List α) : motive items := by
  suffices h : ∀ begun, (∀ a ∈ begun, p a = false) → motive (begun ++ items) from
    h [] fun _ ha => nomatch ha
  induction items with
  | nil =>
    intro begun hbegun
    rw [List.append_nil]
    by_cases hne : begun = []
    · rw [hne]
      exact nil
    · exact last begun hne hbegun
  | cons a rest ih =>
    intro begun hbegun
    by_cases ha : p a = true
    · exact cons begun a rest hbegun ha (ih [] fun _ hb => nomatch hb)
    · rw [← List.singleton_append, ← List.append_assoc]
      refine ih _ fun b hb => ?_
      rcases List.mem_append.mp hb with hb | hb
      · exact hbegun b hb
      · obtain rfl := List.mem_singleton.mp hb
        exact Bool.eq_false_iff.mpr ha

end Loxeme
