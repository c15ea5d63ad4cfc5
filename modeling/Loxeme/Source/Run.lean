/-!
# Runs of characters

The run of a class of characters at the front of a text is all of them up to the first character
that is not of the class.

* `takeWhile_run`, `dropWhile_run`: a run is found again where no further character of the class
  follows it.
* `takeWhile_upto`, `dropWhile_upto`: a text is cut in front of a character.
* `of_mem_takeWhile`, `not_of_head?_dropWhile`: what is found is a run, and none of its class
  follows it.
-/

namespace Loxeme

variable {p : Char → Bool} {run rest text : List Char}

theorem takeWhile_run (h : ∀ c ∈ run, p c = true) (hr : ∀ c ∈ rest.head?, p c = false) :
    (run ++ rest).takeWhile p = run := by
  rw [List.takeWhile_append_of_pos h]
  cases rest with
  | nil => exact List.append_nil _
  | cons c rest =>
    rw [List.takeWhile_cons_of_neg (by simp [hr c rfl]), List.append_nil]

theorem dropWhile_run (h : ∀ c ∈ run, p c = true) (hr : ∀ c ∈ rest.head?, p c = false) :
    (run ++ rest).dropWhile p = rest := by
  rw [List.dropWhile_append_of_pos h]
  cases rest with
  | nil => rfl
  | cons c rest => exact List.dropWhile_cons_of_neg (by simp [hr c rfl])

theorem takeWhile_eq_self (h : ∀ c ∈ run, p c = true) : run.takeWhile p = run := by
  have := @takeWhile_run p run [] h (by simp)
  rwa [List.append_nil] at this

theorem dropWhile_eq_nil (h : ∀ c ∈ run, p c = true) : run.dropWhile p = [] := by
  have := @dropWhile_run p run [] h (by simp)
  rwa [List.append_nil] at this

theorem bne_of_not_mem {stop : Char} (h : stop ∉ run) : ∀ c ∈ run, (c != stop) = true :=
  fun _ hc => bne_iff_ne.mpr fun he => h (he ▸ hc)

/-- A run without a character ends in front of that character. -/
theorem takeWhile_upto {stop : Char} (h : stop ∉ run) (rest : List Char) :
    (run ++ stop :: rest).takeWhile (· != stop) = run :=
  takeWhile_run (bne_of_not_mem h) (by simp)

theorem dropWhile_upto {stop : Char} (h : stop ∉ run) (rest : List Char) :
    (run ++ stop :: rest).dropWhile (· != stop) = stop :: rest :=
  dropWhile_run (bne_of_not_mem h) (by simp)

theorem of_mem_takeWhile {c : Char} (h : c ∈ text.takeWhile p) : p c = true := by
  induction text with
  | nil => cases h
  | cons d text ih =>
    by_cases hd : p d
    · rw [List.takeWhile_cons_of_pos hd] at h
      rcases List.mem_cons.mp h with rfl | h
      · exact hd
      · exact ih h
    · rw [List.takeWhile_cons_of_neg hd] at h
      cases h

theorem not_of_head?_dropWhile {c : Char} (h : c ∈ (text.dropWhile p).head?) : p c = false := by
  have := List.head?_dropWhile_not p text
  simp_all

end Loxeme
