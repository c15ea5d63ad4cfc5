import Loxeme.Source.Position
import Loxeme.Source.Segment

/-!
# The cut of a source

A source is cut into segments from left to right, and each segment has its place: the position of
its first character and the position behind its last one.

* `Source.cut`: the segments of a source.
* `Source.cut_cons`: the first segment of a source is the longest one at its front, and the others
  are the cut of the text behind it.
* `Source.flatMap_chars_cut`: the segments are the source.
* `Source.pieces`: the segments with their places.
* `Source.stop_pieces`: the last segment ends where the source ends.
-/

namespace Loxeme

/-- A segment with the position of its first character and the position behind its last one. -/
structure Piece where
  segment : Segment
  start : Position
  stop : Position
  deriving DecidableEq, Repr

namespace Source

/-- The segments of a text, put behind segments that are already cut, the latest of them first. -/
def cutOnto (done : List Segment) : List Char → List Segment
  | [] => done.reverse
  | c :: text => cutOnto ((Segment.next c text).1 :: done) (Segment.next c text).2
termination_by text => text.length
decreasing_by exact Segment.length_next_lt c text

/-- The segments of a text. -/
def cut (text : List Char) : List Segment :=
  cutOnto [] text

theorem cutOnto_eq (done : List Segment) (text : List Char) :
    cutOnto done text = done.reverse ++ cut text := by
  suffices h : ∀ n done text, text.length ≤ n →
      cutOnto done text = done.reverse ++ cutOnto [] text from h _ _ _ (Nat.le_refl _)
  intro n
  induction n with
  | zero =>
    intro done text hn
    have : text = [] := List.eq_nil_of_length_eq_zero (Nat.le_zero.mp hn)
    subst this
    simp [cutOnto]
  | succ n ih =>
    intro done text hn
    cases text with
    | nil => simp [cutOnto]
    | cons c text =>
      have hlt := Segment.length_next_lt c text
      have hle : (Segment.next c text).2.length ≤ n := by omega
      rw [cutOnto, cutOnto, ih _ _ hle, ih [_] _ hle]
      simp

@[simp] theorem cut_nil : cut [] = [] := by
  simp [cut, cutOnto]

theorem cut_cons (c : Char) (text : List Char) :
    cut (c :: text) = (Segment.next c text).1 :: cut (Segment.next c text).2 := by
  rw [cut, cutOnto, cutOnto_eq]
  simp

/-- Induction along the cut of a text: what holds of the empty text, and of a text if it holds of
what is behind its first segment, holds of each text. -/
theorem cut_induction {motive : List Char → Prop} (nil : motive [])
    (cons : ∀ c text, motive (Segment.next c text).2 → motive (c :: text)) (text : List Char) :
    motive text := by
  match text with
  | [] => exact nil
  | c :: text => exact cons c text (cut_induction nil cons (Segment.next c text).2)
termination_by text.length
decreasing_by exact Segment.length_next_lt c text

/-- Nothing is lost, repeated or reordered. -/
theorem flatMap_chars_cut (text : List Char) : (cut text).flatMap Segment.chars = text := by
  induction text using cut_induction with
  | nil => simp
  | cons c text ih => rw [cut_cons, List.flatMap_cons, ih, Segment.chars_append_next]

/-! ## Places -/

/-- Segments laid end to end from a position, put behind pieces that are already placed, the
latest of them first. -/
def placeOnto (done : List Piece) (p : Position) : List Segment → List Piece
  | [] => done.reverse
  | s :: segments => placeOnto (⟨s, p, p.after s.chars⟩ :: done) (p.after s.chars) segments

/-- Segments laid end to end from a position. -/
def place (p : Position) (segments : List Segment) : List Piece :=
  placeOnto [] p segments

theorem placeOnto_eq (done : List Piece) (p : Position) (segments : List Segment) :
    placeOnto done p segments = done.reverse ++ place p segments := by
  induction segments generalizing done p with
  | nil => simp [place, placeOnto]
  | cons s segments ih =>
    rw [place, placeOnto, placeOnto, ih, ih [_]]
    simp

@[simp] theorem place_nil (p : Position) : place p [] = [] := rfl

@[simp] theorem place_cons (p : Position) (s : Segment) (segments : List Segment) :
    place p (s :: segments) = ⟨s, p, p.after s.chars⟩ :: place (p.after s.chars) segments := by
  rw [place, placeOnto, placeOnto_eq]
  rfl

theorem place_append (p : Position) (a b : List Segment) :
    place p (a ++ b) = place p a ++ place (p.after (a.flatMap Segment.chars)) b := by
  induction a generalizing p with
  | nil => rfl
  | cons g a ih =>
    rw [List.cons_append, place_cons, place_cons, ih, List.flatMap_cons, Position.after_append]
    rfl

/-- The segments of a source with their places. -/
def pieces (text : List Char) : List Piece :=
  place Position.start (cut text)

/-- The position behind the last of some pieces, or the given one if there are none. -/
def stop (p : Position) (pieces : List Piece) : Position :=
  (pieces.getLast?.map Piece.stop).getD p

theorem stop_place (p : Position) (segments : List Segment) :
    stop p (place p segments) = p.after (segments.flatMap Segment.chars) := by
  induction segments generalizing p with
  | nil => rfl
  | cons s segments ih =>
    have hstep : stop p (place p (s :: segments)) =
        stop (p.after s.chars) (place (p.after s.chars) segments) := by
      rw [place_cons, stop, stop, List.getLast?_cons]
      cases (place (p.after s.chars) segments).getLast? <;> rfl
    rw [hstep, ih, List.flatMap_cons, Position.after_append]

/-- The pieces of a source end where the source ends. -/
theorem stop_pieces (text : List Char) :
    stop Position.start (pieces text) = Position.start.after text := by
  rw [pieces, stop_place, flatMap_chars_cut]

end Source

end Loxeme
