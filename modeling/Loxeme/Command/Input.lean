import Loxeme.Command.Lines

/-!
# Input in lines

An input is read line by line, each line with its line feed; only the last one may be without. A
line of bytes that is not the UTF-8 form of a text ends the reading.

* `Input.ofText`, `Input.ofBytes`: the lines of a text and of bytes.
* `Input.ofBytes_toUTF8`: the lines of the bytes of a text are the lines of the text, as no
  character but the line feed holds its byte.
-/

namespace Loxeme

/-- An input as its lines, up to the first one that is no text, and whether there is such a line. -/
structure Input where
  lines : List String
  broken : Bool
  deriving DecidableEq, Repr

namespace Input

/-- The lines of a text. -/
def ofText (text : String) : Input :=
  ⟨(splitAfter (· == '\n') text.toList).map String.ofList, false⟩

/-- The text of a line of bytes, if it is one. -/
def decode (line : List UInt8) : Option String :=
  String.fromUTF8? line.toByteArray

/-- The lines of bytes in UTF-8. -/
def ofBytes (bytes : ByteArray) : Input :=
  let lines := (splitAfter (· == 0x0A) bytes.data.toList).map decode
  ⟨(lines.takeWhile Option.isSome).filterMap id, lines.any Option.isNone⟩

/-! ## The bytes of a text -/

theorem decode_utf8 (line : List Char) :
    decode (line.flatMap String.utf8EncodeChar) = some (String.ofList line) :=
  dif_pos ⟨line, rfl⟩

private theorem utf8EncodeChar_ne_nil (c : Char) : String.utf8EncodeChar c ≠ [] := by
  delta String.utf8EncodeChar
  dsimp only
  split
  · exact List.cons_ne_nil _ _
  split
  · exact List.cons_ne_nil _ _
  split <;> exact List.cons_ne_nil _ _

/-- The byte of the line feed is in the form of no other character. -/
theorem ne_lineFeed_of_mem_utf8EncodeChar {c : Char} (h : c ≠ '\n') :
    ∀ b ∈ String.utf8EncodeChar c, (b == 0x0A) = false := by
  have hc : c.val.toNat ≠ 10 := fun he => h (Char.ext (UInt32.toNat_inj.mp he))
  have hfeed : (0x0A : UInt8).toNat = 10 := rfl
  intro b hb
  refine beq_false_of_ne fun he => ?_
  subst he
  delta String.utf8EncodeChar at hb
  dsimp only at hb
  split at hb
  · simp only [List.mem_singleton, ← UInt8.toNat_inj, UInt8.toNat_ofNat'] at hb
    omega
  split at hb
  · simp only [List.mem_cons, List.not_mem_nil, or_false, ← UInt8.toNat_inj,
      UInt8.toNat_ofNat'] at hb
    omega
  split at hb
  · simp only [List.mem_cons, List.not_mem_nil, or_false, ← UInt8.toNat_inj,
      UInt8.toNat_ofNat'] at hb
    omega
  · simp only [List.mem_cons, List.not_mem_nil, or_false, ← UInt8.toNat_inj,
      UInt8.toNat_ofNat'] at hb
    omega

private theorem splitAfterOnto_utf8 (done : List (List Char)) (begun text : List Char) :
    splitAfterOnto (· == 0x0A) (done.map (·.flatMap String.utf8EncodeChar))
        (begun.reverse.flatMap String.utf8EncodeChar).reverse
        (text.flatMap String.utf8EncodeChar) =
      (splitAfterOnto (· == '\n') done begun text).map (·.flatMap String.utf8EncodeChar) := by
  induction text generalizing done begun with
  | nil =>
    cases begun with
    | nil => simp [splitAfterOnto]
    | cons b begun => simp [splitAfterOnto, utf8EncodeChar_ne_nil b]
  | cons c text ih =>
    by_cases h : c = '\n'
    · subst h
      have hfeed : String.utf8EncodeChar '\n' = [0x0A] := rfl
      rw [List.flatMap_cons, hfeed, List.singleton_append, splitAfterOnto, splitAfterOnto]
      simp only [beq_self_eq_true, if_true]
      rw [← ih]
      simp [hfeed]
    · have hc : (c == '\n') = false := beq_false_of_ne h
      rw [List.flatMap_cons, splitAfterOnto_append (ne_lineFeed_of_mem_utf8EncodeChar h),
        splitAfterOnto, hc, if_neg (by decide), ← ih]
      simp

theorem ofBytes_toUTF8 (text : String) : ofBytes text.toUTF8 = ofText text := by
  have hbytes : text.toUTF8.data.toList = text.toList.flatMap String.utf8EncodeChar := by
    show text.toByteArray.data.toList = _
    rw [← String.utf8Encode_toList]
    exact congrArg Array.toList List.data_toByteArray
  have hlines : splitAfter (· == 0x0A) (text.toList.flatMap String.utf8EncodeChar) =
      (splitAfter (· == '\n') text.toList).map (·.flatMap String.utf8EncodeChar) :=
    splitAfterOnto_utf8 [] [] text.toList
  have hdecode : ((splitAfter (· == '\n') text.toList).map (·.flatMap String.utf8EncodeChar)).map
      decode = (splitAfter (· == '\n') text.toList).map (some ∘ String.ofList) := by
    rw [List.map_map]
    exact List.map_congr_left fun line _ => decode_utf8 line
  unfold ofBytes ofText
  rw [hbytes, hlines, hdecode]
  generalize splitAfter (· == '\n') text.toList = lines
  induction lines with
  | nil => rfl
  | cons line lines ih => simp_all

end Input

end Loxeme
