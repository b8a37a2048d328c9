import Mathlib.Data.String.Basic
import PathStore.Path

/-!
# The bytes of a key

Where keys are stored they are compared byte by byte, as they are written in UTF-8. A character is
written as a leading byte, which tells how many bytes continue it, and by these, each of which holds a
digit of its code point. So a greater code point has greater bytes, and the order of the characters of
two keys is the order of their bytes.
-/

namespace PathStore.Path

/-- The bytes of a key in UTF-8. -/
def bytes (key : String) : List UInt8 :=
  key.toUTF8.data.toList

theorem bytes_eq_flatMap (key : String) :
    bytes key = key.toList.flatMap String.utf8EncodeChar := by
  rw [bytes, String.toUTF8_eq_toByteArray, ← String.utf8Encode_toList, List.utf8Encode,
    List.toList_data_toByteArray]

/-! ## Bytes of a code point -/

/-- How many bytes continue the leading one of a code point. -/
def continuations (point : Nat) : Nat :=
  if point ≤ 0x7f then 0 else if point ≤ 0x7ff then 1 else if point ≤ 0xffff then 2 else 3

/-- The leading byte of a code point. -/
def lead (point : Nat) : Nat :=
  if point ≤ 0x7f then point
  else if point ≤ 0x7ff then point / 64 % 0x20 + 0xc0
  else if point ≤ 0xffff then point / 4096 % 0x10 + 0xe0
  else point / 262144 % 0x08 + 0xf0

/-- The last digits of a number in base 64, the highest of them first, as bytes that continue others. -/
def continuing (number : Nat) : Nat → List UInt8
  | 0 => []
  | count + 1 => UInt8.ofNat (number / 64 ^ count % 64 + 0x80) :: continuing number count

theorem utf8EncodeChar_eq (char : Char) :
    String.utf8EncodeChar char =
      UInt8.ofNat (lead char.val.toNat) :: continuing char.val.toNat (continuations char.val.toNat) := by
  unfold String.utf8EncodeChar lead continuations
  dsimp only
  split_ifs <;> simp [continuing]

theorem lead_lt (point : Nat) : lead point < UInt8.size := by
  unfold lead UInt8.size
  split_ifs <;> omega

/-- A greater code point has a greater leading byte, or the same one and continues alike. -/
theorem lead_mono {small large : Nat} (less : small < large) (bounded : large < 0x110000) :
    lead small < lead large ∨
      lead small = lead large ∧ continuations small = continuations large ∧
        small / 64 ^ continuations small = large / 64 ^ continuations small := by
  unfold lead continuations
  split_ifs <;> omega

/-- Of two numbers that differ in their last digits alone the greater one has greater bytes. -/
theorem continuing_append_lt {small large count : Nat} (less : small < large)
    (same : small / 64 ^ count = large / 64 ^ count) (front back : List UInt8) :
    continuing small count ++ front < continuing large count ++ back := by
  induction count with
  | zero =>
      rw [pow_zero, Nat.div_one, Nat.div_one] at same
      exact absurd same less.ne
  | succ count ih =>
      rw [continuing, continuing, List.cons_append, List.cons_append, List.cons_lt_cons_iff]
      rcases (Nat.div_le_div_right less.le : small / 64 ^ count ≤ large / 64 ^ count).lt_or_eq with
        lower | equal
      · -- Before this digit both are the same, so the quotients differ in it.
        rw [pow_succ, ← Nat.div_div_eq_div_mul, ← Nat.div_div_eq_div_mul] at same
        have size : UInt8.size = 256 := rfl
        exact .inl ((UInt8.ofNat_lt_iff_lt (by omega) (by omega)).mpr (by omega))
      · exact .inr ⟨by rw [equal], ih equal⟩

/-- The bytes of a character are less than those of a greater one, whatever follows them. -/
theorem utf8EncodeChar_append_lt {left right : Char} (before : left < right)
    (front back : List UInt8) :
    String.utf8EncodeChar left ++ front < String.utf8EncodeChar right ++ back := by
  have less : left.val.toNat < right.val.toNat := before
  have bounded : right.val.toNat < 0x110000 := by
    rcases right.valid with low | high <;> omega
  rw [utf8EncodeChar_eq, utf8EncodeChar_eq, List.cons_append, List.cons_append,
    List.cons_lt_cons_iff]
  rcases lead_mono less bounded with lower | ⟨equal, alike, same⟩
  · exact .inl ((UInt8.ofNat_lt_iff_lt (lead_lt _) (lead_lt _)).mpr lower)
  · exact .inr ⟨by rw [equal], alike ▸ continuing_append_lt less same front back⟩

/-! ## Bytes of a text -/

theorem flatMap_utf8EncodeChar_lt {left right : List Char} (before : left < right) :
    left.flatMap String.utf8EncodeChar < right.flatMap String.utf8EncodeChar := by
  induction left generalizing right with
  | nil =>
      cases right with
      | nil => exact absurd before (List.not_lt_nil [])
      | cons char rest =>
          rw [List.flatMap_nil, List.flatMap_cons, utf8EncodeChar_eq]
          exact List.nil_lt_cons _ _
  | cons char rest ih =>
      cases right with
      | nil => exact absurd before (List.not_lt_nil _)
      | cons other more =>
          rw [List.flatMap_cons, List.flatMap_cons]
          rcases List.cons_lt_cons_iff.mp before with less | ⟨rfl, later⟩
          · exact utf8EncodeChar_append_lt less _ _
          · exact List.append_left_lt (ih later)

/-- Keys are in the order of their bytes. -/
theorem lt_iff_bytes_lt (left right : String) : left < right ↔ bytes left < bytes right := by
  have grows {first second : String} (before : first < second) : bytes first < bytes second := by
    rw [bytes_eq_flatMap, bytes_eq_flatMap]
    exact flatMap_utf8EncodeChar_lt (String.lt_iff_toList_lt.mp before)
  refine ⟨grows, fun less => ?_⟩
  rcases lt_trichotomy left right with before | rfl | after
  · exact before
  · exact absurd less (List.lt_irrefl _)
  · exact absurd less (List.lt_asymm (grows after))

end PathStore.Path
