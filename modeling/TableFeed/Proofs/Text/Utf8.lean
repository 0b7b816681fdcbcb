import Mathlib
import TableFeed.Text.Utf8

/-!
# Texts as octets

A text that is written in UTF-8 is read back from its octets, wherever a stream is cut into pieces: a
character that is cut off at the end of a piece is left for the next one, and nothing is left at the
end of the stream.

The main result is `Text.decodePieces_octets`.
-/

namespace TableFeed.Text

open String (utf8EncodeChar)

/-- The octets of some characters. -/
def encode (cs : List Char) : List UInt8 := cs.flatMap utf8EncodeChar

/-- The octets of a text. -/
def octets (text : String) : List UInt8 := text.toUTF8.data.toList

lemma octets_eq (text : String) : octets text = encode text.toList := by
  rw [octets, String.toUTF8, ← String.utf8Encode_toList, List.utf8Encode,
    List.toList_data_toByteArray, encode]

@[simp] lemma encode_nil : encode [] = [] := rfl

@[simp] lemma encode_cons (c : Char) (cs : List Char) :
    encode (c :: cs) = utf8EncodeChar c ++ encode cs := rfl

/-! ### One character -/

/-- The octets of a character, by their number. -/
inductive Encodes (c : Char) : List UInt8 → Prop where
  | one {b₀ : UInt8} (low : b₀ < 0x80) (char : b₀.toNat = c.toNat) : Encodes c [b₀]
  | two {b₀ b₁ : UInt8} (low : 0xC2 ≤ b₀) (high : b₀ < 0xE0) (second : isContinuation b₁ = true)
      (char : joinBits (b₀.toNat - 0xC0) [b₁] = c.toNat) : Encodes c [b₀, b₁]
  | three {b₀ b₁ b₂ : UInt8} (low : 0xE0 ≤ b₀) (high : b₀ < 0xF0)
      (second : mayFollowOfThree b₀ b₁ = true) (third : isContinuation b₂ = true)
      (char : joinBits (b₀.toNat - 0xE0) [b₁, b₂] = c.toNat) : Encodes c [b₀, b₁, b₂]
  | four {b₀ b₁ b₂ b₃ : UInt8} (low : 0xF0 ≤ b₀) (high : b₀ < 0xF5)
      (second : mayFollowOfFour b₀ b₁ = true) (third : isContinuation b₂ = true)
      (fourth : isContinuation b₃ = true)
      (char : joinBits (b₀.toNat - 0xF0) [b₁, b₂, b₃] = c.toNat) : Encodes c [b₀, b₁, b₂, b₃]

lemma isContinuation_ofNat {n : Nat} (h : n < 64) :
    isContinuation (UInt8.ofNat (n + 128)) = true := by
  simp only [isContinuation, UInt8.le_iff_toNat_le, UInt8.lt_iff_toNat_lt, Bool.and_eq_true,
    decide_eq_true_eq, UInt8.toNat_ofNat', UInt8.reduceToNat]
  omega

/-- The octets that are written for a character are its octets. -/
lemma encodes (c : Char) : Encodes c (utf8EncodeChar c) := by
  have hvalid : c.toNat < 0xD800 ∨ 0xDFFF < c.toNat ∧ c.toNat < 0x110000 := c.valid
  unfold utf8EncodeChar
  rw [show c.val.toNat = c.toNat from rfl]
  extract_lets v
  by_cases h₁ : v ≤ 127
  · rw [if_pos h₁]
    refine .one ?_ ?_
    · simp [UInt8.lt_iff_toNat_lt]
      omega
    · simp
      omega
  rw [if_neg h₁]
  by_cases h₂ : v ≤ 2047
  · rw [if_pos h₂]
    refine .two ?_ ?_ (isContinuation_ofNat (by omega)) ?_
    · simp [UInt8.le_iff_toNat_le]
      omega
    · simp [UInt8.lt_iff_toNat_lt]
      omega
    · simp [joinBits]
      omega
  rw [if_neg h₂]
  by_cases h₃ : v ≤ 65535
  · rw [if_pos h₃]
    refine .three ?_ ?_ ?_ (isContinuation_ofNat (by omega)) ?_
    · simp [UInt8.le_iff_toNat_le]
      omega
    · simp [UInt8.lt_iff_toNat_lt]
      omega
    · -- neither an overlong form nor half of a pair
      rw [mayFollowOfThree, isContinuation_ofNat (by omega), Bool.true_and]
      split
      · simp [UInt8.lt_iff_toNat_lt, ← UInt8.toNat_inj] at *
        omega
      · simp [UInt8.lt_iff_toNat_lt, ← UInt8.toNat_inj] at *
        omega
    · simp [joinBits]
      omega
  · rw [if_neg h₃]
    refine .four ?_ ?_ ?_ (isContinuation_ofNat (by omega)) (isContinuation_ofNat (by omega)) ?_
    · simp [UInt8.le_iff_toNat_le]
      omega
    · simp [UInt8.lt_iff_toNat_lt]
      omega
    · rw [mayFollowOfFour, isContinuation_ofNat (by omega), Bool.true_and]
      split
      · simp [UInt8.lt_iff_toNat_lt, ← UInt8.toNat_inj] at *
        omega
      · simp [UInt8.lt_iff_toNat_lt, ← UInt8.toNat_inj] at *
        omega
    · simp [joinBits]
      omega

namespace Encodes

variable {c : Char} {b : UInt8} {tail : List UInt8}

/-- A character is found at the front of its octets. -/
lemma step (h : Encodes c (b :: tail)) (rest : List UInt8) :
    Utf8Step.of b (tail ++ rest) = .char c (tail.length + 1) := by
  have hchar : ∀ {n : Nat}, n = c.toNat → Char.ofNat n = c := by
    rintro n rfl
    exact Char.ofNat_toNat c
  unfold Utf8Step.of
  cases h with
  | one low char =>
      rw [if_pos low, hchar char]
      rfl
  | two low high second char =>
      rw [if_neg (by grind), if_neg (by grind), if_pos high]
      simp only [List.cons_append, if_pos second, hchar char]
      rfl
  | three low high second third char =>
      rw [if_neg (by grind), if_neg (by grind), if_neg (by grind), if_pos high]
      simp only [List.cons_append, second, third, hchar char, if_true]
      rfl
  | four low high second third fourth char =>
      rw [if_neg (by grind), if_neg (by grind), if_neg (by grind), if_neg (by grind), if_pos high]
      simp only [List.cons_append, second, third, fourth, hchar char, if_true]
      rfl

/-- Some of the octets of a character, but not all, are the start of one that is cut off. -/
lemma short {front back : List UInt8} (h : Encodes c (b :: (front ++ back))) (hback : back ≠ []) :
    Utf8Step.of b front = .short := by
  unfold Utf8Step.of
  generalize htail : front ++ back = tail at h
  cases h with
  | one low char => simp_all
  | two low high second char =>
      rw [if_neg (by grind), if_neg (by grind), if_pos high]
      rcases front with _ | ⟨d, front⟩
      · rfl
      · simp_all
  | three low high second third char =>
      rw [if_neg (by grind), if_neg (by grind), if_neg (by grind), if_pos high]
      rcases front with _ | ⟨d, _ | ⟨e, front⟩⟩
      · rfl
      · simp_all
      · simp_all
  | four low high second third fourth char =>
      rw [if_neg (by grind), if_neg (by grind), if_neg (by grind), if_neg (by grind), if_pos high]
      rcases front with _ | ⟨d, _ | ⟨e, _ | ⟨f, front⟩⟩⟩
      · rfl
      · simp_all
      · simp_all
      · simp_all

end Encodes

lemma exists_encodeChar_eq_cons (c : Char) : ∃ b tail, utf8EncodeChar c = b :: tail := by
  have h := encodes c
  cases hc : utf8EncodeChar c with
  | nil => rw [hc] at h; cases h
  | cons b tail => exact ⟨b, tail, rfl⟩

/-! ### A piece -/

/-- Octets with which a character starts, but not all of its octets.  There may be none. -/
def IsStart (left : List UInt8) : Prop := ∃ c back, back ≠ [] ∧ utf8EncodeChar c = left ++ back

lemma isStart_nil : IsStart [] := by
  obtain ⟨b, tail, h⟩ := exists_encodeChar_eq_cons 'a'
  exact ⟨'a', b :: tail, by simp, h⟩

/-- The start of a character holds no whole character. -/
lemma IsStart.eq_nil {cs : List Char} (h : IsStart (encode cs)) : cs = [] := by
  cases cs with
  | nil => rfl
  | cons c cs =>
      obtain ⟨d, back, hback, hd⟩ := h
      obtain ⟨b, tail, hc⟩ := exists_encodeChar_eq_cons c
      have hchar := encodes c
      have hwhole := encodes d
      rw [hc] at hchar
      rw [hd, encode_cons, hc, List.cons_append, List.cons_append] at hwhole
      have hshort := hwhole.short hback
      rw [hchar.step] at hshort
      simp at hshort

/-- A piece is decoded up to the start of a character that is cut off. -/
lemma decodeFrom_encode {last : Bool} {left : List UInt8} (hleft : IsStart left)
    (hlast : last = true → left = []) {cs : List Char} {fuel : Nat}
    (hfuel : (encode cs ++ left).length ≤ fuel) (position : Nat) (before : List Char) :
    decodeFrom last position before fuel (encode cs ++ left) = ⟨before.reverse ++ cs, left, none⟩ := by
  induction cs generalizing fuel position before with
  | nil =>
      rw [encode_nil, List.nil_append] at hfuel ⊢
      rcases left with _ | ⟨b, front⟩
      · cases fuel <;> simp [decodeFrom]
      · obtain ⟨fuel, rfl⟩ : ∃ n, fuel = n + 1 :=
          Nat.exists_eq_add_one_of_ne_zero (by rintro rfl; simp at hfuel)
        obtain ⟨c, back, hback, hc⟩ := hleft
        have hchar := encodes c
        rw [hc] at hchar
        have hfalse : last = false := by
          cases last with
          | false => rfl
          | true => simp at hlast
        rw [decodeFrom, hchar.short hback, hfalse]
        simp
  | cons c cs ih =>
      obtain ⟨b, tail, hc⟩ := exists_encodeChar_eq_cons c
      have hchar := encodes c
      rw [hc] at hchar
      rw [encode_cons, hc, List.cons_append, List.cons_append, List.append_assoc] at hfuel ⊢
      obtain ⟨fuel, rfl⟩ : ∃ n, fuel = n + 1 :=
        Nat.exists_eq_add_one_of_ne_zero (by rintro rfl; simp at hfuel)
      rw [decodeFrom, hchar.step]
      simp only [List.drop_succ_cons, List.drop_left]
      rw [ih (by simp at hfuel ⊢; omega)]
      simp

/-- What stands at the front of the octets of some characters are those of the first ones, and the
start of the one after them. -/
lemma exists_of_append_eq_encode {xs ys : List UInt8} {cs : List Char} (h : xs ++ ys = encode cs) :
    ∃ cs₁ cs₂ left, cs = cs₁ ++ cs₂ ∧ xs = encode cs₁ ++ left ∧ left ++ ys = encode cs₂ ∧
      IsStart left := by
  induction cs generalizing xs with
  | nil =>
      obtain ⟨rfl, rfl⟩ := List.append_eq_nil_iff.1 h
      exact ⟨[], [], [], rfl, rfl, rfl, isStart_nil⟩
  | cons c cs ih =>
      rw [encode_cons, List.append_eq_append_iff] at h
      rcases h with ⟨back, hc, hys⟩ | ⟨zs, rfl, hcs⟩
      · by_cases hback : back = []
        · subst hback
          refine ⟨[c], cs, [], rfl, by simpa using hc.symm, by simpa using hys, isStart_nil⟩
        · exact ⟨[], c :: cs, xs, rfl, by simp, by rw [encode_cons, hc, hys]; simp, c, back, hback, hc⟩
      · obtain ⟨cs₁, cs₂, left, rfl, rfl, hrest, hleft⟩ := ih hcs.symm
        exact ⟨c :: cs₁, cs₂, left, rfl, by simp, hrest, hleft⟩

/-! ### A stream -/

lemma decodePiece_encode {last : Bool} {left : List UInt8} (hleft : IsStart left)
    (hlast : last = true → left = []) (cs : List Char) :
    decodePiece last (encode cs ++ left) = ⟨cs, left, none⟩ :=
  decodeFrom_encode hleft hlast le_rfl 0 []

/-- At the end of a stream nothing is left. -/
lemma decodeStream_nil {left : List UInt8} {cs : List Char} (h : left = encode cs)
    (hleft : IsStart left) (count : Nat) : decodeStream left (count + 1) [] = ⟨cs, [], none⟩ := by
  subst h
  obtain rfl := hleft.eq_nil
  have hpiece : decodePiece true [] = ⟨[], [], none⟩ :=
    decodePiece_encode isStart_nil (fun _ => rfl) []
  simp [decodeStream, hpiece]

/-- A stream is decoded to its end, whatever was left of the piece before it. -/
lemma decodeStream_encode {count : Nat} {left bs : List UInt8} {cs : List Char}
    (h : left ++ bs = encode cs) (hleft : IsStart left) (hcount : bs.length ≤ count * pieceSize) :
    decodeStream left (count + 1) bs = ⟨cs, [], none⟩ := by
  induction count generalizing left bs cs with
  | zero =>
      obtain rfl : bs = [] := List.length_eq_zero_iff.1 (by simpa using hcount)
      exact decodeStream_nil (by simpa using h) hleft 0
  | succ count ih =>
      by_cases hbs : bs = []
      · subst hbs
        exact decodeStream_nil (by simpa using h) hleft _
      have hpiece : (bs.take pieceSize).isEmpty = false := by
        simp [hbs, pieceSize]
      rw [← List.take_append_drop pieceSize bs, ← List.append_assoc] at h
      obtain ⟨cs₁, cs₂, left', rfl, hfront, hrest, hleft'⟩ := exists_of_append_eq_encode h
      have hdrop : (bs.drop pieceSize).length ≤ count * pieceSize := by
        rw [List.length_drop, Nat.sub_le_iff_le_add]
        exact hcount.trans_eq (Nat.succ_mul count pieceSize)
      have hdecoded : decodePiece false (encode cs₁ ++ left') = ⟨cs₁, left', none⟩ :=
        decodePiece_encode hleft' (by simp) cs₁
      rw [decodeStream]
      simp only [hpiece, hfront, hdecoded, ih hrest hleft' hdrop]
      rfl

/-- The octets of a text are read as the text. -/
theorem decodePieces_octets (text : String) : decodePieces (octets text) = ⟨text.toList, [], none⟩ := by
  rw [decodePieces, octets_eq]
  have hcount := Nat.lt_mul_div_succ (encode text.toList).length (show 0 < pieceSize by decide)
  rw [Nat.mul_comm] at hcount
  exact decodeStream_encode (List.nil_append _) isStart_nil hcount.le

end TableFeed.Text
