import SqlInventory.Text.Utf8
import Mathlib.Data.List.Basic

/-!
# Newlines survive decoding

Decoding reads one character after the other, and what is no character is shown as U+FFFD. Here it
is shown that lines may be counted before or after decoding, up to any byte, even one in the middle
of a character or of bytes that are no character (`count_newline_take_decode`).

* `decode_cons` reads one character off the front; what follows is decoded on its own.
* `shown_eq_newline_iff`: a newline is shown for a newline byte and for nothing else. What starts
  with a lead byte above ASCII has a code point above ASCII (`le_codeOf_of_lead?`), so no longer
  form of a newline is read as one.
* `newline_notMem_take_readChar`: the bytes behind a lead byte that are used with it hold no
  newline.
* `readChar_take`: bytes that are cut off in the middle of a character are shown as one character,
  and so is the whole. So a cut does not move what comes before it.
-/

namespace SqlInventory

namespace Utf8

/-! ### One character -/

/-- The character that is shown for what was read. -/
def shown : Except Cause Char → Char
  | .ok c => c
  | .error _ => replacement

theorem decodeFrom_eq_decode (skip : Nat) (bytes : Bytes) :
    decodeFrom skip bytes = decode (bytes.drop skip) := by
  induction bytes generalizing skip with
  | nil => simp [decodeFrom]
  | cons byte rest ih =>
    cases skip with
    | zero => rfl
    | succ skip =>
      rw [decodeFrom, ih]
      rfl

/-- **One character at a time**: the first one is shown, and the bytes behind it are decoded. -/
theorem decode_cons (byte : UInt8) (rest : Bytes) :
    decode (byte :: rest) =
      shown (readChar byte rest).2 :: decode (rest.drop (readChar byte rest).1) := by
  rw [← decodeFrom_eq_decode, decode, decodeFrom]
  cases hread : readChar byte rest with
  | mk used code => cases code <;> rfl

/-! ### Cutting the bytes -/

theorem readTail_take (bits : Nat) (ranges : List (Nat × Nat)) (rest : Bytes) (n : Nat) :
    (readTail bits ranges (rest.take n)).1 = min (readTail bits ranges rest).1 n := by
  induction ranges generalizing bits rest n with
  | nil => simp [readTail]
  | cons range ranges ih =>
    obtain ⟨low, high⟩ := range
    cases rest with
    | nil => simp [readTail]
    | cons byte rest =>
      cases n with
      | zero => simp [readTail]
      | succ n =>
        rw [List.take_succ_cons, readTail, readTail]
        split
        · simp only [ih]
          omega
        · simp

/-- Of bytes that are cut off, as many are used as there are. -/
theorem readChar_take (byte : UInt8) (rest : Bytes) (n : Nat) :
    (readChar byte (rest.take n)).1 = min (readChar byte rest).1 n := by
  unfold readChar
  cases lead? byte with
  | none => simp
  | some lead => exact readTail_take lead.bits lead.tail rest n

/-! ### Newlines -/

/-- The bytes that may follow a lead byte are above ASCII. -/
theorem le_of_mem_tail {byte : UInt8} {lead : Lead} (h : lead? byte = some lead) :
    ∀ range ∈ lead.tail, 0x80 ≤ range.1 := by
  simp only [lead?] at h
  split_ifs at h <;> simp only [Option.some.injEq] at h <;> subst h <;> simp

theorem le_of_mem_take_readTail {bits : Nat} {ranges : List (Nat × Nat)}
    (h : ∀ range ∈ ranges, 0x80 ≤ range.1) (rest : Bytes) :
    ∀ b ∈ rest.take (readTail bits ranges rest).1, 0x80 ≤ b.toNat := by
  induction ranges generalizing bits rest with
  | nil => simp [readTail]
  | cons range ranges ih =>
    obtain ⟨low, high⟩ := range
    cases rest with
    | nil => simp
    | cons byte rest =>
      rw [readTail]
      split
      · next hin =>
        intro b hb
        rcases List.mem_cons.mp hb with rfl | hb
        · exact Nat.le_trans (h _ List.mem_cons_self) hin.1
        · exact ih (fun range hrange => h range (List.mem_cons_of_mem _ hrange)) rest b hb
      · simp

/-- The bytes that are used with a lead byte hold no newline. -/
theorem newline_notMem_take_readChar (byte : UInt8) (rest : Bytes) :
    (10 : UInt8) ∉ rest.take (readChar byte rest).1 := by
  unfold readChar
  cases hlead : lead? byte with
  | none => simp
  | some lead =>
    intro hmem
    exact absurd (le_of_mem_take_readTail (le_of_mem_tail hlead) rest _ hmem) (by decide)

/-- The code point that given bits and the payloads of further bytes make. -/
def codeOf (bits : Nat) (payloads : List Nat) : Nat :=
  payloads.foldl (fun bits payload => bits * 64 + payload) bits

@[simp] theorem codeOf_nil (bits : Nat) : codeOf bits [] = bits := rfl

@[simp] theorem codeOf_cons (bits payload : Nat) (payloads : List Nat) :
    codeOf bits (payload :: payloads) = codeOf (bits * 64 + payload) payloads := rfl

theorem codeOf_mono {bits bits' : Nat} (h : bits ≤ bits') (payloads : List Nat) :
    codeOf bits payloads ≤ codeOf bits' payloads := by
  induction payloads generalizing bits bits' with
  | nil => exact h
  | cons payload payloads ih =>
    exact ih (Nat.add_le_add_right (Nat.mul_le_mul_right 64 h) payload)

/-- A code point that is read is at least the one that the least bytes of the ranges make. -/
theorem codeOf_le {bits : Nat} {ranges : List (Nat × Nat)} {rest : Bytes} {code : Nat}
    (h : (readTail bits ranges rest).2 = .ok code) :
    codeOf bits (ranges.map fun range => range.1 - 0x80) ≤ code := by
  induction ranges generalizing bits rest with
  | nil =>
    cases h
    exact Nat.le_refl _
  | cons range ranges ih =>
    obtain ⟨low, high⟩ := range
    cases rest with
    | nil => cases h
    | cons byte rest =>
      rw [readTail] at h
      split at h
      · next hin =>
        rw [List.map_cons, codeOf_cons]
        refine Nat.le_trans (codeOf_mono ?_ _) (ih h)
        omega
      · cases h

/-- A lead byte above ASCII makes no ASCII character, whatever follows it. -/
theorem le_codeOf_of_lead? {byte : UInt8} {lead : Lead} (h : lead? byte = some lead)
    (hbyte : 0x80 ≤ byte.toNat) :
    0x80 ≤ codeOf lead.bits (lead.tail.map fun range => range.1 - 0x80) := by
  simp only [lead?] at h
  split_ifs at h <;> simp only [Option.some.injEq] at h <;> subst h <;>
    simp only [List.map_cons, List.map_nil, codeOf_cons, codeOf_nil] <;> omega

theorem ofNat_eq_newline_iff (n : Nat) : Char.ofNat n = '\n' ↔ n = 10 := by
  constructor
  · intro h
    by_cases hvalid : n.isValidChar
    · rw [Char.ofNat, dif_pos hvalid] at h
      exact congrArg Char.toNat h
    · rw [Char.ofNat, dif_neg hvalid] at h
      exact absurd h (by decide)
  · rintro rfl
    rfl

/-- **A newline is shown for a newline byte and for nothing else.** -/
theorem shown_eq_newline_iff (byte : UInt8) (rest : Bytes) :
    shown (readChar byte rest).2 = '\n' ↔ byte = 10 := by
  by_cases hascii : byte.toNat < 0x80
  · have hlead : lead? byte = some ⟨byte.toNat, []⟩ := by
      unfold lead?
      rw [if_pos hascii]
    have hchar : shown (readChar byte rest).2 = Char.ofNat byte.toNat := by
      simp only [readChar, hlead, readTail]
      rfl
    rw [hchar, ofNat_eq_newline_iff, ← UInt8.toNat_inj]
    rfl
  · have hreplaced : replacement ≠ '\n' := by decide
    refine iff_of_false (fun hnewline => ?_) ?_
    · unfold readChar at hnewline
      cases hlead : lead? byte with
      | none =>
        rw [hlead] at hnewline
        exact hreplaced hnewline
      | some lead =>
        simp only [hlead] at hnewline
        cases hcode : (readTail lead.bits lead.tail rest).2 with
        | error cause =>
          rw [hcode] at hnewline
          exact hreplaced hnewline
        | ok code =>
          rw [hcode] at hnewline
          have hleast := le_codeOf_of_lead? hlead (Nat.le_of_not_lt hascii)
          have hten := (ofNat_eq_newline_iff code).mp hnewline
          have hle := codeOf_le hcode
          omega
    · rintro rfl
      exact hascii (by decide)

/-- **Newlines may be counted before or after decoding.** The bytes before a cut hold as many
newlines as the decoded text does before the character that the cut falls behind. -/
theorem count_newline_take_decode (bytes : Bytes) (n : Nat) :
    ((decode bytes).take (decode (bytes.take n)).length).count '\n' =
      (bytes.take n).count 10 := by
  induction hlength : bytes.length using Nat.strongRecOn generalizing bytes n with
  | _ length ih =>
    cases bytes with
    | nil => simp
    | cons byte rest =>
      cases n with
      | zero => simp
      | succ n =>
        set used := (readChar byte rest).1 with hused
        -- What is left of the cut bytes behind the first character is the rest, cut as well.
        have hrest : (rest.take n).drop (readChar byte (rest.take n)).1 =
            (rest.drop used).take (n - used) := by
          rw [readChar_take, ← hused, List.drop_take]
          rcases Nat.le_total used n with hle | hle
          · rw [Nat.min_eq_left hle]
          · rw [Nat.min_eq_right hle, Nat.sub_self, Nat.sub_eq_zero_of_le hle, List.take_zero,
              List.take_zero]
        have hnext := ih (rest.drop used).length (by simp at hlength ⊢; omega) (rest.drop used)
          (n - used) rfl
        have hused : (rest.take n).count 10 = ((rest.drop used).take (n - used)).count 10 := by
          have hnone : ((rest.take n).take used).count 10 = 0 := by
            rw [List.count_eq_zero, List.take_take]
            exact fun hmem => newline_notMem_take_readChar byte rest
              (List.take_subset_take_left rest (Nat.min_le_left used n) hmem)
          conv_lhs => rw [← List.take_append_drop used (rest.take n), List.count_append, hnone,
            Nat.zero_add, List.drop_take]
        rw [List.take_succ_cons, decode_cons byte rest, decode_cons byte (rest.take n), hrest,
          List.length_cons, List.take_succ_cons, List.count_cons, List.count_cons, hnext, hused]
        congr 1
        simp only [beq_iff_eq, shown_eq_newline_iff]

end Utf8

end SqlInventory
