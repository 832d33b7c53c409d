namespace IdFactory

/-!
# The bytes of ASCII text

The UTF-8 bytes of a text are the encodings of its characters, one after the
other, and an ASCII character is encoded as the one byte of its code. So the
bytes of an ASCII text are its character codes, each below 128, and a byte
below 128 read as a character is encoded as itself.
-/

theorem ByteArray.toList_loop
    (bytes : ByteArray)
    (i : Nat)
    (reversed : List UInt8) :
    ByteArray.toList.loop bytes i reversed = reversed.reverse ++ bytes.data.toList.drop i := by
  fun_induction ByteArray.toList.loop bytes i reversed with
  | case1 i reversed inRange inductionHypothesis =>
      rw [inductionHypothesis]
      have inList : i < bytes.data.toList.length := by simpa using inRange
      rw [List.drop_eq_getElem_cons inList]
      simp [ByteArray.get!, inRange]
  | case2 i reversed outOfRange =>
      have past : bytes.data.toList.length ≤ i := by
        simpa using Nat.le_of_not_lt outOfRange
      rw [List.drop_eq_nil_of_le past, List.append_nil]

theorem ByteArray.toList_eq
    (bytes : ByteArray) :
    bytes.toList = bytes.data.toList := by
  simp [ByteArray.toList, ByteArray.toList_loop]

/-- The bytes of a text: the UTF-8 encodings of its characters, one after the other. -/
theorem String.toUTF8_toList
    (text : String) :
    text.toUTF8.toList = text.toList.flatMap String.utf8EncodeChar := by
  rw [String.toUTF8_eq_toByteArray, ← String.utf8Encode_toList, List.utf8Encode,
    ByteArray.toList_eq, List.data_toByteArray, List.toList_toArray]

/-- An ASCII character is encoded as the one byte of its code. -/
theorem String.utf8EncodeChar_of_lt
    (c : Char)
    (ascii : c.toNat < 128) :
    String.utf8EncodeChar c = [c.toNat.toUInt8] := by
  have small : c.val ≤ 127 := by
    have bound : c.val.toNat < 128 := ascii
    exact UInt32.le_iff_toNat_le.mpr (by simpa using Nat.le_of_lt_succ bound)
  rw [String.utf8EncodeChar_eq_singleton (Char.utf8Size_eq_one_iff.mpr small)]
  rfl

/-- An ASCII byte read as a character is encoded as itself. -/
theorem String.utf8EncodeChar_ofNat
    (byte : UInt8)
    (ascii : byte.toNat < 128) :
    String.utf8EncodeChar (Char.ofNat byte.toNat) = [byte] := by
  have valid : byte.toNat.isValidChar := Or.inl (by omega)
  have sameCode : (Char.ofNat byte.toNat).toNat = byte.toNat := by
    rw [Char.ofNat, dif_pos valid]
    rfl
  rw [String.utf8EncodeChar_of_lt _ (by rw [sameCode]; exact ascii), sameCode, Nat.toUInt8,
    UInt8.ofNat_toNat]

/-- The bytes of an ASCII text are its character codes. -/
theorem String.toUTF8_toList_of_ascii
    {text : String}
    (ascii : ∀ c ∈ text.toList, c.toNat < 128) :
    text.toUTF8.toList = text.toList.map fun c => c.toNat.toUInt8 := by
  rw [String.toUTF8_toList]
  generalize text.toList = chars at ascii ⊢
  induction chars with
  | nil =>
      rfl
  | cons c rest inductionHypothesis =>
      rw [List.flatMap_cons, String.utf8EncodeChar_of_lt c (ascii c (by simp)),
        inductionHypothesis fun later member => ascii later (by simp [member])]
      rfl

theorem String.toUTF8_ascii
    {text : String}
    (ascii : ∀ c ∈ text.toList, c.toNat < 128) :
    ∀ byte ∈ text.toUTF8.toList, byte.toNat < 128 := by
  intro byte member
  rw [String.toUTF8_toList_of_ascii ascii, List.mem_map] at member
  obtain ⟨c, charMember, rfl⟩ := member
  rw [Nat.toUInt8, UInt8.toNat_ofNat']
  exact Nat.lt_of_le_of_lt (Nat.mod_le _ _) (ascii c charMember)

end IdFactory
