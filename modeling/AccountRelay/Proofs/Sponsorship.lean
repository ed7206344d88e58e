import AccountRelay.Proofs.Abi
import AccountRelay.Sponsorship

/-! # Reading sponsorship data

A window whose bounds are in range is read back from the data of an authorization, together with the
signature (`Sponsorship.decode_encode`), and no other data are read (`Sponsorship.decode_eq_some_iff`).
-/

namespace AccountRelay.Sponsorship

/-- The data of an authorization are two words and the signature. -/
theorem encode_eq (window : ValidityWindow) (signature : Bytes) :
    encode window signature =
      (Word.ofUInt64 window.validUntil).toList ++
        ((Word.ofUInt64 window.validAfter).toList ++ signature) := by
  have words := Abi.encode_words [Word.ofUInt64 window.validUntil, Word.ofUInt64 window.validAfter]
  change Abi.encode [.ofUInt64 window.validUntil, .ofUInt64 window.validAfter] = _ at words
  rw [encode, words, List.flatMap_cons, List.flatMap_cons, List.flatMap_nil, List.append_nil,
    List.append_assoc]

/-- A bound in range is read back from its word. -/
theorem bound?_ofUInt64 {time : UInt64} (in_range : time.toNat ≤ ValidityWindow.lastTime) :
    bound? (Word.ofUInt64 time).toList = some time := by
  have number : BigEndian.decode (Word.ofUInt64 time).toList = time.toNat :=
    Word.toNat_ofUInt64 time
  rw [bound?, number]
  simp only [in_range, ↓reduceIte, UInt64.ofNat_toNat]

/-- A window in range and a signature are read back from the data of the authorization. -/
theorem decode_encode {window : ValidityWindow}
    (until_in_range : window.validUntil.toNat ≤ ValidityWindow.lastTime)
    (after_in_range : window.validAfter.toNat ≤ ValidityWindow.lastTime) (signature : Bytes) :
    decode (encode window signature) = some (window, signature) := by
  have until_length := (Word.ofUInt64 window.validUntil).length_eq
  have after_length := (Word.ofUInt64 window.validAfter).length_eq
  have long : ¬ (encode window signature).length < 64 := by
    rw [encode_eq, List.length_append, List.length_append, until_length, after_length]
    omega
  have front : (encode window signature).take 32 = (Word.ofUInt64 window.validUntil).toList := by
    rw [encode_eq, List.take_left' until_length]
  have behind : (encode window signature).drop 32 =
      (Word.ofUInt64 window.validAfter).toList ++ signature := by
    rw [encode_eq, List.drop_left' until_length]
  have tail : (encode window signature).drop 64 = signature := by
    rw [← List.drop_drop (i := 32) (j := 32), behind, List.drop_left' after_length]
  rw [decode, if_neg long, front, behind, List.take_left' after_length, tail,
    bound?_ofUInt64 until_in_range, bound?_ofUInt64 after_in_range]
  rfl

/-- A word names a bound in range when it is the word of that bound. -/
theorem eq_ofUInt64_of_bound? {word : Bytes} {time : UInt64} (length_eq : word.length = 32)
    (names : bound? word = some time) :
    word = (Word.ofUInt64 time).toList ∧ time.toNat ≤ ValidityWindow.lastTime := by
  rw [bound?, Option.ite_none_right_eq_some, Option.some_inj] at names
  obtain ⟨in_range, named⟩ := names
  have last : ValidityWindow.lastTime < UInt64.size := by decide
  have number : time.toNat = BigEndian.decode word := by
    rw [← named, UInt64.toNat_ofNat_of_lt' (Nat.lt_of_le_of_lt in_range last)]
  have written : (Octets.ofNat 32 (BigEndian.decode word)).toList = word :=
    congrArg Octets.toList (Octets.ofNat_toNat ⟨word, length_eq⟩)
  rw [Word.ofUInt64, number]
  exact ⟨written.symm, in_range⟩

/-- Data that is decoded is the encoding of what it is decoded to, with both bounds below 48 bits. -/
theorem eq_encode_of_decode {data signature : Bytes} {window : ValidityWindow}
    (reads : decode data = some (window, signature)) :
    data = encode window signature ∧ window.validUntil.toNat ≤ ValidityWindow.lastTime ∧
      window.validAfter.toNat ≤ ValidityWindow.lastTime := by
  rw [decode, Option.ite_none_left_eq_some] at reads
  obtain ⟨long, reads⟩ := reads
  simp only [Option.bind_eq_bind, Option.bind_eq_some_iff, Option.pure_def, Option.some_inj,
    Prod.mk.injEq] at reads
  obtain ⟨validUntil, until_reads, validAfter, after_reads, rfl, rfl⟩ := reads
  have until_length : (data.take 32).length = 32 := by rw [List.length_take]; omega
  have after_length : ((data.drop 32).take 32).length = 32 := by
    rw [List.length_take, List.length_drop]; omega
  obtain ⟨until_word, until_in_range⟩ := eq_ofUInt64_of_bound? until_length until_reads
  obtain ⟨after_word, after_in_range⟩ := eq_ofUInt64_of_bound? after_length after_reads
  refine ⟨?_, until_in_range, after_in_range⟩
  rw [encode_eq, ← until_word, ← after_word, ← List.drop_drop (i := 32) (j := 32),
    List.take_append_drop, List.take_append_drop]

/-- Data are read as a window and a signature exactly when they are the data of these and the bounds
of the window are in range. -/
theorem decode_eq_some_iff {data signature : Bytes} {window : ValidityWindow} :
    decode data = some (window, signature) ↔
      data = encode window signature ∧ window.validUntil.toNat ≤ ValidityWindow.lastTime ∧
        window.validAfter.toNat ≤ ValidityWindow.lastTime := by
  constructor
  · exact eq_encode_of_decode
  · intro known
    obtain ⟨same, until_in_range, after_in_range⟩ := known
    rw [same]
    exact decode_encode until_in_range after_in_range signature

end AccountRelay.Sponsorship
