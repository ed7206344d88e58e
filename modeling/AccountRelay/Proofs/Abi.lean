import AccountRelay.Abi

/-! # Words of arguments

Arguments that are all words are encoded one behind the other (`Abi.encode_words`), so they are
known by their encoding (`Abi.encode_words_inj`), and so are they by the data of a call
(`Abi.callData_words_inj`). Addresses and numbers are known by their words.
-/

namespace AccountRelay

/-- An address, padded, fills a word. -/
theorem Word.length_padded (address : Address) :
    (List.replicate 12 0 ++ address.toList : Bytes).length = 32 := by
  simp [address.length_eq]

/-- An address as the low 20 bytes of a word. -/
def Word.ofAddress (address : Address) : Word :=
  ⟨List.replicate 12 0 ++ address.toList, Word.length_padded address⟩

/-- A number of 64 bits as a word. -/
def Word.ofUInt64 (number : UInt64) : Word :=
  Octets.ofNat 32 number.toNat

/-- Addresses are told apart by their words. -/
theorem Word.ofAddress_inj {first second : Address} :
    Word.ofAddress first = Word.ofAddress second ↔ first = second := by
  constructor
  · intro same
    exact Octets.toList_injective (List.append_cancel_left (congrArg Octets.toList same))
  · intro same
    rw [same]

/-- A counter and its word are the same number. -/
theorem Word.toNat_ofUInt64 (number : UInt64) : (Word.ofUInt64 number).toNat = number.toNat :=
  Octets.toNat_ofNat (Nat.lt_trans number.toNat_lt (by decide))

/-- Counters are told apart by their words. -/
theorem Word.ofUInt64_inj {first second : UInt64} :
    Word.ofUInt64 first = Word.ofUInt64 second ↔ first = second := by
  constructor
  · intro same
    have numbers := congrArg Octets.toNat same
    rw [Word.toNat_ofUInt64, Word.toNat_ofUInt64] at numbers
    exact UInt64.toNat_inj.mp numbers
  · intro same
    rw [same]

/-- Numbers are told apart by their words. -/
theorem Uint256.toWord_inj {first second : Uint256} :
    first.toWord = second.toWord ↔ first = second := by
  constructor
  · intro same
    rw [← Uint256.ofWord_toWord first, same, Uint256.ofWord_toWord]
  · intro same
    rw [same]

namespace Abi

/-- Static arguments are all heads: their words, one after another. -/
theorem headsAndTails_words (distance : Nat) (words : List Word) :
    headsAndTails distance (words.map .word) = (words.flatMap (·.toList), []) := by
  induction words with
  | nil => rfl
  | cons word rest ih =>
      rw [List.map_cons, headsAndTails, Argument.isDynamic, Argument.encoded, ih]
      rfl

/-- Arguments that are words are encoded one behind the other. -/
theorem encode_words (words : List Word) :
    encode (words.map .word) = words.flatMap (·.toList) := by
  rw [encode, Argument.encoded, headsAndTails_words]
  exact List.append_nil _

/-- Words are known by the bytes that they are put together to. -/
theorem words_inj {first second : List Word}
    (same : first.flatMap (·.toList) = second.flatMap (·.toList)) : first = second := by
  induction first generalizing second with
  | nil =>
      cases second with
      | nil => rfl
      | cons word rest =>
          have length := congrArg List.length same
          simp only [List.flatMap_nil, List.flatMap_cons, List.length_nil, List.length_append,
            word.length_eq] at length
          omega
  | cons word rest ih =>
      cases second with
      | nil =>
          have length := congrArg List.length same
          simp only [List.flatMap_nil, List.flatMap_cons, List.length_nil, List.length_append,
            word.length_eq] at length
          omega
      | cons other others =>
          rw [List.flatMap_cons, List.flatMap_cons] at same
          obtain ⟨here, behind⟩ :=
            List.append_inj same (word.length_eq.trans other.length_eq.symm)
          rw [Octets.toList_injective here, ih behind]

/-- Arguments that are words are known by their encoding. -/
theorem encode_words_inj {first second : List Word} :
    encode (first.map .word) = encode (second.map .word) ↔ first = second := by
  rw [encode_words, encode_words]
  constructor
  · exact words_inj
  · intro same
    rw [same]

/-- A selector has four bytes. -/
theorem length_selector (signature : String) : (selector signature).length = 4 := by
  rw [selector, List.length_take, (keccak256 _).length_eq]
  rfl

/-- A call with words for arguments is its selector followed by the words. -/
theorem callData_words (signature : String) (words : List Word) :
    callData signature (words.map .word) = selector signature ++ words.flatMap (·.toList) :=
  congrArg _ (encode_words words)

/-- Calls of one method with words for arguments are known by the words. -/
theorem callData_words_inj {signature : String} {first second : List Word} :
    callData signature (first.map .word) = callData signature (second.map .word) ↔
      first = second := by
  rw [callData, callData, List.append_cancel_left_eq, encode_words_inj]

end Abi

end AccountRelay
