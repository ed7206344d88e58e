import AccountRelay.Operation.Hash
import AccountRelay.Proofs.Abi
import AccountRelay.Proofs.Operation.Normal

/-! # What the hash of an operation covers

The hash is a digest of digests: of the byte strings of the packed operation, of the words that
stand for it, and of these with the entry point and the chain. Here the digest is any function
(`PackedOperation.hashBy`). Whatever it is, two operations with one hash have the same entry point,
the same chain and, up to the signature, the same normal form, or two strings that take the same
place under the digest differ and have the same digest (`Operation.hash_binds`).
-/

namespace AccountRelay

namespace PackedOperation

variable (digest : Bytes → Hash) (operation : PackedOperation)

/-- The words that stand for the operation, with a digest in place of every byte string. -/
def summaryWords : List Word :=
  [Word.ofAddress operation.sender, operation.nonce.toWord, digest operation.initCode,
    digest operation.callData, operation.accountGasLimits, operation.preVerificationGas.toWord,
    operation.gasFees, digest operation.paymasterAndData]

/-- The text that stands for the operation. -/
def summaryBy : Bytes :=
  Abi.encode ((operation.summaryWords digest).map .word)

/-- The words of which the hash is the digest. -/
def envelopeWords (entryPoint : Address) (chainId : UInt64) : List Word :=
  [digest (operation.summaryBy digest), Word.ofAddress entryPoint, Word.ofUInt64 chainId]

/-- The text of which the hash is the digest. -/
def envelopeBy (entryPoint : Address) (chainId : UInt64) : Bytes :=
  Abi.encode ((operation.envelopeWords digest entryPoint chainId).map .word)

/-- The hash of an operation for an entry point on a chain, with any digest. -/
def hashBy (entryPoint : Address) (chainId : UInt64) : Hash :=
  digest (operation.envelopeBy digest entryPoint chainId)

/-- All byte strings that enter the hash of an operation through the digest. -/
def digested (entryPoint : Address) (chainId : UInt64) : List Bytes :=
  [operation.initCode, operation.callData, operation.paymasterAndData, operation.summaryBy digest,
    operation.envelopeBy digest entryPoint chainId]

/-- An operation's hash is the one by Keccak. -/
theorem hash_eq_hashBy (entryPoint : Address) (chainId : UInt64) :
    operation.hash entryPoint chainId = operation.hashBy keccak256 entryPoint chainId := rfl

end PackedOperation

/-- Whether two strings that stand in the same place of two lists differ and have one digest. -/
def Collides (digest : Bytes → Hash) (texts others : List Bytes) : Prop :=
  ∃ pair ∈ texts.zip others, pair.1 ≠ pair.2 ∧ digest pair.1 = digest pair.2

/-- Without a collision strings in the same place are known by their digests. -/
theorem eq_of_not_collides {digest : Bytes → Hash} {texts others : List Bytes}
    (unique : ¬ Collides digest texts others) {text other : Bytes}
    (paired : (text, other) ∈ texts.zip others) (same : digest text = digest other) :
    text = other := by
  apply Classical.byContradiction
  intro different
  exact unique ⟨(text, other), paired, different, same⟩

/-- Without a collision a hash tells the entry point, the chain and all of the packed operation but
its signature. -/
theorem PackedOperation.eq_of_hashBy_eq {digest : Bytes → Hash} {one two : PackedOperation}
    {entryPoint entryPoint' : Address} {chainId chainId' : UInt64}
    (unique : ¬ Collides digest (one.digested digest entryPoint chainId)
      (two.digested digest entryPoint' chainId'))
    (same : one.hashBy digest entryPoint chainId = two.hashBy digest entryPoint' chainId') :
    entryPoint = entryPoint' ∧ chainId = chainId' ∧
      { one with signature := two.signature } = two := by
  -- From the outermost digest inwards, each string gives the digests of the strings below it.
  have envelope := eq_of_not_collides unique (by simp [digested]) same
  have words := Abi.encode_words_inj.mp envelope
  simp only [envelopeWords, List.cons.injEq, Word.ofAddress_inj, Word.ofUInt64_inj,
    and_true] at words
  obtain ⟨summaries, entryPoints, chains⟩ := words
  have summary := eq_of_not_collides unique (by simp [digested]) summaries
  have fields := Abi.encode_words_inj.mp summary
  simp only [summaryWords, List.cons.injEq, Word.ofAddress_inj, Uint256.toWord_inj,
    and_true] at fields
  obtain ⟨sender, nonce, initCodes, callDatas, limits, preVerification, fees, paymasters⟩ := fields
  have initCode := eq_of_not_collides unique (by simp [digested]) initCodes
  have callData := eq_of_not_collides unique (by simp [digested]) callDatas
  have paymaster := eq_of_not_collides unique (by simp [digested]) paymasters
  refine ⟨entryPoints, chains, ?_⟩
  rw [sender, nonce, initCode, callData, limits, preVerification, fees, paymaster]

namespace Operation

/-- What a hash covers of an operation: its normal form without the signature. -/
def covered (operation : Operation) : Operation :=
  { operation.normal with signature := [] }

variable {first second : Operation} {one two : PackedOperation}

/-- What a hash covers tells the packed form but for the signature. -/
theorem covered_eq_iff (first_packs : first.pack = .ok one) (second_packs : second.pack = .ok two) :
    first.covered = second.covered ↔ { one with signature := two.signature } = two := by
  have first_bare := pack_signature first_packs []
  have second_bare := pack_signature second_packs []
  constructor
  · intro same
    have covered_one : first.covered.pack = .ok { one with signature := [] } := by
      rw [← first_bare]
      exact pack_normal { first with signature := [] }
    have covered_two : second.covered.pack = .ok { two with signature := [] } := by
      rw [← second_bare]
      exact pack_normal { second with signature := [] }
    rw [same, covered_two] at covered_one
    have bare := (Except.ok.inj covered_one).symm
    exact congrArg (fun packed => { packed with signature := two.signature }) bare
  · intro same
    have bare : { one with signature := [] } = { two with signature := [] } := by rw [← same]
    rw [bare] at first_bare
    exact normal_eq_of_pack first_bare second_bare

/-- **What a hash covers.** Whatever the digest is, two operations that have one hash, each for its
entry point and its chain, have the entry point and the chain in common and all that a hash covers,
or two strings that took the same place under the digest differ and have one digest. Conversely,
what a hash covers, the entry point and the chain settle the hash; so an operation packs with any
signature, and has the same hash with it. The hash of operations is the one whose digest is
Keccak. -/
theorem hash_binds (digest : Bytes → Hash) (first_packs : first.pack = .ok one)
    (second_packs : second.pack = .ok two) (entryPoint entryPoint' : Address)
    (chainId chainId' : UInt64) :
    (one.hashBy digest entryPoint chainId = two.hashBy digest entryPoint' chainId' →
      (entryPoint = entryPoint' ∧ chainId = chainId' ∧ first.covered = second.covered) ∨
      Collides digest (one.digested digest entryPoint chainId)
        (two.digested digest entryPoint' chainId')) ∧
    (entryPoint = entryPoint' ∧ chainId = chainId' ∧ first.covered = second.covered →
      one.hashBy digest entryPoint chainId = two.hashBy digest entryPoint' chainId') ∧
    (∀ signature, ∃ signed, { first with signature }.pack = .ok signed ∧
      signed.hashBy digest entryPoint chainId = one.hashBy digest entryPoint chainId) ∧
    one.hash entryPoint chainId = one.hashBy keccak256 entryPoint chainId ∧
    two.hash entryPoint' chainId' = two.hashBy keccak256 entryPoint' chainId' := by
  refine ⟨?_, ?_, ?_, one.hash_eq_hashBy _ _, two.hash_eq_hashBy _ _⟩
  · intro same
    rcases Classical.em (Collides digest (one.digested digest entryPoint chainId)
      (two.digested digest entryPoint' chainId')) with collision | unique
    · exact .inr collision
    · obtain ⟨entryPoints, chains, but_signature⟩ := PackedOperation.eq_of_hashBy_eq unique same
      exact .inl ⟨entryPoints, chains, (covered_eq_iff first_packs second_packs).mpr but_signature⟩
  · rintro ⟨rfl, rfl, covered⟩
    have but_signature := (covered_eq_iff first_packs second_packs).mp covered
    rw [← but_signature]
    rfl
  · intro signature
    exact ⟨_, pack_signature first_packs signature, rfl⟩

/-- Two operations that differ in fields that a hash does not cover have one hash. -/
theorem hash_binds_plain :
    let plain : Operation :=
      { sender := .filled 20 0x11, nonce := 3, gas := ⟨50000, 100000, 100000⟩, fees := ⟨2, 1⟩ }
    let signed : Operation :=
      { plain with
        factoryData := [0xfe], paymaster := some (.filled 20 0), paymasterData := [0x01],
        signature := [0x55] }
    let entryPoint : Address := .filled 20 0xee
    ∃ one two, plain.pack = .ok one ∧ signed.pack = .ok two ∧
      one.hashBy keccak256 entryPoint 1 = two.hashBy keccak256 entryPoint 1 ∧
      (one.hashBy keccak256 entryPoint 1 = two.hashBy keccak256 entryPoint 2 →
        Collides keccak256 (one.digested keccak256 entryPoint 1)
          (two.digested keccak256 entryPoint 2)) := by
  intro plain signed entryPoint
  obtain ⟨one, plain_packs⟩ : ∃ one, plain.pack = .ok one := ⟨_, rfl⟩
  obtain ⟨two, signed_packs⟩ : ∃ two, signed.pack = .ok two := ⟨_, rfl⟩
  refine ⟨one, two, plain_packs, signed_packs, ?_, ?_⟩
  · have covers := hash_binds keccak256 plain_packs signed_packs entryPoint entryPoint 1 1
    exact covers.2.1 ⟨rfl, rfl, by decide⟩
  · intro same
    have covers := hash_binds keccak256 plain_packs signed_packs entryPoint entryPoint 1 2
    exact (covers.1 same).resolve_left fun agree => absurd agree.2.1 (by decide)

end Operation

end AccountRelay
