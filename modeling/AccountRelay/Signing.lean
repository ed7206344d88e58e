import AccountRelay.Crypto.Ecdsa
import AccountRelay.Crypto.Keccak
import AccountRelay.Failure

/-! # Keys and personal signatures

A key is written in hexadecimal digits. It signs a hash as a personal message: the digest that is
signed is the one of a fixed greeting, the length of the message and the message.
-/

namespace AccountRelay

namespace SecretKey

/-- Reads the 32 bytes of a key: digits with blanks around them, behind an optional `0X` and another
mark of either case. -/
def parse (text : String) : Except Failure SecretKey :=
  match Hex.decode (Hex.unmarkedEither (Hex.unmarkedUpper (Text.trimmed text.toList))) with
  | .error fault => .error (.keyDigits fault)
  | .ok bytes =>
    match Octets.ofBytes? 32 bytes with
    | none => .error (.keyDigits .wrongLength)
    | some octets =>
      match ofOctets? octets with
      | some key => .ok key
      | none => .error .keyOutOfRange

/-- The key that a setting holds. -/
def ofSetting (setting : String) : Option String → Except Failure SecretKey
  | none => .error (.missingKey setting)
  | some text => (parse text).mapError (.within (.privateKey setting))

/-- The account that signs with the key: the last 20 bytes of the digest of its public point. -/
def address (key : SecretKey) : Address :=
  let point := match key.publicPoint with
    | .affine x y => BigEndian.encode 32 x ++ BigEndian.encode 32 y
    | .neutral => []
  ⟨(keccak256 point).toList.drop 12, by simp [(keccak256 point).length_eq]⟩

end SecretKey

/-- The digest that is signed for a hash as a personal message. -/
def personalDigest (hash : Hash) : Hash :=
  keccak256 (0x19 :: Bytes.ofText "Ethereum Signed Message:\n32" ++ hash.toList)

/-- The personal signature of a hash. -/
def SecretKey.signHash (key : SecretKey) (hash : Hash) : Bytes :=
  (Ecdsa.sign key (personalDigest hash)).toBytes

end AccountRelay
