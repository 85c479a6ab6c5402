import SessionTokens.Crypto.Sha256

set_option autoImplicit false

namespace SessionTokens.Crypto.Hmac

/-- A key as one block: a long key is replaced by its digest, a short one is filled with zeros. -/
def block (key : List UInt8) : List UInt8 :=
  let k := if key.length ≤ 64 then key else Sha256.digest key
  k ++ List.replicate (64 - k.length) 0

/-- The authentication code of a message, 32 bytes. -/
def code (key message : List UInt8) : List UInt8 :=
  let k := block key
  Sha256.digest (k.map (· ^^^ 0x5c) ++ Sha256.digest (k.map (· ^^^ 0x36) ++ message))

theorem length_code (key message : List UInt8) : (code key message).length = 32 :=
  Sha256.length_digest _

end SessionTokens.Crypto.Hmac
