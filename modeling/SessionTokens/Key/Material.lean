set_option autoImplicit false

namespace SessionTokens

/-- The files and the secret that keys are made of. -/
structure KeyMaterial where
  secret : List UInt8
  privatePem : Option (List UInt8)
  publicPem : Option (List UInt8)
  peerPem : Option (List UInt8)
deriving DecidableEq

/-- A description that tells which keys there are and nothing of what they hold. -/
def KeyMaterial.description (k : KeyMaterial) : String :=
  let privateText := if k.privatePem.isSome then "Some(\"<redacted>\")" else "None"
  "KeyMaterial \x7b hmac_secret: \"<redacted>\", rsa_private_pem: " ++ privateText ++
    ", rsa_public_pem: " ++ toString k.publicPem.isSome ++
    ", peer_public_pem: " ++ toString k.peerPem.isSome ++ " \x7d"

/-- The file that holds no usable key. -/
inductive KeyFile
  | privateKey
  | publicKey
  | peerKey
deriving DecidableEq, Repr

def KeyFile.description : KeyFile → String
  | .privateKey => "RSA private key"
  | .publicKey => "RSA public key"
  | .peerKey => "peer RSA public key"

/-- The fewest bytes of a secret. -/
def minSecretLength : Nat := 32

inductive KeyError
  | secretTooShort (actual : Nat)
  | missingPublicKey
  | keyPairMismatch
  | invalidPem (file : KeyFile)
deriving DecidableEq, Repr

def KeyError.message : KeyError → String
  | .secretTooShort actual =>
    s!"symmetric secret must be at least {minSecretLength} bytes, got {actual}"
  | .missingPublicKey => "an RSA signing key requires the matching public key for verification"
  | .keyPairMismatch => "RSA public key does not match the signing key"
  | .invalidPem file => file.description

end SessionTokens
