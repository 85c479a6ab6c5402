import SessionTokens.Config.Environment
import SessionTokens.Text.Split

set_option autoImplicit false

namespace SessionTokens

structure AdminConfig where
  username : String
  passwordHash : String
  peerUrl : String
  peerAudience : String
deriving DecidableEq

namespace AdminConfig

def hashVariable : String := "WARDEN_ADMIN_PASSWORD_HASH"

def load (env : Environment) : Except ConfigError AdminConfig := do
  let passwordHash ← env.require hashVariable
  if !Text.startsWith "$argon2" passwordHash then
    .error (.invalid hashVariable "expected an argon2 PHC string")
  else
    .ok
      { username := env.getD "WARDEN_ADMIN_USERNAME" "admin"
        passwordHash
        peerUrl := withoutEndSlashes (env.getD "WARDEN_PEER_URL" "http://localhost:8080")
        peerAudience := env.getD "WARDEN_PEER_AUDIENCE" "user-service" }

end AdminConfig

end SessionTokens
