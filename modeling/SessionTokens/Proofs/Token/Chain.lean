import SessionTokens.Proofs.Token.Signed

set_option autoImplicit false

namespace SessionTokens

open Text Json

/-- The key in a PEM file, if signatures can be verified with it. -/
def publicKey? (pem : List UInt8) : Option Crypto.Rsa.PublicKey :=
  (Pem.rsaKey? pem).bind RsaKey.readPublic?

/-- A checked pair is a private key and a public one that can be read. -/
theorem SigningKey.readPair_ok {privatePem publicPem : List UInt8} {signer : SigningKey}
    (read : readPair privatePem publicPem = .ok signer) :
    ∃ key publicKey, signer = .rsa key ∧
      (Pem.rsaKey? privatePem).bind RsaKey.readPrivate? = some key ∧
      publicKey? publicPem = some publicKey := by
  unfold readPair at read
  cases first : Pem.rsaKey? privatePem with
  | none => simp only [first] at read; cases read
  | some privateBytes =>
    cases second : Pem.rsaKey? publicPem with
    | none => simp only [first, second] at read; cases read
    | some publicBytes =>
      simp only [first, second] at read
      split at read
      · split at read
        · split at read
          · rename_i key found _ _ _ _ publicKey readable
            split at read
            · refine ⟨key, publicKey, (Except.ok.inj read).symm, found, ?_⟩
              rw [publicKey?, second, Option.bind_some, readable]
            · cases read
          · cases read
        · cases read
      · cases read

namespace Codec

variable {keys : KeyMaterial} {settings : CodecSettings} {codec : Codec}

theorem make_ok (made : make keys settings = .ok codec) :
    signingKey keys = .ok codec.signer ∧ standardVerifiers keys = .ok codec.verifiers ∧
      codec.settings = settings := by
  simp only [make, withVerifiers, bind, Except.bind] at made
  cases checked : checkSecret keys.secret with
  | error e => simp only [checked] at made; cases made
  | ok _ =>
    cases chain : standardVerifiers keys with
    | error e => simp only [checked, chain] at made; cases made
    | ok verifiers =>
      cases signing : signingKey keys with
      | error e => simp only [checked, chain, signing] at made; cases made
      | ok signer =>
        simp only [checked, chain, signing] at made
        obtain rfl := Except.ok.inj made
        exact ⟨rfl, rfl, rfl⟩

theorem ofFile_ok {name : String} {file : KeyFile} {pem : List UInt8} {v : Verifier}
    (read : Verifier.ofFile name file pem = .ok v) :
    ∃ bytes, Pem.rsaKey? pem = some bytes ∧ v = Verifier.ofKey name (.rsa bytes) := by
  unfold Verifier.ofFile at read
  split at read
  · rename_i bytes found
    exact ⟨bytes, found, (Except.ok.inj read).symm⟩
  · cases read

/-- What a chain is made of: keys alone, among them the secret and those of the two files. -/
structure IsChainOf (keys : KeyMaterial) (verifiers : List Verifier) : Prop where
  keyed : ∀ v ∈ verifiers, ∃ name k, v = Verifier.ofKey name k
  secret : Verifier.secret keys.secret ∈ verifiers
  file : ∀ pem, keys.publicPem = some pem ∨ keys.peerPem = some pem →
    ∃ name bytes, Pem.rsaKey? pem = some bytes ∧ Verifier.ofKey name (.rsa bytes) ∈ verifiers

section Files

variable {name : String} {file : KeyFile} {pem : Option (List UInt8)} {read : Option Verifier}

theorem mapM_ofFile (mapped : pem.mapM (Verifier.ofFile name file) = .ok read) :
    (pem = none ∧ read = none) ∨ ∃ content bytes, pem = some content ∧
      Pem.rsaKey? content = some bytes ∧ read = some (Verifier.ofKey name (.rsa bytes)) := by
  cases pem with
  | none =>
    obtain rfl := Except.ok.inj mapped
    exact Or.inl ⟨rfl, rfl⟩
  | some content =>
    rw [Option.mapM_some] at mapped
    cases one : Verifier.ofFile name file content with
    | error e =>
      rw [one] at mapped
      cases mapped
    | ok v =>
      rw [one] at mapped
      obtain rfl := Except.ok.inj mapped
      obtain ⟨bytes, found, rfl⟩ := ofFile_ok one
      exact Or.inr ⟨content, bytes, rfl, found, rfl⟩

theorem mem_of_mapM_ofFile (mapped : pem.mapM (Verifier.ofFile name file) = .ok read)
    {v : Verifier} (inside : v ∈ read.toList) :
    ∃ content bytes, pem = some content ∧ Pem.rsaKey? content = some bytes ∧
      v = Verifier.ofKey name (.rsa bytes) := by
  rcases mapM_ofFile mapped with ⟨-, rfl⟩ | ⟨content, bytes, given, found, rfl⟩
  · cases inside
  · exact ⟨content, bytes, given, found, List.mem_singleton.mp inside⟩

theorem exists_of_mapM_ofFile {content : List UInt8}
    (mapped : (some content).mapM (Verifier.ofFile name file) = .ok read) :
    ∃ bytes, Pem.rsaKey? content = some bytes ∧
      Verifier.ofKey name (.rsa bytes) ∈ read.toList := by
  rcases mapM_ofFile mapped with ⟨missing, -⟩ | ⟨_, bytes, given, found, rfl⟩
  · cases missing
  · obtain rfl := Option.some.inj given
    exact ⟨bytes, found, List.mem_singleton_self _⟩

end Files

/-- The peer's key, the service's own and the secret. -/
theorem standardVerifiers_ok {verifiers : List Verifier}
    (chain : standardVerifiers keys = .ok verifiers) :
    ∃ peer own, keys.peerPem.mapM Verifier.peerKey = .ok peer ∧
      keys.publicPem.mapM Verifier.ownKey = .ok own ∧
      verifiers = peer.toList ++ own.toList ++ [Verifier.secret keys.secret] := by
  simp only [standardVerifiers, bind, Except.bind] at chain
  cases peers : keys.peerPem.mapM Verifier.peerKey with
  | error e => simp only [peers] at chain; cases chain
  | ok peer =>
    cases owns : keys.publicPem.mapM Verifier.ownKey with
    | error e => simp only [peers, owns] at chain; cases chain
    | ok own =>
      simp only [peers, owns] at chain
      exact ⟨peer, own, rfl, rfl, (Except.ok.inj chain).symm⟩

/-- The verifiers of a codec have the keys of its material and no others. -/
theorem mem_verifiers (made : make keys settings = .ok codec) {v : Verifier}
    (inside : v ∈ codec.verifiers) :
    v = Verifier.secret keys.secret ∨
      ∃ name pem bytes, (keys.publicPem = some pem ∨ keys.peerPem = some pem) ∧
        Pem.rsaKey? pem = some bytes ∧ v = Verifier.ofKey name (.rsa bytes) := by
  obtain ⟨peer, own, peers, owns, chain⟩ := standardVerifiers_ok (make_ok made).2.1
  rw [chain] at inside
  rcases List.mem_append.mp inside with files | last
  · right
    rcases List.mem_append.mp files with first | second
    · obtain ⟨pem, bytes, given, found, same⟩ := mem_of_mapM_ofFile peers first
      exact ⟨_, pem, bytes, Or.inr given, found, same⟩
    · obtain ⟨pem, bytes, given, found, same⟩ := mem_of_mapM_ofFile owns second
      exact ⟨_, pem, bytes, Or.inl given, found, same⟩
  · exact Or.inl (List.mem_singleton.mp last)

theorem isChainOf_make (made : make keys settings = .ok codec) :
    IsChainOf keys codec.verifiers := by
  refine ⟨?_, ?_, ?_⟩
  · intro v inside
    rcases mem_verifiers made inside with rfl | ⟨name, _, bytes, -, -, rfl⟩
    · exact ⟨_, _, rfl⟩
    · exact ⟨name, .rsa bytes, rfl⟩
  all_goals
    obtain ⟨peer, own, peers, owns, chain⟩ := standardVerifiers_ok (make_ok made).2.1
    rw [chain]
  · exact List.mem_append_right _ (List.mem_singleton_self _)
  · rintro pem (given | given)
    · rw [given] at owns
      obtain ⟨bytes, found, inside⟩ := exists_of_mapM_ofFile owns
      exact ⟨_, bytes, found, List.mem_append_left _ (List.mem_append_right _ inside)⟩
    · rw [given] at peers
      obtain ⟨bytes, found, inside⟩ := exists_of_mapM_ofFile peers
      exact ⟨_, bytes, found, List.mem_append_left _ (List.mem_append_left _ inside)⟩

end Codec

end SessionTokens
