import SessionTokens.Proofs.Id.Uuid
import SessionTokens.Proofs.Rotation.Deeds
import SessionTokens.Proofs.Token.Clocks
import SessionTokens.Proofs.Traffic.Holding

set_option autoImplicit false

namespace SessionTokens

theorem Directory.id_of_find? {d : Directory} {id : UserId} {a : Account}
    (found : d.find? id = some a) : a.id = id := by
  have same := List.find?_some found
  exact eq_of_beq same

namespace Rotation

variable {codec : Codec}

theorem trusts_self {keys : KeyMaterial} {settings : CodecSettings}
    (made : Codec.make keys settings = .ok codec) : keys.Trusts keys := by
  have signing := (Codec.make_ok made).1
  cases held : keys.privatePem with
  | none => exact Or.inl ⟨held, rfl⟩
  | some privatePem =>
    cases published : keys.publicPem with
    | none =>
      simp only [Codec.signingKey, held, published] at signing
      cases signing
    | some pem =>
      exact Or.inr ⟨by rw [held]; rfl, pem, pem, published, Or.inl published, rfl⟩

/-- A codec reads its own token as it was made, until this expires. -/
theorem decode_own {keys : KeyMaterial} {settings : CodecSettings}
    (made : Codec.make keys settings = .ok codec) (paired : keys.IsPaired) {claims : Claims}
    {token : String} (encoded : codec.encode claims = .ok token) {host : Int} {now : Instant}
    (since : 0 ≤ host) (until_ : host ≤ claims.expiresAt.seconds)
    (future : now < claims.expiresAt) : codec.decode host now token = .ok claims := by
  have after : ¬ claims.expiresAt.seconds < 0 := by omega
  have reached : ¬ claims.expiresAt.seconds < host := by omega
  rw [Codec.decode_of_encode made made paired (trusts_self made) encoded, if_neg after,
    if_neg reached, if_neg (Instant.not_le.mpr future), if_pos rfl]

theorem mint_ok {claims? : Option Claims} {token : String} {claims : Claims}
    (minted : codec.mint claims? = .ok (token, claims)) :
    claims? = some claims ∧ codec.encode claims = .ok token := by
  cases claims? with
  | none => cases minted
  | some given =>
    rw [Codec.mint] at minted
    split at minted
    · rename_i encoded
      obtain ⟨rfl, rfl⟩ := Prod.mk.inj (Except.ok.inj minted)
      exact ⟨rfl, encoded⟩
    · cases minted

/-- A token states its record's identifier and owner at every moment before it expires. -/
theorem presented_of_minted {keys : KeyMaterial} {settings : CodecSettings}
    (made : Codec.make keys settings = .ok codec) (paired : keys.IsPaired) {user : UserId}
    {token : String} {record : Record} (minted : Minted codec user token record) {moment : Moment}
    (future : moment.now < record.expiresAt)
    (host : 0 ≤ moment.host ∧ moment.host ≤ record.expiresAt.seconds) :
    ∃ subject, presented codec moment token = .ok (record.tokenId, subject) ∧
      UserId.read? subject = some user := by
  refine ⟨user.toText, ?_, UserId.read?_toText user⟩
  obtain ⟨_, recordId, id, claims, mint, rfl⟩ := minted
  obtain ⟨stated, encoded⟩ := mint_ok mint
  obtain ⟨expiresAt, -, rfl⟩ := Option.map_eq_some_iff.mp stated
  have decoded := decode_own made paired encoded host.1 host.2 future
  rw [presented, decoded]
  rfl

theorem presented_ok_iff {moment : Moment} {token : String} {id : TokenId} {subject : String} :
    presented codec moment token = .ok (id, subject) ↔
      ∃ claims, codec.decode moment.host moment.now token = .ok claims ∧ claims.kind = .refresh ∧
        claims.tokenId = some id ∧ claims.subject = subject := by
  rw [presented]
  split
  · rename_i expired
    simp [expired]
  · rename_i e other refused
    simp [refused]
  · rename_i claims decoded
    by_cases kind : claims.kind = .refresh
    · cases named : claims.tokenId <;> simp [decoded, kind, named]
    · simp [decoded, kind]

theorem presented_ok {moment : Moment} {token : String} {id : TokenId} {subject : String}
    (stated : presented codec moment token = .ok (id, subject)) :
    ∃ claims, codec.decode moment.host moment.now token = .ok claims ∧
      claims.tokenId = some id := by
  obtain ⟨claims, decoded, -, named, -⟩ := presented_ok_iff.mp stated
  exact ⟨claims, decoded, named⟩

theorem exists_presented_error {moment : Moment} {token : String}
    (unread : ∃ e, codec.decode moment.host moment.now token = .error e) :
    ∃ e, presented codec moment token = .error e := by
  obtain ⟨e, unread⟩ := unread
  rw [presented, unread]
  cases e <;> exact ⟨_, rfl⟩

/-- A token of any origin states one identifier at most. -/
theorem Reads.only {keys : KeyMaterial} {settings : CodecSettings}
    (made : Codec.make keys settings = .ok codec) {token : String} {id : TokenId}
    (reads : Reads codec token id) : ReadsOnly codec token id := by
  intro other reads'
  obtain ⟨moment, subject, stated⟩ := reads
  obtain ⟨moment', subject', stated'⟩ := reads'
  obtain ⟨claims, decoded, named⟩ := presented_ok stated
  obtain ⟨claims', decoded', named'⟩ := presented_ok stated'
  rw [Codec.decode_unique made decoded' decoded, named] at named'
  exact (Option.some.inj named').symm

/-- The record's token has not expired, its owner is enabled, and a successor can be minted. -/
structure Calm (codec : Codec) (r : Record) (w : World) : Prop where
  future : w.moment.now < r.expiresAt
  host : 0 ≤ w.moment.host ∧ w.moment.host ≤ r.expiresAt.seconds
  enabled : ∃ account, w.directory.find? r.owner = some account ∧ account.enabled = true
  mintable : ∀ id, ∃ minted, codec.mintRefresh w.moment.now r.owner.toText id = .ok minted

/-- An answer that does not stand in the way of an exchange. -/
def Eases (codec : Codec) (r : Record) : (e : Effect) → Ledger → e.Answer → Prop
  | .moment, _, moment => moment.now < r.expiresAt ∧
      (0 ≤ moment.host ∧ moment.host ≤ r.expiresAt.seconds) ∧
      ∀ id, ∃ minted, codec.mintRefresh moment.now r.owner.toText id = .ok minted
  | .directory (.find user), _, answer => user = r.owner → ∃ account,
      answer = .ok (some account) ∧ account.enabled = true ∧ account.id = user
  | .ledger (.rotate _ child), l, _ => l.find? child.tokenId = none
  | _, _, _ => True

/-- Nothing stands in the way of exchanges of one token. -/
def eased (codec : Codec) (token : String) (r : Record) (request : Request) : Surroundings where
  rely := Ledger.Keeps
  yields e l answer l' :=
    e.Yields l answer l' ∧ (request = .rotate token → Eases codec r e l answer)
  refl := Ledger.Keeps.refl
  trans := Ledger.Keeps.trans

/-- How an exchange of the record's token may end. -/
def Ends (r : Record) (l l' : Ledger) (outcome : Outcome) : Prop :=
  (∃ rotated : Rotated, outcome = .ok (.rotated rotated) ∧
    l.rotate r.tokenId rotated.record = .ok l') ∨
  ((outcome = .error (.refused .tokenReplayed) ∨ outcome = .error (.refused .concurrentRotation)) ∧
    l' = l ∧ ∃ spent, l.find? r.tokenId = some spent ∧ spent.revoked = true)

/-- A step of an exchange ends it well, or not yet. -/
def Settling (r : Record) (l l' : Ledger) (rest : Program Outcome) : Prop :=
  ∀ outcome, rest = .done outcome → Ends r l l' outcome

variable {token : String} {r : Record} {l : Ledger}

/-- The record is in the ledger, as it was or revoked since. -/
def Stands (r : Record) (l : Ledger) : Prop :=
  ∃ r', l.find? r.tokenId = some r' ∧ r.Ages r'

theorem Stands.later {l' : Ledger} (stands : Stands r l) (kept : l.Keeps l') : Stands r l' := by
  obtain ⟨r', found, ages⟩ := stands
  obtain ⟨r'', found', ages'⟩ := kept _ _ found
  exact ⟨r'', found', ages.trans ages'⟩

theorem settles_ask {e : Effect} {next : e.Answer → Program Outcome}
    (unfinished : ∀ l answer l', e.Yields l answer l' → Eases codec r e l answer →
      Stands r l → Settling r l l' (next answer))
    (later : ∀ m, Stands r m → ∀ answer n, e.Yields m answer n → Eases codec r e m answer →
      (next answer).Upholds (eased codec token r (.rotate token)) (Settling r) n)
    (stands : Stands r l) :
    (Program.perform e next).Upholds (eased codec token r (.rotate token)) (Settling r) l := by
  rintro m moved answer n ⟨yields, eases⟩
  have stands' := stands.later moved
  exact ⟨unfinished m answer n yields (eases rfl) stands',
    later m stands' answer n yields (eases rfl)⟩

theorem settles_committing {account : Account} {successor : String} {child : Record}
    (stands : Stands r l) :
    (committing r.tokenId account successor child).Upholds (eased codec token r (.rotate token))
      (Settling r) l := by
  rintro m moved answer n ⟨yields, eases⟩
  have fresh : m.find? child.tokenId = none := eases rfl
  obtain ⟨r', found, -⟩ := stands.later moved
  rcases Ledger.rotate_error m r.tokenId child fresh with
    ⟨-, missing⟩ | ⟨refused, spent⟩ | ⟨l', stored⟩
  · rw [found] at missing
    cases missing
  · obtain ⟨rfl, rfl⟩ := Prod.mk.inj (yields.trans (by rw [Ledger.answer, refused, commit]))
    refine ⟨?_, trivial⟩
    intro outcome same
    obtain rfl := Program.done.inj same
    exact Or.inr ⟨Or.inr rfl, rfl, spent⟩
  · obtain ⟨rfl, rfl⟩ := Prod.mk.inj (yields.trans (by rw [Ledger.answer, stored, commit]))
    refine ⟨?_, trivial⟩
    intro outcome same
    obtain rfl := Program.done.inj same
    exact Or.inl ⟨_, rfl, stored⟩

theorem settling_perform (l l' : Ledger) (e : Effect) (next : e.Answer → Program Outcome) :
    Settling r l l' (.perform e next) :=
  fun _ same => nomatch same

theorem settles_minting {account : Account} (own : account.id = r.owner) (stands : Stands r l) :
    (minting codec account.id (committing r.tokenId account)).Upholds
      (eased codec token r (.rotate token)) (Settling r) l := by
  refine settles_ask (fun _ _ _ _ _ _ => settling_perform _ _ _ _) ?_ stands
  rintro m₁ stands₁ id n₁ rfl -
  refine settles_ask ?_ ?_ stands₁
  · rintro l moment l' - ⟨-, -, mintable⟩ -
    obtain ⟨minted, made⟩ := mintable id
    rw [← own] at made
    simp only [made]
    exact settling_perform _ _ _ _
  · rintro m₂ stands₂ moment n₂ rfl ⟨-, -, mintable⟩
    obtain ⟨minted, made⟩ := mintable id
    rw [← own] at made
    simp only [made]
    refine settles_ask (fun _ _ _ _ _ _ => settling_perform _ _ _ _) ?_ stands₂
    rintro m₃ stands₃ recordId n₃ rfl -
    exact settles_committing stands₃

theorem settles_ageing {account : Account} {record : Record} (own : account.id = r.owner)
    (age : record.expiresAt = r.expiresAt) (stands : Stands r l) :
    (ageing codec r.tokenId account record).Upholds (eased codec token r (.rotate token))
      (Settling r) l := by
  have current : ∀ {moment : Moment}, moment.now < r.expiresAt →
      ¬ record.expiresAt ≤ moment.now := by
    intro moment future
    rw [age]
    exact Instant.not_le.mpr future
  refine settles_ask ?_ ?_ stands
  · rintro l moment l' - ⟨future, -⟩ -
    rw [if_neg (current future)]
    exact settling_perform _ _ _ _
  · rintro m stands' moment n rfl ⟨future, -⟩
    rw [if_neg (current future)]
    exact settles_minting own stands'

theorem usable_of_stands {user : UserId} {r' : Record} (own : user = r'.owner) :
    usable user (some r') = if r'.revoked then .error .tokenReplayed else .ok r' := by
  rw [usable, if_neg (not_not_intro own.symm)]

theorem settles_lookingUp {account : Account} (own : account.id = r.owner) (stands : Stands r l) :
    (lookingUp codec r.tokenId account).Upholds (eased codec token r (.rotate token))
      (Settling r) l := by
  rintro m moved answer n ⟨yields, -⟩
  obtain ⟨rfl, rfl⟩ := Prod.mk.inj yields
  obtain ⟨r', found, ages⟩ := stands.later moved
  simp only [found, usable_of_stands (own.trans ages.owner.symm)]
  cases revoked : r'.revoked with
  | true =>
    simp only [if_true]
    refine ⟨?_, trivial⟩
    intro outcome same
    obtain rfl := Program.done.inj same
    exact Or.inr ⟨Or.inl rfl, rfl, r', found, revoked⟩
  | false =>
    simp only [Bool.false_eq_true, if_false]
    exact ⟨settling_perform _ _ _ _, settles_ageing own ages.expiresAt ⟨r', found, ages⟩⟩

theorem settles_resolving {subject : String} (read : UserId.read? subject = some r.owner)
    (stands : Stands r l) :
    (resolving codec r.tokenId subject).Upholds (eased codec token r (.rotate token))
      (Settling r) l := by
  rw [resolving, read]
  refine settles_ask ?_ ?_ stands
  · rintro l answer l' - eases -
    obtain ⟨account, rfl, enabled, -⟩ := eases rfl
    simp only [Option.filter_some, enabled, if_true]
    exact settling_perform _ _ _ _
  · rintro m stands' answer n yields eases
    obtain ⟨account, rfl, enabled, own⟩ := eases rfl
    obtain rfl : n = m := yields
    simp only [Option.filter_some, enabled, if_true]
    exact settles_lookingUp own stands'

/-- Whatever other requests do meanwhile, an exchange ends well. -/
theorem settles_presenting {keys : KeyMaterial} {settings : CodecSettings}
    (made : Codec.make keys settings = .ok codec) (paired : keys.IsPaired)
    (minted : Minted codec r.owner token r) (stands : Stands r l) :
    (presenting codec token).Upholds (eased codec token r (.rotate token)) (Settling r) l := by
  refine settles_ask ?_ ?_ stands
  · rintro l moment l' - ⟨future, host, -⟩ -
    obtain ⟨subject, stated, read⟩ := presented_of_minted made paired minted future host
    simp only [stated]
    rw [resolving, read]
    exact settling_perform _ _ _ _
  · rintro m stands' moment n rfl ⟨future, host, -⟩
    obtain ⟨subject, stated, read⟩ := presented_of_minted made paired minted future host
    simp only [stated]
    exact settles_resolving read stands'

theorem not_holds_minting {user : UserId} {andThen : String → Record → Program Outcome}
    {c : TokenId}
    (writes : ∀ token record, (andThen token record).Holds c → record.tokenId = c) :
    ¬ (minting codec user andThen).Holds c := by
  rintro (none | ⟨id, other, none | ⟨moment, -, holds⟩⟩)
  · exact none
  · exact none
  · cases minted : codec.mintRefresh moment.now user.toText id with
    | error fault =>
      simp only [minted] at holds
      exact holds
    | ok made =>
      simp only [minted] at holds
      rcases holds with none | ⟨recordId, -, holds⟩
      · exact none
      · exact other (writes _ _ holds)

theorem not_holds_refusal (cause : RotationError) (c : TokenId) : ¬ (refusal cause).Holds c :=
  id

theorem tokenId_of_holds_storing {token : String} {record : Record} {c : TokenId}
    (holds : (storing token record).Holds c) : record.tokenId = c := by
  rcases holds with writes | ⟨answer, -, holds⟩
  · exact writes
  · cases answer <;> exact absurd holds id

theorem tokenId_of_holds_committing {old : TokenId} {account : Account} {token : String}
    {child : Record} {c : TokenId} (holds : (committing old account token child).Holds c) :
    child.tokenId = c := by
  rcases holds with writes | ⟨answer, -, holds⟩
  · exact writes
  · cases answer <;> exact absurd holds id

theorem not_holds_presenting (token : String) (c : TokenId) :
    ¬ (presenting codec token).Holds c := by
  rintro (none | ⟨moment, -, holds⟩)
  · exact none
  dsimp only at holds
  split at holds
  · exact not_holds_refusal _ c holds
  unfold resolving at holds
  split at holds
  · exact not_holds_refusal _ c holds
  rcases holds with none | ⟨found, -, holds⟩
  · exact none
  dsimp only at holds
  split at holds
  · exact not_holds_refusal _ c holds
  split at holds
  · exact not_holds_refusal _ c holds
  rcases holds with none | ⟨found, -, holds⟩
  · exact none
  dsimp only at holds
  split at holds
  · exact not_holds_refusal _ c holds
  split at holds
  · exact not_holds_refusal _ c holds
  rcases holds with none | ⟨later, -, holds⟩
  · exact none
  dsimp only at holds
  split at holds
  · exact not_holds_refusal _ c holds
  · exact not_holds_minting (fun _ _ => tokenId_of_holds_committing) holds

theorem not_holds_program (request : Request) (c : TokenId) :
    ¬ (program codec request).Holds c := by
  cases request with
  | issue user =>
    rw [program_issue]
    exact not_holds_minting fun _ _ => tokenId_of_holds_storing
  | rotate token =>
    rw [program_rotate]
    exact not_holds_presenting token c
  | revokeAll user =>
    rw [program_revokeAll]
    rintro (none | ⟨answer, -, holds⟩)
    · exact none
    · cases answer <;> exact absurd holds id

end Rotation

end SessionTokens
