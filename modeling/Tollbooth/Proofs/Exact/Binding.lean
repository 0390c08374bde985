import Tollbooth.Proofs.Exact.Authorization
import Tollbooth.Proofs.Hash.Collision
/-!
# What a digest binds

Whoever signs a digest signs every field of the transfer and of the signing domain: another field
gives another digest, unless the hash function takes the same value on two different byte strings.
Nothing else is asked of the hash function, and the two strings are among those that are hashed for
the two digests.

A digest is a hash of hashes: the fields of a transfer are laid out in words and hashed, the result
is put behind the separator, and that is hashed again.  The argument goes the same way backwards.
Equal hashes come from equal strings or from a collision; equal strings are cut into their words,
which have a fixed length; and a word tells the field that it was made from.  At each hash there is
one more way out, and all of them are collected in one list of strings, so that the collision that
comes out in the end is between two strings that were really hashed.

* `hashed` — the strings that are hashed for a digest or for a separator.
* `SameTerms` — two authorizations say the same, however their numbers are spelled.
* `digests_bind` — equal digests and equal separators come from equal contents, or from a collision.
-/

set_option autoImplicit false

namespace Tollbooth

variable {hash : HashFunction}

/-! ## Words

A word has 32 bytes, whatever is in it.  Addresses and numbers are padded in front, and nothing is
cut off, because a number that is written in a word is bounded by its type. -/

theorem Address.length_toWord (a : Address) : a.toWord.length = 32 := by
  rw [toWord, List.length_append, List.length_replicate, Octets.length_toBytes]

theorem Address.toWord_injective {a b : Address} (h : a.toWord = b.toWord) : a = b := by
  obtain ⟨a⟩ := a
  obtain ⟨b⟩ := b
  exact congrArg Address.mk (Octets.toBytes_injective (List.append_cancel_left h))

theorem Amount.length_toWord (a : Amount) : a.toWord.length = 32 := Bytes.length_ofNat 32 _

theorem Amount.toWord_injective {a b : Amount} (h : a.toWord = b.toWord) : a = b := by
  obtain ⟨m, hm⟩ := a
  obtain ⟨n, hn⟩ := b
  have : m = n := Bytes.ofNat_injective h hm hn
  subst this
  rfl

/-! ## Transfers

The words of a transfer all have one length and so need nothing between them: the last can be taken
off, then the one before it, and so on. -/

namespace Transfer

/-- The strings that are hashed for the digest of a transfer. -/
def hashed (hash : HashFunction) (t : Transfer) (s : Separator) : List Bytes :=
  [Bytes.ofString typeText, t.preimage hash, t.digestPreimage hash s]

/-- The words of a transfer tell all of its fields. -/
theorem preimage_injective {t u : Transfer} (h : t.preimage hash = u.preimage hash) : t = u := by
  -- The fields are taken off from the back, each by its length.
  obtain ⟨h, hnonce⟩ := List.append_inj' h (by simp only [Octets.length_toBytes])
  obtain ⟨h, hbefore⟩ := List.append_inj' h (by simp only [Amount.length_toWord])
  obtain ⟨h, hafter⟩ := List.append_inj' h (by simp only [Amount.length_toWord])
  obtain ⟨h, hvalue⟩ := List.append_inj' h (by simp only [Amount.length_toWord])
  obtain ⟨h, hpayee⟩ := List.append_inj' h (by simp only [Address.length_toWord])
  have hpayer := List.append_cancel_left h
  obtain ⟨payer, payee, value, validAfter, validBefore, nonce⟩ := t
  obtain ⟨payer', payee', value', validAfter', validBefore', nonce'⟩ := u
  rw [Transfer.mk.injEq]
  exact ⟨Address.toWord_injective hpayer, Address.toWord_injective hpayee,
    Amount.toWord_injective hvalue, Amount.toWord_injective hafter,
    Amount.toWord_injective hbefore, Octets.toBytes_injective hnonce⟩

theorem digestPreimage_injective {t u : Transfer} {s s' : Separator}
    (h : t.digestPreimage hash s = u.digestPreimage hash s') :
    s = s' ∧ t.structHashWith hash = u.structHashWith hash := by
  obtain ⟨h, hstruct⟩ := List.append_inj' h (by simp only [Octets.length_toBytes])
  have hseparator := List.append_cancel_left h
  obtain ⟨s⟩ := s
  obtain ⟨s'⟩ := s'
  exact ⟨congrArg Separator.mk (Octets.toBytes_injective hseparator),
    Octets.toBytes_injective hstruct⟩

/-- The digest of a transfer binds the separator and the transfer. -/
theorem digestWith_binds {t u : Transfer} {s s' : Separator}
    (h : t.digestWith hash s = u.digestWith hash s') :
    (s = s' ∧ t = u) ∨ Collides hash (t.hashed hash s ++ u.hashed hash s') := by
  have hdigest := eq_or_collides (t.hashed hash s ++ u.hashed hash s') (by simp [hashed])
    (by simp [hashed]) h
  refine hdigest.elim (fun hpre => ?_) .inr
  obtain ⟨hs, hstruct⟩ := digestPreimage_injective hpre
  have hfields := eq_or_collides (t.hashed hash s ++ u.hashed hash s') (by simp [hashed])
    (by simp [hashed]) hstruct
  exact hfields.imp_left fun hpre => ⟨hs, preimage_injective hpre⟩

end Transfer

/-! ## Signing domains

Two fields of a domain are texts of any length, and these are hashed before they are laid out.  So
there are three hashes to undo: that of the words, that of the name and that of the version. -/

namespace SigningDomain

/-- The strings that are hashed for the separator of a domain. -/
def hashed (hash : HashFunction) (d : SigningDomain) : List Bytes :=
  [Bytes.ofString typeText, Bytes.ofString d.name, Bytes.ofString d.version, d.preimage hash]

/-- The words of a domain tell its chain and its contract, and name and version by their hashes. -/
theorem preimage_injective {d e : SigningDomain} (h : d.preimage hash = e.preimage hash) :
    hash (Bytes.ofString d.name) = hash (Bytes.ofString e.name) ∧
      hash (Bytes.ofString d.version) = hash (Bytes.ofString e.version) ∧
      d.chain = e.chain ∧ d.contract = e.contract := by
  obtain ⟨h, hcontract⟩ := List.append_inj' h (by simp only [Address.length_toWord])
  obtain ⟨h, hchain⟩ := List.append_inj' h (by simp only [Bytes.length_ofNat])
  obtain ⟨h, hversion⟩ := List.append_inj' h (by simp only [Octets.length_toBytes])
  have hname := List.append_cancel_left h
  obtain ⟨name, version, ⟨m, hm⟩, contract⟩ := d
  obtain ⟨name', version', ⟨n, hn⟩, contract'⟩ := e
  have hnumber : m = n := Bytes.ofNat_injective hchain (Nat.lt_trans hm (by decide))
    (Nat.lt_trans hn (by decide))
  subst hnumber
  exact ⟨Octets.toBytes_injective hname, Octets.toBytes_injective hversion, rfl,
    Address.toWord_injective hcontract⟩

/-- The separator of a domain binds the domain. -/
theorem separatorWith_binds {d e : SigningDomain}
    (h : d.separatorWith hash = e.separatorWith hash) :
    d = e ∨ Collides hash (d.hashed hash ++ e.hashed hash) := by
  let strings := d.hashed hash ++ e.hashed hash
  have hfields := eq_or_collides strings (by simp [strings, hashed]) (by simp [strings, hashed])
    (Separator.mk.inj h)
  refine hfields.elim (fun hpre => ?_) .inr
  obtain ⟨hname, hversion, hchain, hcontract⟩ := preimage_injective hpre
  have hnames :=
    eq_or_collides strings (by simp [strings, hashed]) (by simp [strings, hashed]) hname
  refine hnames.elim (fun hname => ?_) .inr
  have hversions := eq_or_collides strings (by simp [strings, hashed]) (by simp [strings, hashed])
    hversion
  refine hversions.elim (fun hversion => ?_) .inr
  obtain ⟨name, version, chain, contract⟩ := d
  obtain ⟨name', version', chain', contract'⟩ := e
  rw [SigningDomain.mk.injEq]
  exact .inl ⟨Bytes.ofString_injective hname, Bytes.ofString_injective hversion, hchain, hcontract⟩

end SigningDomain

/-! ## Authorizations

The texts of an authorization are read before anything is hashed, so a digest cannot tell two
spellings of a number apart, and should not. -/

/-- Two authorizations say the same: their numbers are equal, and all else is as it is. -/
structure Authorization.SameTerms (a b : Authorization) : Prop where
  payer : a.payer = b.payer
  payee : a.payee = b.payee
  nonce : a.nonce = b.nonce
  value : ∃ v, Amount.parse? a.value = some v ∧ Amount.parse? b.value = some v
  validAfter : ∃ v, Amount.parse? a.validAfter = some v ∧ Amount.parse? b.validAfter = some v
  validBefore : ∃ v, Amount.parse? a.validBefore = some v ∧ Amount.parse? b.validBefore = some v

namespace Authorization

/-- The strings that are hashed for the digest of an authorization: those for the transfer, if its
terms are all right. -/
def hashed (hash : HashFunction) (a : Authorization) (s : Separator) : List Bytes :=
  match a.transfer with
  | .ok t => t.hashed hash s
  | .error _ => []

theorem digestWith_eq_ok {a : Authorization} {s : Separator} {digest : Hash256} :
    a.digestWith hash s = .ok digest ↔ ∃ t, a.transfer = .ok t ∧ t.digestWith hash s = digest := by
  rw [digestWith]
  cases a.transfer with
  | error e =>
    constructor
    · rintro ⟨⟩
    · rintro ⟨t, ⟨⟩, -⟩
  | ok t =>
    constructor
    · rintro ⟨⟩
      exact ⟨t, rfl, rfl⟩
    · rintro ⟨_, ⟨⟩, rfl⟩
      rfl

/-- Authorizations of one transfer say the same. -/
theorem sameTerms_of_transfer {a b : Authorization} {t : Transfer} (ha : a.transfer = .ok t)
    (hb : b.transfer = .ok t) : a.SameTerms b := by
  obtain ⟨hvalue, hafter, hbefore, -, hpayer, hpayee, hnonce⟩ := transfer_eq_ok.1 ha
  obtain ⟨hvalue', hafter', hbefore', -, hpayer', hpayee', hnonce'⟩ := transfer_eq_ok.1 hb
  exact {
    payer := hpayer.symm.trans hpayer'
    payee := hpayee.symm.trans hpayee'
    nonce := hnonce.symm.trans hnonce'
    value := ⟨t.value, hvalue, hvalue'⟩
    validAfter := ⟨t.validAfter, hafter, hafter'⟩
    validBefore := ⟨t.validBefore, hbefore, hbefore'⟩ }

/-- The digest of an authorization binds the separator and the terms. -/
theorem digestWith_binds {a b : Authorization} {s s' : Separator} {digest : Hash256}
    (ha : a.digestWith hash s = .ok digest) (hb : b.digestWith hash s' = .ok digest) :
    (s = s' ∧ a.SameTerms b) ∨ Collides hash (a.hashed hash s ++ b.hashed hash s') := by
  obtain ⟨t, ht, rfl⟩ := digestWith_eq_ok.1 ha
  obtain ⟨u, hu, heq⟩ := digestWith_eq_ok.1 hb
  have hhashed : a.hashed hash s = t.hashed hash s := by rw [hashed, ht]
  have hhashed' : b.hashed hash s' = u.hashed hash s' := by rw [hashed, hu]
  rw [hhashed, hhashed']
  refine (Transfer.digestWith_binds heq.symm).imp_left ?_
  rintro ⟨rfl, rfl⟩
  exact ⟨rfl, sameTerms_of_transfer ht hu⟩

end Authorization

/-- **What a digest binds.**  Under any hash function to 32 bytes: equal digests of authorizations
come from equal separators and equal terms, equal separators of domains come from equal domains, and
equal digests under separators of domains come from equal domains and equal terms; or else the hash
function takes the same value on two different strings among those that were hashed. -/
theorem digests_bind (hash : HashFunction) :
    (∀ (a b : Authorization) (s s' : Separator) (digest : Hash256),
      a.digestWith hash s = .ok digest → b.digestWith hash s' = .ok digest →
        (s = s' ∧ a.SameTerms b) ∨ Collides hash (a.hashed hash s ++ b.hashed hash s')) ∧
    (∀ d e : SigningDomain, d.separatorWith hash = e.separatorWith hash →
      d = e ∨ Collides hash (d.hashed hash ++ e.hashed hash)) ∧
    ∀ (a b : Authorization) (d e : SigningDomain) (digest : Hash256),
      a.digestWith hash (d.separatorWith hash) = .ok digest →
        b.digestWith hash (e.separatorWith hash) = .ok digest →
          (d = e ∧ a.SameTerms b) ∨
            Collides hash (a.hashed hash (d.separatorWith hash) ++
              b.hashed hash (e.separatorWith hash) ++ (d.hashed hash ++ e.hashed hash)) := by
  refine ⟨fun a b s s' digest ha hb => Authorization.digestWith_binds ha hb,
    fun d e h => SigningDomain.separatorWith_binds h, fun a b d e digest ha hb => ?_⟩
  obtain ⟨hs, hterms⟩ | hcollides := Authorization.digestWith_binds ha hb
  · obtain hd | hcollides := SigningDomain.separatorWith_binds hs
    · exact .inl ⟨hd, hterms⟩
    · exact .inr (hcollides.mono (List.subset_append_right _ _))
  · exact .inr (hcollides.mono (List.subset_append_left _ _))

/-- An authorization of an amount between the addresses zero. -/
def bareAuthorization (value : String) : Authorization :=
  ⟨.zero, .zero, value, "0", "1", Vector.replicate 32 0⟩

/-- Under a hash function that tells nothing apart, two amounts have one digest: it collides. -/
theorem digests_bind_constant : ∃ digest,
    (bareAuthorization "5").digestWith (fun _ => digest) default = .ok digest ∧
      (bareAuthorization "6").digestWith (fun _ => digest) default = .ok digest ∧
      Collides (fun _ => digest) ((bareAuthorization "5").hashed (fun _ => digest) default ++
        (bareAuthorization "6").hashed (fun _ => digest) default) := by
  refine ⟨Vector.replicate 32 0, rfl, rfl, ?_⟩
  refine ((digests_bind fun _ => Vector.replicate 32 0).1 _ _ _ _ (Vector.replicate 32 0) rfl
    rfl).resolve_left ?_
  rintro ⟨-, hterms⟩
  obtain ⟨v, hfive, hsix⟩ := hterms.value
  exact absurd (hfive.trans hsix.symm) (by decide)

end Tollbooth
