import Tollbooth.Proofs.Exact.Authorization
/-!
# The numbers of an authorization

An authorization carries its amount and its times as texts.  A text is read as the number that its
digits denote, or it is not read at all: nothing is cut off, wrapped or taken for zero.  Of several
flaws the first counts, in this order: value, start, end, window.

To denote is defined by the places of the digits, and not by the function that reads them; that the
two agree is in `Text.Decimal`.  What is left to do here is to carry it through the four checks of
an authorization.  Meaning and flaw are stated apart from the check, and since there is always one
of them (`Authorization.means_or_flaw`), it is enough to show that the check agrees with each.

* `Amount.map_parse?_eq_some_iff` — which texts are read as an amount, and as which.
* `Authorization.Means` — the transfer that an authorization spells.
* `Authorization.Flaw` — the first flaw of an authorization.
* `transfer_eq_ok_iff_means`, `transfer_eq_error_iff` — an authorization is read as what it means,
  or it is refused for its flaw.
* `exists_transfer_fresh` — what a fresh authorization means.
* `numbers_read_exactly` — all of this.
-/

set_option autoImplicit false

namespace Tollbooth

/-! ## Amounts

A text of digits may denote a number that is too large, and then it is no amount.  It is not cut off
to one that fits. -/

namespace Amount

variable {s : String} {n : Nat} {v : Amount}

theorem parse?_eq_some_iff_denotes : parse? s = some v ↔ Decimal.Denotes s v.toNat :=
  parse?_eq_some_iff.trans Decimal.spells_iff_denotes

/-- **A text is read as the number that its digits denote**, if that fits 256 bits. -/
theorem map_parse?_eq_some_iff :
    (parse? s).map (·.toNat) = some n ↔ Decimal.Denotes s n ∧ n < 2 ^ 256 := by
  have hbound : Word.bound256 = 2 ^ 256 := by decide
  rw [Option.map_eq_some_iff, ← hbound]
  constructor
  · rintro ⟨v, hv, rfl⟩
    exact ⟨parse?_eq_some_iff_denotes.1 hv, v.isWord⟩
  · rintro ⟨hdenotes, hn⟩
    exact ⟨⟨n, hn⟩, parse?_eq_some_iff_denotes.2 hdenotes, rfl⟩

theorem parse?_eq_none_iff : parse? s = none ↔ ∀ v : Amount, ¬ Decimal.Denotes s v.toNat := by
  rw [Option.eq_none_iff_forall_ne_some]
  exact forall_congr' fun v => not_congr parse?_eq_some_iff_denotes

end Amount

/-! ## Authorizations

Each constructor of `Flaw` says that what is checked before it is all right, so that an
authorization cannot have two of them. -/

namespace Authorization

variable {a : Authorization} {t : Transfer} {e : PaymentError}

/-- The transfer is the one that the authorization spells: its numbers are those that the texts
denote, all else is as it is, and its window is not empty. -/
structure Means (a : Authorization) (t : Transfer) : Prop where
  payer : t.payer = a.payer
  payee : t.payee = a.payee
  nonce : t.nonce = a.nonce
  value : Decimal.Denotes a.value t.value.toNat
  validAfter : Decimal.Denotes a.validAfter t.validAfter.toNat
  validBefore : Decimal.Denotes a.validBefore t.validBefore.toNat
  window : t.validAfter.toNat < t.validBefore.toNat

/-- The first flaw of an authorization, and the error that names it. -/
inductive Flaw (a : Authorization) : PaymentError → Prop
  /-- The value is no number of 256 bits in decimal digits. -/
  | value (spoiled : ∀ v : Amount, ¬ Decimal.Denotes a.value v.toNat) :
      Flaw a (.invalidAmount a.value)
  /-- The start is no such number. -/
  | validAfter {value : Amount} (amount : Decimal.Denotes a.value value.toNat)
      (spoiled : ∀ v : Amount, ¬ Decimal.Denotes a.validAfter v.toNat) :
      Flaw a (.invalidAuthorization (.validAfter a.validAfter))
  /-- The end is no such number. -/
  | validBefore {value start : Amount} (amount : Decimal.Denotes a.value value.toNat)
      (starts : Decimal.Denotes a.validAfter start.toNat)
      (spoiled : ∀ v : Amount, ¬ Decimal.Denotes a.validBefore v.toNat) :
      Flaw a (.invalidAuthorization (.validBefore a.validBefore))
  /-- The end is not later than the start. -/
  | window {value start stop : Amount} (amount : Decimal.Denotes a.value value.toNat)
      (starts : Decimal.Denotes a.validAfter start.toNat)
      (ends : Decimal.Denotes a.validBefore stop.toNat) (empty : stop.toNat ≤ start.toNat) :
      Flaw a (.invalidAuthorization .emptyWindow)

/-- **An authorization is read as the transfer that it spells.** -/
theorem transfer_eq_ok_iff_means : a.transfer = .ok t ↔ a.Means t := by
  rw [transfer_eq_ok, Amount.parse?_eq_some_iff_denotes, Amount.parse?_eq_some_iff_denotes,
    Amount.parse?_eq_some_iff_denotes]
  constructor
  · rintro ⟨hvalue, hafter, hbefore, hwindow, hpayer, hpayee, hnonce⟩
    exact ⟨hpayer, hpayee, hnonce, hvalue, hafter, hbefore, hwindow⟩
  · rintro ⟨hpayer, hpayee, hnonce, hvalue, hafter, hbefore, hwindow⟩
    exact ⟨hvalue, hafter, hbefore, hwindow, hpayer, hpayee, hnonce⟩

/-- An authorization has a meaning, or a flaw. -/
theorem means_or_flaw (a : Authorization) : (∃ t, a.Means t) ∨ ∃ e, a.Flaw e := by
  by_cases hvalue : ∃ v : Amount, Decimal.Denotes a.value v.toNat
  · obtain ⟨value, hvalue⟩ := hvalue
    by_cases hafter : ∃ v : Amount, Decimal.Denotes a.validAfter v.toNat
    · obtain ⟨start, hafter⟩ := hafter
      by_cases hbefore : ∃ v : Amount, Decimal.Denotes a.validBefore v.toNat
      · obtain ⟨stop, hbefore⟩ := hbefore
        obtain hwindow | hempty := Nat.lt_or_ge start.toNat stop.toNat
        · exact .inl ⟨⟨a.payer, a.payee, value, start, stop, a.nonce⟩, rfl, rfl, rfl, hvalue,
            hafter, hbefore, hwindow⟩
        · exact .inr ⟨_, .window hvalue hafter hbefore hempty⟩
      · exact .inr ⟨_, .validBefore hvalue hafter (not_exists.1 hbefore)⟩
    · exact .inr ⟨_, .validAfter hvalue (not_exists.1 hafter)⟩
  · exact .inr ⟨_, .value (not_exists.1 hvalue)⟩

theorem transfer_of_flaw (h : a.Flaw e) : a.transfer = .error e := by
  rw [transfer]
  cases h with
  | value hspoiled => rw [Amount.parse?_eq_none_iff.2 hspoiled]
  | validAfter hvalue hspoiled =>
    rw [Amount.parse?_eq_some_iff_denotes.2 hvalue, Amount.parse?_eq_none_iff.2 hspoiled]
  | validBefore hvalue hafter hspoiled =>
    rw [Amount.parse?_eq_some_iff_denotes.2 hvalue, Amount.parse?_eq_some_iff_denotes.2 hafter,
      Amount.parse?_eq_none_iff.2 hspoiled]
  | window hvalue hafter hbefore hempty =>
    rw [Amount.parse?_eq_some_iff_denotes.2 hvalue, Amount.parse?_eq_some_iff_denotes.2 hafter,
      Amount.parse?_eq_some_iff_denotes.2 hbefore]
    exact if_pos hempty

/-- **An authorization is refused for its first flaw.** -/
theorem transfer_eq_error_iff : a.transfer = .error e ↔ a.Flaw e := by
  constructor
  · intro h
    obtain ⟨t, ht⟩ | ⟨e', he'⟩ := a.means_or_flaw
    · cases h.symm.trans (transfer_eq_ok_iff_means.2 ht)
    · cases h.symm.trans (transfer_of_flaw he')
      exact he'
  · exact transfer_of_flaw

/-- **A fresh authorization means what it was made with**, if its window has a second and the clock
does not stand at its end. -/
theorem exists_transfer_fresh {payer payee : Address} {value : Amount} {now : Timestamp}
    {window : Duration} {nonce : Hash256} (hnow : now.seconds < 2 ^ 64 - 1)
    (hwindow : 1 ≤ window.seconds) :
    ∃ t, (fresh payer payee value now window nonce).transfer = .ok t ∧
      t.payer = payer ∧ t.payee = payee ∧ t.nonce = nonce ∧ t.value = value ∧
      t.validAfter.toNat = now.seconds ∧
      t.validBefore.toNat = min (now.seconds + window.seconds) (2 ^ 64 - 1) := by
  have hlater : now.seconds < (now.add window).seconds :=
    (Timestamp.lt_add_iff hnow).2 (Nat.ne_of_gt hwindow)
  exact ⟨_, transfer_fresh.2 ⟨hlater, rfl⟩, rfl, rfl, rfl, rfl, rfl, rfl⟩

end Authorization

/-- **Numbers are read as they are written, or not at all.**  A text is an amount just if it is not
empty, has digits only and denotes a number of 256 bits, and it is read as this number.  An
authorization is read as the transfer that it spells, or it is refused for its first flaw.  A fresh
one is read as what it was made with; its window ends where the clock ends, at the latest. -/
theorem numbers_read_exactly :
    (∀ (s : String) (n : Nat),
      (Amount.parse? s).map (·.toNat) = some n ↔ Decimal.Denotes s n ∧ n < 2 ^ 256) ∧
    (∀ (a : Authorization) (t : Transfer), a.transfer = .ok t ↔ a.Means t) ∧
    (∀ (a : Authorization) (e : PaymentError), a.transfer = .error e ↔ a.Flaw e) ∧
    ∀ (payer payee : Address) (value : Amount) (now : Timestamp) (window : Duration)
      (nonce : Hash256), now.seconds < 2 ^ 64 - 1 → 1 ≤ window.seconds →
        ∃ t, (Authorization.fresh payer payee value now window nonce).transfer = .ok t ∧
          t.payer = payer ∧ t.payee = payee ∧ t.nonce = nonce ∧ t.value = value ∧
          t.validAfter.toNat = now.seconds ∧
          t.validBefore.toNat = min (now.seconds + window.seconds) (2 ^ 64 - 1) :=
  ⟨fun _ _ => Amount.map_parse?_eq_some_iff, fun _ _ => Authorization.transfer_eq_ok_iff_means,
    fun _ _ => Authorization.transfer_eq_error_iff,
    fun _ _ _ _ _ _ => Authorization.exists_transfer_fresh⟩

/-- The window of an authorization that is made a second before the clock ends. -/
theorem numbers_read_exactly_late :
    (Timestamp.ofSeconds (2 ^ 64 - 2)).seconds < 2 ^ 64 - 1 ∧
      1 ≤ (Duration.ofSeconds 3600).seconds ∧
      ∃ t, (Authorization.fresh .zero .zero default (.ofSeconds (2 ^ 64 - 2)) (.ofSeconds 3600)
          (Vector.replicate 32 0)).transfer = .ok t ∧
        t.validAfter.toNat = 2 ^ 64 - 2 ∧ t.validBefore.toNat = 2 ^ 64 - 1 := by
  have hnow : (Timestamp.ofSeconds (2 ^ 64 - 2)).seconds < 2 ^ 64 - 1 := by decide
  have hwindow : 1 ≤ (Duration.ofSeconds 3600).seconds := by decide
  obtain ⟨t, ht, -, -, -, -, hafter, hbefore⟩ := numbers_read_exactly.2.2.2 .zero .zero default
    (.ofSeconds (2 ^ 64 - 2)) (.ofSeconds 3600) (Vector.replicate 32 0) hnow hwindow
  exact ⟨hnow, hwindow, t, ht, hafter, hbefore⟩

end Tollbooth
