import Tollbooth.Exact.Digest
import Tollbooth.Proofs.Text.Decimal
import Tollbooth.Proofs.Timestamp.Saturation
/-!
# Terms of a transfer

The digest of an authorization exists just if its numbers are well written and its window is not
empty.  A fresh authorization has well-written numbers, so that only its window matters.

An authorization carries its numbers as texts, so there is a check between what was received and
what can be signed.  The checks come one after the other, each of them on one text, and the transfer
is what is left when all have been passed.  A fresh authorization writes numbers that it has just
computed, and whatever is written for a number is read again, so of all the checks only the last
one, that of the window, can still fail.

The window of a fresh authorization ends where the clock ends, at the latest.  At the very end of
the clock no time is left, whatever was asked for, and that is the only reason for the condition on
the clock in what follows.

* `Amount.parse?_eq_some_iff` — the texts that are read as an amount.
* `transfer_eq_ok` — what the numbers of a transfer are.
* `transfer_eq_error` — what can be wrong with them.
* `transfer_fresh`, `digest_fresh` — when a fresh authorization has a digest, and which.
-/

set_option autoImplicit false

namespace Tollbooth

/-- What is read as an amount is one of its spellings, and each of them is read. -/
theorem Amount.parse?_eq_some_iff {s : String} {v : Amount} :
    parse? s = some v ↔ Decimal.Spells s v.toNat := by
  rw [parse?, Option.bind_eq_some_iff, ← Decimal.digits?_eq_some_iff]
  constructor
  · rintro ⟨n, hn, h⟩
    rw [ofNat?] at h
    split at h
    · cases h
      exact hn
    · cases h
  · intro h
    exact ⟨v.toNat, h, dif_pos v.isWord⟩

theorem Timestamp.seconds_lt_bound256 (t : Timestamp) : t.seconds < Word.bound256 :=
  Nat.lt_trans t.isWord (by decide)

/-- Time is left in a window of at least one second, unless the clock stands at its end. -/
theorem Timestamp.lt_add_iff {t : Timestamp} {d : Duration} (h : t.seconds < Word.bound64 - 1) :
    t.seconds < (t.add d).seconds ↔ d.seconds ≠ 0 :=
  lt_addSeconds_iff.trans ((and_iff_left h).trans Nat.one_le_iff_ne_zero)

theorem Timestamp.parse?_amount (t : Timestamp) :
    Amount.parse? t.text = some ⟨t.seconds, t.seconds_lt_bound256⟩ :=
  Amount.parse?_text ⟨t.seconds, t.seconds_lt_bound256⟩

namespace Authorization

/-- The numbers of a transfer are those that the authorization spells, and its window is not
empty. -/
theorem transfer_eq_ok {a : Authorization} {t : Transfer} :
    a.transfer = .ok t ↔
      Amount.parse? a.value = some t.value ∧ Amount.parse? a.validAfter = some t.validAfter ∧
        Amount.parse? a.validBefore = some t.validBefore ∧
        t.validAfter.toNat < t.validBefore.toNat ∧
        t.payer = a.payer ∧ t.payee = a.payee ∧ t.nonce = a.nonce := by
  obtain ⟨payer, payee, value, validAfter, validBefore, nonce⟩ := t
  rw [transfer]
  cases hvalue : Amount.parse? a.value with
  | none => simp
  | some v =>
    cases hafter : Amount.parse? a.validAfter with
    | none => simp
    | some start =>
      cases hbefore : Amount.parse? a.validBefore with
      | none => simp
      | some stop =>
        by_cases hempty : stop.toNat ≤ start.toNat
        · simp only [if_pos hempty]
          constructor
          · intro h
            cases h
          · rintro ⟨-, ⟨⟩, ⟨⟩, hwindow, -⟩
            exact absurd hwindow (Nat.not_lt.2 hempty)
        · simp only [if_neg hempty]
          constructor
          · intro h
            cases h
            exact ⟨rfl, rfl, rfl, Nat.lt_of_not_le hempty, rfl, rfl, rfl⟩
          · rintro ⟨⟨⟩, ⟨⟩, ⟨⟩, -, rfl, rfl, rfl⟩
            rfl

/-- Wrong terms are a wrong amount or a wrong window. -/
theorem transfer_eq_error {a : Authorization} {e : PaymentError}
    (h : a.transfer = .error e) :
    e = .invalidAmount a.value ∨ ∃ flaw, e = .invalidAuthorization flaw := by
  rw [transfer] at h
  cases hvalue : Amount.parse? a.value with
  | none =>
    simp only [hvalue] at h
    exact .inl (Except.error.inj h).symm
  | some value =>
    refine .inr ?_
    simp only [hvalue] at h
    split at h
    · split at h
      · split at h
        · exact ⟨_, (Except.error.inj h).symm⟩
        · cases h
      · exact ⟨_, (Except.error.inj h).symm⟩
    · exact ⟨_, (Except.error.inj h).symm⟩

variable {payer payee : Address} {value : Amount} {now : Timestamp} {window : Duration}
  {nonce : Hash256} {s : Separator} {digest : Hash256}

/-- The numbers of a fresh authorization are those that it was made with. -/
theorem transfer_fresh {t : Transfer} :
    (fresh payer payee value now window nonce).transfer = .ok t ↔
      now.seconds < (now.add window).seconds ∧
        t = ⟨payer, payee, value, ⟨now.seconds, now.seconds_lt_bound256⟩,
          ⟨(now.add window).seconds, (now.add window).seconds_lt_bound256⟩, nonce⟩ := by
  rw [transfer_eq_ok, fresh, Amount.parse?_text, now.parse?_amount, (now.add window).parse?_amount]
  constructor
  · obtain ⟨payer', payee', value', validAfter, validBefore, nonce'⟩ := t
    rintro ⟨⟨⟩, ⟨⟩, ⟨⟩, hwindow, rfl, rfl, rfl⟩
    exact ⟨hwindow, rfl⟩
  · rintro ⟨hwindow, rfl⟩
    exact ⟨rfl, rfl, rfl, hwindow, rfl, rfl, rfl⟩

theorem transfer_fresh_of_le (h : (now.add window).seconds ≤ now.seconds) :
    (fresh payer payee value now window nonce).transfer =
      .error (.invalidAuthorization .emptyWindow) := by
  rw [transfer, fresh]
  simp only [Amount.parse?_text, now.parse?_amount, (now.add window).parse?_amount, if_pos h]

/-- **A fresh authorization can be signed just if time is left in its window**, and what is signed
is the digest of its numbers. -/
theorem digest_fresh :
    (fresh payer payee value now window nonce).digest s = .ok digest ↔
      now.seconds < (now.add window).seconds ∧
        digest = Transfer.digest ⟨payer, payee, value, ⟨now.seconds, now.seconds_lt_bound256⟩,
          ⟨(now.add window).seconds, (now.add window).seconds_lt_bound256⟩, nonce⟩ s := by
  rw [Authorization.digest, digestWith]
  constructor
  · intro h
    cases ht : (fresh payer payee value now window nonce).transfer with
    | error e =>
      rw [ht] at h
      cases h
    | ok t =>
      obtain ⟨hwindow, rfl⟩ := transfer_fresh.1 ht
      rw [ht] at h
      cases h
      exact ⟨hwindow, rfl⟩
  · rintro ⟨hwindow, rfl⟩
    rw [transfer_fresh.2 ⟨hwindow, rfl⟩]
    rfl

end Authorization

end Tollbooth
