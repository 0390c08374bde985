import Tollbooth.Config
import Tollbooth.Proofs.Json.Record
/-!
# Reading a configuration

A configuration, the settings of a facilitator and its credentials are records, one inside the
other.  What is read has in each field what the record that is found has in its slot.

The lemmas only say where a field comes from and nothing about how its value is read, which is a
matter of the types of settings.  Other modules start from here and need not know that records are
read in one pass.

* `Config.get_of_read`, `FacilitatorSettings.get_of_read`, `CredentialSettings.get_of_read` — where
  the fields come from.
-/

set_option autoImplicit false

namespace Tollbooth

open Json

variable {env : Environment} {site : Site} {d : Doc}

namespace CredentialSettings

/-- The members of credentials. -/
def fields (env : Environment) : List Field :=
  [(keySlot env).field, (secretSlot env).field, (passphraseSlot env).field,
    (forwardedForSlot env).field]

theorem nodup_fields (env : Environment) : ((fields env).map (·.name)).Nodup := by
  show ["apiKey", "apiSecret", "passphrase", "forwardedFor"].Nodup
  decide

theorem get_of_read {s : CredentialSettings} (h : read env site d = .ok s) :
    ∃ record, collect (fields env) site d = .ok record ∧
      record.get (keySlot env) = .ok s.key ∧ record.get (secretSlot env) = .ok s.secret ∧
      record.get (passphraseSlot env) = .ok s.passphrase ∧
      record.get (forwardedForSlot env) = .ok s.forwardedFor := by
  simp only [read, readRecord, bind_eq_ok] at h
  obtain ⟨record, hrecord, key, hkey, secret, hsecret, passphrase, hpassphrase, forwardedFor,
    hforwardedFor, h⟩ := h
  cases h
  exact ⟨record, hrecord, hkey, hsecret, hpassphrase, hforwardedFor⟩

end CredentialSettings

namespace FacilitatorSettings

/-- The members of the settings of a facilitator. -/
def fields (env : Environment) : List Field :=
  [urlSlot.field, timeoutSlot.field, (credentialsSlot env).field]

theorem nodup_fields (env : Environment) : ((fields env).map (·.name)).Nodup := by
  show ["url", "timeoutSeconds", "credentials"].Nodup
  decide

theorem get_of_read {s : FacilitatorSettings} (h : read env site d = .ok s) :
    ∃ record, collect (fields env) site d = .ok record ∧ record.get urlSlot = .ok s.url ∧
      record.get timeoutSlot = .ok s.timeoutSeconds ∧
      record.get (credentialsSlot env) = .ok s.credentials := by
  simp only [read, readRecord, bind_eq_ok] at h
  obtain ⟨record, hrecord, url, hurl, timeout, htimeout, credentials, hcredentials, h⟩ := h
  cases h
  exact ⟨record, hrecord, hurl, htimeout, hcredentials⟩

end FacilitatorSettings

namespace Config

/-- The members of a configuration. -/
def fields (env : Environment) : List Field :=
  [(facilitatorSlot env).field, rpcSlot.field, (signerSlot env).field, validitySlot.field,
    paymentTimeoutSlot.field, pinnedSlot.field]

theorem nodup_fields (env : Environment) : ((fields env).map (·.name)).Nodup := by
  show ["facilitator", "rpc", "signer", "validitySeconds", "paymentTimeoutSeconds",
    "pinned"].Nodup
  decide

theorem get_of_read {c : Config} (h : read env site d = .ok c) :
    ∃ record, collect (fields env) site d = .ok record ∧
      record.get (facilitatorSlot env) = .ok c.facilitatorSettings ∧
      record.get rpcSlot = .ok c.rpc ∧ record.get (signerSlot env) = .ok c.key ∧
      record.get validitySlot = .ok c.validitySeconds ∧
      record.get paymentTimeoutSlot = .ok c.paymentTimeoutSeconds ∧
      record.get pinnedSlot = .ok c.pinned := by
  simp only [read, readRecord, bind_eq_ok] at h
  obtain ⟨record, hrecord, facilitator, hfacilitator, rpc, hrpc, key, hkey, validity, hvalidity,
    timeout, htimeout, pinned, hpinned, h⟩ := h
  cases h
  exact ⟨record, hrecord, hfacilitator, hrpc, hkey, hvalidity, htimeout, hpinned⟩

end Config

end Tollbooth
