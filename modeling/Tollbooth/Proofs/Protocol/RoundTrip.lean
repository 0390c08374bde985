import Tollbooth.Proofs.Chain.Id
import Tollbooth.Proofs.Exact.Payload
import Tollbooth.Timestamp
/-!
# Reading undoes writing

Whatever is written of the documents of the protocol is read back as it was, strings with all their
characters, byte strings and addresses with all their bytes, and what is kept verbatim with its
text.  So what is read from some text is read again from the text that is written for it.

For each type there are two statements.  The first starts from a value and needs no more than that
its document spells it.  The second starts from a text, which may be spelled in a thousand ways, and
says that nothing of what was read of it is lost when it is written and read again; it follows from
the first as soon as every value that can be read is one of those that are spelled.  Only
identifiers of chains make a difference here, because there are some that cannot be read.

* `Undoes` — reading undoes writing.
* `reading_undoes_writing` — for all documents of the protocol.
-/

set_option autoImplicit false

namespace Tollbooth

open Json

/-! ## Texts of a form

Chain identifiers and timestamps are written as texts of a certain form.  Of identifiers only the
proper ones come back, but all that are read are proper. -/

namespace ChainId

theorem spells_toDoc {c : ChainId} (h : c.IsProper) : Spells 0 read c.toDoc c := by
  refine spells_of_ofString fun levels => bind_eq_ok.2 ⟨c.text, readString_ofString _ _, ?_⟩
  simp only [parse?_text h]

theorem isProper_of_read {site : Site} {d : Doc} {c : ChainId} (h : read site d = .ok c) :
    c.IsProper := by
  obtain ⟨s, -, h⟩ := bind_eq_ok.1 h
  cases hs : parse? s with
  | none =>
    simp only [hs] at h
    cases h
  | some c' =>
    simp only [hs] at h
    cases h
    exact isProper_of_parse? hs

end ChainId

namespace Timestamp

theorem parse?_text (t : Timestamp) : parse? t.text = some t := by
  rw [parse?, text, Decimal.word64?_toString t.isWord]
  exact dif_pos t.isWord

theorem spells_toDoc (t : Timestamp) : Spells 0 read t.toDoc t := by
  refine spells_of_ofString fun levels => bind_eq_ok.2 ⟨t.text, readString_ofString _ _, ?_⟩
  simp only [parse?_text]

end Timestamp

/-! ## Codecs

With both statements in one structure, what remains is a list of types. -/

/-- Whatever is written of these values is read back, and so is whatever was read of any text. -/
structure Undoes {α : Type} (read : Reader α) (write : α → Doc) (valid : α → Prop) : Prop where
  written (a : α) (h : valid a) : read.ofText (Bytes.ofString (write a).render) = .ok a
  again (s : Bytes) (a : α) (h : read.ofText s = .ok a) :
    read.ofText (Bytes.ofString (write a).render) = .ok a

section

variable {α : Type} {read : Reader α} {write : α → Doc} {valid : α → Prop} {depth : Nat}

theorem undoes_of_spells (h : ∀ a, valid a → Spells depth read (write a) a)
    (hvalid : ∀ d a, read .start d = .ok a → valid a) (hdepth : depth ≤ Site.nestingLimit) :
    Undoes read write valid := by
  refine ⟨fun a ha => (h a ha).ofText_render hdepth, fun s a hs => ?_⟩
  exact (h a (hvalid _ a (Reader.ofText_eq_ok.1 hs).1)).ofText_render hdepth

/-- The same where all values are meant. -/
theorem undoes_of_all_spell (h : ∀ a, Spells depth read (write a) a)
    (hdepth : depth ≤ Site.nestingLimit) : Undoes read write fun _ => True :=
  undoes_of_spells (fun a _ => h a) (fun _ _ _ => trivial) hdepth

end

/-- **Reading undoes writing**, for all documents of the protocol: outcomes, resources, chain
identifiers, timestamps, authorizations, signed authorizations, demands of both versions with their
offers kept verbatim, and payments with the accepted offer kept verbatim and a payload that is typed
or kept verbatim too. -/
theorem reading_undoes_writing :
    Undoes Verification.read Verification.toDoc (fun _ => True) ∧
    Undoes Settlement.read Settlement.toDoc (fun _ => True) ∧
    Undoes ResourceInfo.read ResourceInfo.toDoc (fun _ => True) ∧
    Undoes ChainId.read ChainId.toDoc ChainId.IsProper ∧
    Undoes Timestamp.read Timestamp.toDoc (fun _ => True) ∧
    Undoes Authorization.read Authorization.toDoc (fun _ => True) ∧
    Undoes ExactPayload.read ExactPayload.toDoc (fun _ => True) ∧
    Undoes (DemandV1.readWith Verbatim.read) (DemandV1.toDocWith Verbatim.toDoc)
      (fun _ => True) ∧
    Undoes (DemandV2.readWith Verbatim.read) (DemandV2.toDocWith Verbatim.toDoc)
      (fun _ => True) ∧
    Undoes (Payment.readWith Verbatim.read ExactPayload.read)
      (Payment.toDocWith Verbatim.toDoc ExactPayload.toDoc) (fun _ => True) ∧
    Undoes (Payment.readWith Verbatim.read Verbatim.read)
      (Payment.toDocWith Verbatim.toDoc Verbatim.toDoc) (fun _ => True) := by
  refine ⟨undoes_of_all_spell Verification.spells_toDoc (by decide),
    undoes_of_all_spell Settlement.spells_toDoc (by decide),
    undoes_of_all_spell ResourceInfo.spells_toDoc (by decide),
    undoes_of_spells (fun c => ChainId.spells_toDoc) (fun d c => ChainId.isProper_of_read)
      (by decide),
    undoes_of_all_spell Timestamp.spells_toDoc (by decide),
    undoes_of_all_spell Authorization.spells_toDoc (by decide),
    undoes_of_all_spell ExactPayload.spells_toDoc (by decide),
    undoes_of_all_spell (DemandV1.spells_toDocWith spells_verbatim) (by decide),
    undoes_of_all_spell (DemandV2.spells_toDocWith spells_verbatim) (by decide),
    undoes_of_all_spell ExactPayment.spells_toDoc (by decide),
    undoes_of_all_spell (fun p => ?_) (show 2 ≤ Site.nestingLimit by decide)⟩
  exact Payment.spells_toDocWith (Nat.le_refl 1) p
    ((spells_verbatim p.accepted).mono (Nat.zero_le 1))
    ((spells_verbatim p.payload).mono (Nat.zero_le 1))

/-- A chain identifier with a colon in its reference is read back. -/
theorem reading_undoes_writing_colon :
    (ChainId.mk "eip155" "1:2").IsProper ∧
      ChainId.read.ofText (Bytes.ofString (ChainId.mk "eip155" "1:2").toDoc.render) =
        .ok ⟨"eip155", "1:2"⟩ := by
  have hproper : (ChainId.mk "eip155" "1:2").IsProper := ⟨by decide, by decide, by decide⟩
  exact ⟨hproper, reading_undoes_writing.2.2.2.1.written _ hproper⟩

end Tollbooth
