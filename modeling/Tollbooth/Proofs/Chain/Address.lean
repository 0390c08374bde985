import Tollbooth.Chain.Address
import Tollbooth.Proofs.Text.Hex
/-!
# Reading addresses

The mark in front and the case of letters make no difference to what is read.  An address is
therefore read back from every way in which it is written here, also from its checksum form, in
which the case of each letter is decided by a hash of the digits.  What that hash is does not
matter: whatever it decides, it only puts letters in upper case.

Addresses and other byte strings of a fixed length are read by the same function, so what does not
depend on the length is stated for all of them.

* `SpelledBy`, `parse?_eq_some_iff` — the spellings of an address are just what is read as it.
* `octetsParse?_checksumWith` — the checksum form is read back, whatever hash it is made with.
-/

set_option autoImplicit false

namespace Tollbooth

/-- **A byte string is read back from its text.** -/
theorem Octets.parse?_text {n : Nat} (v : Octets n) : Octets.parse? n v.text = some v := by
  rw [Octets.parse?, Octets.text, Hex.encode, Hex.decode?_marked, Hex.decodeChars?_encodeChars,
    Option.bind_some, Octets.ofBytes?_toBytes]

theorem Octets.ofBytes?_eq_some_iff {n : Nat} {b : Bytes} {v : Octets n} :
    Octets.ofBytes? n b = some v ↔ b = v.toBytes := by
  constructor
  · intro h
    rw [Octets.ofBytes?] at h
    split at h
    · cases h
      rfl
    · cases h
  · rintro rfl
    exact Octets.ofBytes?_toBytes v

namespace Address

/-- The text is forty digits, in any case, after an optional `0x` or `0X`. -/
def SpelledBy (a : Address) (s : String) : Prop := Hex.Spells s a.octets.toBytes

/-- **What is read as an address is one of its spellings**, and each of them is read. -/
theorem parse?_eq_some_iff {s : String} {a : Address} : parse? s = some a ↔ a.SpelledBy s := by
  rw [parse?, Octets.parse?, Option.map_eq_some_iff, SpelledBy, ← Hex.decode?_eq_some_iff]
  constructor
  · rintro ⟨v, hv, rfl⟩
    obtain ⟨b, hb, hbv⟩ := Option.bind_eq_some_iff.1 hv
    rw [hb, Octets.ofBytes?_eq_some_iff.1 hbv]
  · intro h
    exact ⟨a.octets, Option.bind_eq_some_iff.2 ⟨_, h, Octets.ofBytes?_toBytes _⟩, rfl⟩

/-- Which letters are in upper case makes no difference. -/
theorem map_value?_zipWith {α : Type} (mark : α → Bool) (b : Bytes) (marks : List α)
    (h : (Hex.encodeChars b).length ≤ marks.length) :
    (List.zipWith (fun c m => if mark m then c.toUpper else c) (Hex.encodeChars b) marks).map
      Hex.value? = (Hex.encodeChars b).map Hex.value? := by
  have hdigits : ∀ c ∈ Hex.encodeChars b, Hex.value? c.toUpper = Hex.value? c :=
    fun c hc => Hex.value?_toUpper hc
  generalize Hex.encodeChars b = digits at h hdigits
  induction digits generalizing marks with
  | nil => rfl
  | cons c digits ih =>
    cases marks with
    | nil => cases h
    | cons m marks =>
      have hc : Hex.value? (if mark m = true then c.toUpper else c) = Hex.value? c := by
        split
        · exact hdigits c List.mem_cons_self
        · rfl
      rw [List.zipWith_cons_cons, List.map_cons, List.map_cons, hc,
        ih marks (Nat.le_of_succ_le_succ h) fun c' hc' => hdigits c' (List.mem_cons_of_mem c hc')]

theorem octetsParse?_checksumWith (hash : HashFunction) (a : Address) :
    Octets.parse? 20 (a.checksumWith hash) = some a.octets := by
  have hlength : (Hex.encodeChars a.octets.toBytes).length ≤
      (Hex.encodeChars (hash ((Hex.encodeChars a.octets.toBytes).map
        fun c => UInt8.ofNat c.toNat)).toBytes).length := by
    rw [Hex.length_encodeChars, Hex.length_encodeChars, Octets.length_toBytes,
      Octets.length_toBytes]
    decide
  have hcase := map_value?_zipWith (fun m => decide ((Hex.value? m).getD 0 ≥ 8)) _ _ hlength
  simp only [decide_eq_true_eq] at hcase
  rw [Octets.parse?, checksumWith, Hex.decode?_marked, Hex.decodeChars?_congr hcase,
    Hex.decodeChars?_encodeChars, Option.bind_some, Octets.ofBytes?_toBytes]

end Address

end Tollbooth
