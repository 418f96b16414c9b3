import Manifest.Demo
import Manifest.Storage.Encode

/-!
# Hashes of what is loaded

A payload is stored as the canonical text of its normalized form.  What is loaded of that text
has the hash of the payload, unless a member of an enumeration has a raw value that is not in
canonical form.

Main results:

- Theorem `Codec.hashPayload_loads_iff`: when a payload keeps its hash.
-/

set_option autoImplicit false

namespace Manifest

namespace Codec

open Canonical Fallible PyObject

variable [Sha256] {str : PyObject → String} {read : String → Option PyFloat}
  {payload value : PyObject} {text stored : String}

omit [Sha256] in
/-- The characters of a canonical text. -/
theorem canonicalChars_of_json (h : Canonical.canonicalJson payload = .ok text) :
    canonicalChars payload = .ok text.toList := by
  unfold Canonical.canonicalJson at h
  cases hchars : canonicalChars payload with
  | error fault =>
      rw [hchars] at h
      cases h
  | ok chars =>
      rw [hchars] at h
      obtain rfl := Except.ok.inj h
      rw [String.toList_ofList]

omit [Sha256] in
/-- The codec stores the normalized form of what `canonical_json` takes. -/
theorem canonicalChars_stored (htext : Canonical.canonicalJson payload = .ok text)
    (hvalue : persisted str payload = .ok value)
    (hstored : Canonical.canonicalJson value = .ok stored) :
    canonicalChars (valueOf payload) = .ok stored.toList := by
  obtain ⟨normal, hnormal, -⟩ := bind_eq_ok_iff.mp (canonicalChars_of_json htext)
  rw [valueOf_eq hnormal, ← persisted_eq_normalize payload normal value hnormal hvalue]
  exact canonicalChars_of_json hstored

/-- A payload is stored and loaded again.  Where no other text that can be printed of it has the
digest of its text, it keeps its hash exactly when the raw values of its members are preserved. -/
theorem hashPayload_loads_iff (hfloats : payload.FloatsAre fun x => read x.text = some x)
    (htext : Canonical.canonicalJson payload = .ok text)
    (hvalue : persisted str payload = .ok value)
    (hstored : Canonical.canonicalJson value = .ok stored)
    (hdigest : ∀ v other, Value.loads read stored = some v →
      Canonical.canonicalJson (ofValue v) = .ok other → Sha256.tagged other = Sha256.tagged text →
        other = text) :
    (∃ v, Value.loads read stored = some v ∧
      Canonical.hashPayload (ofValue v) = Canonical.hashPayload payload) ↔
        Preserved read payload := by
  have hchars := canonicalChars_of_json htext
  have hpayload : Canonical.hashPayload payload = .ok (Sha256.tagged text) := by
    unfold Canonical.hashPayload
    rw [htext]
    rfl
  rw [hpayload]
  have hprinted := canonicalChars_stored htext hvalue hstored
  rw [← reprints_iff_preserved payload hfloats text.toList stored.toList hchars hprinted]
  constructor
  · rintro ⟨v, hloads, hhash⟩
    obtain ⟨normal, hnormal, -⟩ := bind_eq_ok_iff.mp hchars
    obtain ⟨again, ⟨w, hread, hprint⟩, -⟩ :=
      exists_reprints_stored hfloats ⟨normal, hnormal⟩ hprinted
    have hw := hread.loads
    rw [String.ofList_toList, hloads] at hw
    obtain rfl := Option.some.inj hw
    have hjson : Canonical.canonicalJson (ofValue v) = .ok (String.ofList again) := by
      unfold Canonical.canonicalJson
      rw [hprint]
      rfl
    unfold Canonical.hashPayload at hhash
    rw [hjson] at hhash
    have hsame := hdigest v _ hloads hjson (Except.ok.inj hhash)
    rw [← hsame, String.toList_ofList]
    exact ⟨v, hread, hprint⟩
  · rintro ⟨v, hread, hprint⟩
    refine ⟨v, ?_, ?_⟩
    · rw [← String.ofList_toList (s := stored)]
      exact hread.loads
    · unfold Canonical.hashPayload Canonical.canonicalJson
      rw [hprint]
      show Except.ok (Sha256.tagged (String.ofList text.toList)) = _
      rw [String.ofList_toList]

end Codec

namespace Demo

open Canonical PyObject

/-- Details under a key that is no string, with a member of an enumeration. -/
def memberDetails : PyObject :=
  .mapping .dict
    [(.str "status", .member (some (.str "approved")) (.str "approved")), (.int 7, .int 1)]

def memberText : String :=
  "\x7b\"7\":1,\"status\":\"approved\"\x7d"

def memberStored : PyObject :=
  .mapping .dict [(.str "status", .str "approved"), (.str "7", .int 1)]

/-- What is loaded of the text, up to the order of its members. -/
def memberLoaded : Value :=
  .dict [("7", .int 1), ("status", .str "approved")]

theorem canonicalJson_memberDetails : Canonical.canonicalJson memberDetails = .ok memberText := by
  decide +kernel

theorem canonicalJson_memberStored : Canonical.canonicalJson memberStored = .ok memberText := by
  decide +kernel

theorem dumps_memberLoaded : memberLoaded.dumps false = memberText := by
  decide +kernel

theorem canonicalJson_memberLoaded :
    Canonical.canonicalJson (ofValue (memberLoaded.sorted id)) = .ok memberText := by
  decide +kernel

/-- Without floats, no text has to be read as one. -/
def noFloats : String → Option PyFloat :=
  fun _ => none

theorem loads_memberText :
    Value.loads noFloats memberText = some (memberLoaded.sorted id) := by
  have hfloats : memberLoaded.FloatsAre fun x => noFloats x.text = some (id x) := by
    simp [memberLoaded, Value.FloatsAre, Value.FloatsAreEntries]
  rw [← dumps_memberLoaded]
  exact Value.loads_dumps false hfloats

/-- The details keep their hash. -/
theorem hashPayload_loads_iff_memberDetails :
    (∃ v, Value.loads noFloats memberText = some v ∧
      Canonical.hashPayload (ofValue v) = Canonical.hashPayload memberDetails) ↔
        Preserved noFloats memberDetails := by
  have hfloats : memberDetails.FloatsAre fun x => noFloats x.text = some x := by
    simp [memberDetails, FloatsAre, FloatsAreEntries, Value.FloatsAre]
  have hvalue : Codec.persisted (fun _ => "") memberDetails = .ok memberStored := rfl
  refine Codec.hashPayload_loads_iff hfloats canonicalJson_memberDetails hvalue
    canonicalJson_memberStored fun v other hloads hother _ => ?_
  rw [loads_memberText] at hloads
  obtain rfl := Option.some.inj hloads
  exact Except.ok.inj (hother.symm.trans canonicalJson_memberLoaded)

end Demo

end Manifest
