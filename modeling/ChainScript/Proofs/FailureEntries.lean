import ChainScript.Chain.Failure
import ChainScript.Proofs.AbiPlacement
import ChainScript.Proofs.AbiReading

/-! Which entries of a receipt report a failure. The reader of their data asks for three numbers, each in a word of its
own, so the length of the data decides; what stands behind the third word is passed over. -/

namespace ChainScript

namespace Abi

def wordAt (data : Bytes) (position : Nat) : Word :=
  Word.ofBytes ((data.drop position).take 32)

theorem readWord_eq_ok_iff {data word : Bytes} {position : Nat} (near : position + 32 < UInt64.size) :
    readWord data position = .ok word ↔ position + 32 ≤ data.length ∧ (data.drop position).take 32 = word := by
  rw [readWord, slice_eq_ok, and_iff_right near]

theorem decodeMembers_uint_eq_ok_iff {data : Bytes} {base bits position : Nat} {rest : List AbiType}
    {values : List AbiValue} (near : position + 32 < UInt64.size) :
    decodeMembers data base (.uint bits :: rest) position = .ok values ↔
      position + 32 ≤ data.length ∧ ∃ others, decodeMembers data base rest (position + 32) = .ok others ∧
        values = .uint (wordAt data position) :: others := by
  rw [decodeMembers_cons, slot_of_static data base rfl]
  constructor
  · intro whole
    obtain ⟨value, first, following⟩ := bind_eq_ok.mp whole
    obtain ⟨word, read, made⟩ := bind_eq_ok.mp first
    obtain ⟨inside, rfl⟩ := (readWord_eq_ok_iff near).mp read
    obtain ⟨others, last, listed⟩ := bind_eq_ok.mp following
    cases made
    cases listed
    exact ⟨inside, others, last, rfl⟩
  · rintro ⟨inside, others, following, rfl⟩
    have read := (readWord_eq_ok_iff near).mpr ⟨inside, rfl⟩
    have first : decodeValue data (.uint bits) position = .ok (.uint (wordAt data position)) := by
      rw [decodeValue, read]
      rfl
    have width : AbiType.headWidth (.uint bits) = 32 := rfl
    rw [first, ok_bind, width, following]
    rfl

end Abi

namespace Failure
open Abi

theorem decode_codes_iff {data : Bytes} {values : List AbiValue} :
    decode [.uint 256, .uint 256, .uint 256] data = .ok values ↔
      96 ≤ data.length ∧ values = [.uint (wordAt data 0), .uint (wordAt data 32), .uint (wordAt data 64)] := by
  rw [decode, decodeMembers_uint_eq_ok_iff (by decide)]
  constructor
  · rintro ⟨-, _, second, rfl⟩
    obtain ⟨-, _, third, rfl⟩ := (decodeMembers_uint_eq_ok_iff (by decide)).mp second
    obtain ⟨long, _, none, rfl⟩ := (decodeMembers_uint_eq_ok_iff (by decide)).mp third
    cases none
    exact ⟨long, rfl⟩
  · rintro ⟨long, rfl⟩
    refine ⟨by omega, _, (decodeMembers_uint_eq_ok_iff (by decide)).mpr ⟨by omega, _, ?_, rfl⟩, rfl⟩
    exact (decodeMembers_uint_eq_ok_iff (by decide)).mpr ⟨long, [], rfl, rfl⟩

/-- Data that is long enough for three words is read as three codes, and no other data. -/
theorem ofData?_eq (reporter : Reporter) (data : Bytes) :
    ofData? reporter data =
      if 96 ≤ data.length then some (ofCodes reporter (wordAt data 0) (wordAt data 32) (wordAt data 64)) else none := by
  by_cases long : 96 ≤ data.length
  · rw [if_pos long, ofData?, decode_codes_iff.mpr ⟨long, rfl⟩]
  · rw [if_neg long, ofData?]
    split
    next read => exact absurd (decode_codes_iff.mp read).1 long
    next => rfl

/-- An entry that reports a failure: it has the topic of failures, and its data has room for three words. -/
def Reported (entry : LogEntry) : Prop :=
  entry.topics.head? = some topic ∧ 96 ≤ entry.data.length

instance : DecidablePred Reported :=
  fun entry => inferInstanceAs (Decidable (entry.topics.head? = some topic ∧ 96 ≤ entry.data.length))

/-- The failure that the data of an entry tells, whatever stands behind its three words. -/
def ofEntry (reporter : Reporter) (entry : LogEntry) : Failure :=
  ofCodes reporter (wordAt entry.data 0) (wordAt entry.data 32) (wordAt entry.data 64)

theorem ofReceipt_eq (reporter : Reporter) (receipt : Receipt) :
    ofReceipt reporter receipt = (receipt.logs.filter (Reported ·)).map (ofEntry reporter) := by
  rw [ofReceipt, Receipt.entriesWith, List.filterMap_filter, ← List.filterMap_eq_map, List.filterMap_filter]
  refine congrArg (List.filterMap · receipt.logs) (funext fun entry => ?_)
  rw [ofData?_eq]
  by_cases titled : entry.topics.head? = some topic
  · by_cases long : 96 ≤ entry.data.length
    · simp [Reported, titled, long, ofEntry]
    · simp [Reported, titled, long]
  · simp [Reported, titled]

end Failure

end ChainScript
