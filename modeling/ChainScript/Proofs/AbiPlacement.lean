import ChainScript.Abi.Decode
import ChainScript.Abi.Encode
import ChainScript.Proofs.WordBytes
import ChainScript.Proofs.ExceptSteps

/-! Bytes inside surrounding data. The readers follow absolute positions, so what was written is found again by
where it stands, whatever comes before and behind it. -/

namespace ChainScript.Abi

/-- The bytes stand in the data from a position on. -/
def Holds (data : Bytes) (position : Nat) (bytes : Bytes) : Prop :=
  ∃ before after, data = before ++ (bytes ++ after) ∧ before.length = position

variable {data bytes first rest : Bytes} {position : Nat}

theorem holds_self (data : Bytes) : Holds data 0 data :=
  ⟨[], [], by simp, rfl⟩

theorem Holds.le (holds : Holds data position bytes) : position + bytes.length ≤ data.length := by
  obtain ⟨before, after, rfl, rfl⟩ := holds
  simp only [List.length_append]
  omega

theorem Holds.left (holds : Holds data position (first ++ rest)) : Holds data position first := by
  obtain ⟨before, after, rfl, size⟩ := holds
  exact ⟨before, rest ++ after, by simp only [List.append_assoc], size⟩

theorem Holds.right (holds : Holds data position (first ++ rest)) : Holds data (position + first.length) rest := by
  obtain ⟨before, after, rfl, rfl⟩ := holds
  exact ⟨before ++ first, after, by simp only [List.append_assoc], by simp only [List.length_append]⟩

theorem Holds.take_drop (holds : Holds data position bytes) : (data.drop position).take bytes.length = bytes := by
  obtain ⟨before, after, rfl, rfl⟩ := holds
  rw [List.drop_left, List.take_left]

theorem advance_eq_ok {distance : Nat} (inside : position + distance < UInt64.size) :
    advance position distance = .ok (position + distance) :=
  if_pos inside

variable (short : data.length < UInt64.size)
include short

theorem slice_of_holds (holds : Holds data position bytes) : slice data position bytes.length = .ok bytes := by
  have inside := holds.le
  rw [slice, advance_eq_ok (Nat.lt_of_le_of_lt inside short), ok_bind, if_pos inside, holds.take_drop]
  rfl

theorem readWord_of_holds (holds : Holds data position bytes) (size : bytes.length = 32) :
    readWord data position = .ok bytes := by
  rw [readWord, ← size]
  exact slice_of_holds short holds

/-- A count or an offset is read back, unless it exceeds the length of the data. -/
theorem readSize_of_holds {value : Nat} (holds : Holds data position (bytesOf 32 value)) (fits : value < 256 ^ 32) :
    readSize data position = if value ≤ data.length then .ok value else .error (.outOfRange value) := by
  rw [readSize, readWord_of_holds short holds (length_bytesOf 32 value), ok_bind, numberOf_bytesOf,
    Nat.mod_eq_of_lt fits]
  rfl

theorem readBytes_of_holds {content : Bytes} (holds : Holds data position (padded content)) :
    readBytes data position = .ok content := by
  have counted := holds.left.left
  have placed := holds.left.right
  rw [length_bytesOf] at placed
  have inside := placed.le
  have fits : content.length < 256 ^ 32 := Nat.lt_of_lt_of_le (Nat.lt_of_le_of_lt (by omega) short) (by decide)
  rw [readBytes, readSize_of_holds short counted fits, if_pos (by omega), ok_bind,
    advance_eq_ok (by omega), ok_bind]
  exact slice_of_holds short placed

end ChainScript.Abi
