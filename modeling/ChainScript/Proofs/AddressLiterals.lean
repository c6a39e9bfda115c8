import ChainScript.Proofs.ExceptSteps
import ChainScript.Proofs.HexDigits
import ChainScript.Ledger.Basic

/-! Tokens that are read as addresses. The forty hexadecimal digits of an address behind a mark are read as it in any world,
whatever names that world knows; every other token is a name, asked for as it is spelled. -/

namespace ChainScript

open Text

namespace Octets

theorem ofList?_eq_some_iff {size : Nat} {bytes : Bytes} {octets : Octets size} :
    ofList? size bytes = some octets ↔ bytes = octets.toList := by
  unfold ofList?
  constructor
  · intro made
    split at made
    next =>
      cases made
      rfl
    next => cases made
  · rintro rfl
    rw [dif_pos octets.length_toList]

theorem ofHex?_eq_some_iff {size : Nat} {text : List Char} {octets : Octets size} :
    ofHex? size text = some octets ↔
      ∃ mark digits, (mark = 'x' ∨ mark = 'X') ∧ text = '0' :: mark :: digits ∧ small digits = hexChars octets.toList := by
  simp only [ofHex?, Option.bind_eq_bind, Option.bind_eq_some_iff, afterHexMark?_eq_some_iff, bytesOfHex?_eq_some_iff,
    ofList?_eq_some_iff]
  constructor
  · rintro ⟨digits, ⟨mark, marked, made⟩, bytes, spelled, rfl⟩
    exact ⟨mark, digits, marked, made, spelled⟩
  · rintro ⟨mark, digits, marked, made, spelled⟩
    exact ⟨digits, ⟨mark, marked, made⟩, _, spelled, rfl⟩

end Octets

namespace Reader

/-- The digits of an address, in either case, behind a mark. -/
def Literal (token : String) (address : Address) : Prop :=
  ∃ mark digits, (mark = 'x' ∨ mark = 'X') ∧ token.toList = '0' :: mark :: digits ∧
    small digits = hexChars address.toList

theorem ofHex?_eq_none_iff {token : String} :
    Octets.ofHex? 20 token.toList = none ↔ ∀ literal, ¬Literal token literal := by
  rw [Option.eq_none_iff_forall_ne_some]
  exact forall_congr' fun literal => not_congr Octets.ofHex?_eq_some_iff

/-- The literals are the marked tokens with forty digits. -/
theorem exists_literal_iff {token : String} :
    (∃ address, Literal token address) ↔ ∃ mark digits, (mark = 'x' ∨ mark = 'X') ∧
      token.toList = '0' :: mark :: digits ∧ digits.length = 40 ∧ ∀ c ∈ digits, IsHexDigit c := by
  constructor
  · rintro ⟨address, mark, digits, marked, made, spelled⟩
    have size : (small digits).length = 40 := by rw [spelled, length_hexChars, address.length_toList]
    exact ⟨mark, digits, marked, made, (List.length_map _).symm.trans size, isHexDigit_of_hexChars spelled⟩
  · rintro ⟨mark, digits, marked, made, size, each⟩
    obtain ⟨bytes, length, spelled⟩ := @exists_bytes 20 digits size each
    exact ⟨⟨bytes, length⟩, mark, digits, marked, made, spelled⟩

variable {World : Type} [Aliases World]

theorem address_word (world : World) (token : String) :
    address world (some (.word token)) = ((Octets.ofHex? 20 token.toList).or (Aliases.resolve world token)).elim
      (.error (.reading (.unknownAddress token))) .ok := by
  rw [address, token_word, ok_bind]
  cases Octets.ofHex? 20 token.toList <;> cases Aliases.resolve world token <;> rfl

/-- In every world the literal of an address is read as that address, and any other token as the address that the world
knows by this name; it is the fault itself just if there is none. Literals are the tokens of a mark and forty
hexadecimal digits, in either case; no two worlds read one differently, and an address is written as one of its own. -/
theorem literal_before_alias :
    (∀ (world : World) (token : String),
      (∀ found, address world (some (.word token)) = .ok found ↔
        Literal token found ∨ (∀ literal, ¬Literal token literal) ∧ Aliases.resolve world token = some found) ∧
      ∀ fault, address world (some (.word token)) = .error fault ↔ fault = .reading (.unknownAddress token) ∧
        (∀ literal, ¬Literal token literal) ∧ Aliases.resolve world token = none) ∧
    (∀ token, (∃ literal, Literal token literal) ↔ ∃ mark digits, (mark = 'x' ∨ mark = 'X') ∧
      token.toList = '0' :: mark :: digits ∧ digits.length = 40 ∧ ∀ c ∈ digits, IsHexDigit c) ∧
    (∀ token literal, Literal token literal →
      ∀ world other : World, address world (some (.word token)) = address other (some (.word token))) ∧
    ∀ literal : Address, Literal literal.toString literal := by
  refine ⟨?_, fun token => exists_literal_iff, ?_, ?_⟩
  · intro world token
    have literals (literal : Address) : Literal token literal ↔ Octets.ofHex? 20 token.toList = some literal :=
      Octets.ofHex?_eq_some_iff.symm
    simp only [literals, address_word]
    constructor
    · intro found
      cases Octets.ofHex? 20 token.toList <;> cases Aliases.resolve world token <;> simp
    · intro fault
      cases Octets.ofHex? 20 token.toList <;> cases Aliases.resolve world token <;> simp [eq_comm]
  · intro token literal spelled world other
    rw [address_word, address_word, Octets.ofHex?_eq_some_iff.mpr spelled, Option.some_or, Option.some_or]
  · intro literal
    refine ⟨'x', hexChars literal.toList, .inl rfl, ?_, small_hexChars literal.toList⟩
    have written : literal.toString.toList = "0x".toList ++ (hex literal.toList).toList := String.toList_append
    have digits : (hex literal.toList).toList = hexChars literal.toList := String.toList_ofList
    rw [written, digits]
    rfl

/-- A literal in both cases is read as its address where another account has it for a name. -/
theorem literal_before_alias_named :
    let digits := (List.replicate 20 ['A', 'b']).flatten
    let token := String.ofList ('0' :: 'X' :: digits)
    let literal : Address := Octets.fill 20 0xab
    let named : Ledger := { aliases := [(token, Octets.fill 20 1), ("0x11", Octets.fill 20 2)] }
    Literal token literal ∧ address named (some (.word token)) = .ok literal ∧
      address named (some (.word token)) = address ({} : Ledger) (some (.word token)) ∧
      address named (some (.word "0x11")) = .ok (Octets.fill 20 2) ∧
      address ({} : Ledger) (some (.word "0x11")) = .error (.reading (.unknownAddress "0x11")) := by
  intro digits token literal named
  obtain ⟨reads, -, agree, -⟩ := @literal_before_alias Ledger _
  have spelled : Literal token literal := ⟨'X', digits, .inr rfl, String.toList_ofList, by decide⟩
  have short : ∀ literal, ¬Literal "0x11" literal := ofHex?_eq_none_iff.mp (by decide)
  exact ⟨spelled, ((reads named token).1 literal).mpr (.inl spelled), agree token literal spelled named {},
    ((reads named "0x11").1 _).mpr (.inr ⟨short, by decide⟩), ((reads {} "0x11").2 _).mpr ⟨rfl, short, rfl⟩⟩

end Reader

end ChainScript
