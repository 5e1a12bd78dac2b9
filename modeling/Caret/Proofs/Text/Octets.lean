import Caret.Files.Basic

/-!
# Text of ASCII in files

A text of ASCII has one octet for each code point, and is read from these octets.
-/

namespace Caret.Text

/-- The octets of a text of ASCII. -/
def asciiOctets (text : Text) : List UInt8 := text.map fun c ↦ UInt8.ofNat c.toNat

/-- Whether a text is ASCII without carriage returns. -/
def isPlainAscii (text : Text) : Bool := text.all fun c ↦ c.toNat < 0x80 && c != '\r'

private theorem decodeFrom_asciiOctets {text : Text} (h : ∀ c ∈ text, c.toNat < 0x80)
    (position : Nat) :
    decodeFrom position (asciiOctets text) = .ok text := by
  induction text generalizing position with
  | nil =>
    rw [asciiOctets, List.map_nil, decodeFrom]
  | cons c rest ih =>
    obtain ⟨small, others⟩ := List.forall_mem_cons.mp h
    have octet : (UInt8.ofNat c.toNat).toNat = c.toNat :=
      (UInt8.toNat_ofNat').trans (Nat.mod_eq_of_lt (Nat.lt_trans small (by decide)))
    have lead : lead? (UInt8.ofNat c.toNat).toNat = some { bits := c.toNat, tails := 0 } := by
      rw [octet, lead?, if_pos small]
    have code : codePoint c.toNat = c := by
      have valid : c.toNat.isValidChar := c.valid
      rw [codePoint, dif_pos valid]
      rfl
    rw [asciiOctets, List.map_cons, decodeFrom, lead]
    dsimp only [readTails]
    rw [← asciiOctets, List.drop_zero, ih others, code]
    rfl

/-- A text of ASCII without carriage returns is what a file of its octets holds. -/
theorem textOf_asciiOctets {text : Text} (h : text.isPlainAscii = true) :
    textOf (asciiOctets text) = .ok text := by
  have each : ∀ c ∈ text, c.toNat < 0x80 ∧ c ≠ '\r' := by
    simpa only [isPlainAscii, List.all_eq_true, Bool.and_eq_true, decide_eq_true_eq,
      bne_iff_ne] using h
  have unified {text : Text} (line : '\r' ∉ text) : unifyLineEnds text = text := by
    fun_induction unifyLineEnds text with
    | case1 => rfl
    | case2 rest ih => exact absurd List.mem_cons_self line
    | case3 c rest _ ih =>
      rw [ih fun inside ↦ line (List.mem_cons_of_mem _ inside), if_neg]
      rintro rfl
      exact line List.mem_cons_self
  rw [textOf, decodeUtf8, decodeFrom_asciiOctets fun c member ↦ (each c member).1]
  exact congrArg Except.ok (unified fun inside ↦ (each _ inside).2 rfl)

end Caret.Text
