/-!
# UTF-8

Reading bytes as text. `Utf8.next` takes one character off a byte list, or else the longest
beginning of one that goes wrong; strict reading refuses such a beginning, lenient reading puts
U+FFFD in its place.
-/

namespace AssetOracle.Text.Utf8

/-- The value bits of a leading byte and the ranges that the bytes after it must lie in. -/
def lead (b : Nat) : Option (Nat × List (Nat × Nat)) :=
  let any := (0x80, 0xBF)
  if b < 0x80 then some (b, [])
  else if 0xC2 ≤ b ∧ b ≤ 0xDF then some (b % 32, [any])
  else if b = 0xE0 then some (0, [(0xA0, 0xBF), any])
  else if b = 0xED then some (13, [(0x80, 0x9F), any])
  else if 0xE1 ≤ b ∧ b ≤ 0xEF then some (b % 16, [any, any])
  else if b = 0xF0 then some (0, [(0x90, 0xBF), any, any])
  else if 0xF1 ≤ b ∧ b ≤ 0xF3 then some (b % 8, [any, any, any])
  else if b = 0xF4 then some (4, [(0x80, 0x8F), any, any])
  else none

/-- Reads continuation bytes; on a byte outside its range nothing more is taken. -/
def follow (value : Nat) : List (Nat × Nat) → List UInt8 → Option Char × List UInt8
  | [], rest => (some (Char.ofNat value), rest)
  | _ :: _, [] => (none, [])
  | (low, high) :: ranges, b :: rest =>
    if low ≤ b.toNat ∧ b.toNat ≤ high then follow (value * 64 + b.toNat % 64) ranges rest
    else (none, b :: rest)

/-- The first character, or `none` for bytes that begin no character, and the bytes after it. -/
def next (b : UInt8) (rest : List UInt8) : Option Char × List UInt8 :=
  match lead b.toNat with
  | none => (none, rest)
  | some (value, ranges) => follow value ranges rest

theorem length_follow_le (value : Nat) (ranges : List (Nat × Nat)) (bytes : List UInt8) :
    (follow value ranges bytes).2.length ≤ bytes.length := by
  induction bytes generalizing value ranges with
  | nil => cases ranges <;> simp [follow]
  | cons b rest ih =>
    cases ranges with
    | nil => simp [follow]
    | cons r rs =>
      obtain ⟨low, high⟩ := r
      simp only [follow]
      split
      · exact Nat.le_trans (ih _ _) (by simp)
      · simp

theorem next_length (b : UInt8) (rest : List UInt8) :
    (next b rest).2.length ≤ rest.length := by
  unfold next
  split
  · simp
  · exact length_follow_le _ _ _

/-- The characters of a byte list, `none` standing for each piece that is no character. -/
def pieces (bytes : List UInt8) : List (Option Char) :=
  match bytes with
  | [] => []
  | b :: rest => (next b rest).1 :: pieces (next b rest).2
termination_by bytes.length
decreasing_by
  have := next_length b rest
  simp only [List.length_cons]
  omega

/-- Strict reading. -/
def decode? (bytes : List UInt8) : Option String :=
  ((pieces bytes).mapM id).map String.ofList

/-- Lenient reading. -/
def decodeLossy (bytes : List UInt8) : String :=
  String.ofList ((pieces bytes).map (·.getD (Char.ofNat 0xFFFD)))

/-- The bytes of a text. -/
def encode (s : String) : List UInt8 := s.toUTF8.toList

end AssetOracle.Text.Utf8
