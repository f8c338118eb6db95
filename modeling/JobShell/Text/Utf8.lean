/-!
# Reading bytes as text

Standard input is a list of bytes. `units` cuts it into the pieces that a decoder sees: a character
where a complete well-formed sequence begins, and `none` for the longest run that began like a
sequence and went wrong (a single byte if it could not even begin one). Both readings are views of
that list, so they cannot disagree: `decode?` succeeds where no piece is `none`, and `lossy` puts
the replacement character in place of each `none`.
-/

namespace JobShell.Text.Utf8

/-- The second byte of a sequence lies in a range that depends on the first: this rules out overlong
forms, surrogates and values above the last code point. -/
def secondRange (first : UInt8) : UInt8 × UInt8 :=
  if first == 0xE0 then (0xA0, 0xBF)
  else if first == 0xED then (0x80, 0x9F)
  else if first == 0xF0 then (0x90, 0xBF)
  else if first == 0xF4 then (0x80, 0x8F)
  else (0x80, 0xBF)

/-- The number of bytes that follow `first` in its sequence, if a sequence can begin with it. -/
def following? (first : UInt8) : Option Nat :=
  if first < 0x80 then some 0
  else if 0xC2 ≤ first && first ≤ 0xDF then some 1
  else if 0xE0 ≤ first && first ≤ 0xEF then some 2
  else if 0xF0 ≤ first && first ≤ 0xF4 then some 3
  else none

/-- The bits of `first` that belong to the code point when `n` bytes follow. -/
def leadBits (first : UInt8) : Nat → Nat
  | 0 => first.toNat
  | 1 => first.toNat % 0x20
  | 2 => first.toNat % 0x10
  | _ => first.toNat % 0x08

/-- The byte lies in the closed range. -/
def within (range : UInt8 × UInt8) (b : UInt8) : Bool := range.1 ≤ b && b ≤ range.2

/-- Takes up to `n` continuation bytes, the first of them in `range`, adding their bits to `value`.
Answers the finished value, or `none` if a byte was missing or out of range, with the bytes left. -/
def continuation (range : UInt8 × UInt8) (value : Nat) : Nat → List UInt8 → Option Nat × List UInt8
  | 0, rest => (some value, rest)
  | _ + 1, [] => (none, [])
  | n + 1, b :: rest =>
    if within range b then continuation (0x80, 0xBF) (value * 0x40 + b.toNat % 0x40) n rest
    else (none, b :: rest)

theorem length_continuation_le (range : UInt8 × UInt8) (value n : Nat) (bytes : List UInt8) :
    (continuation range value n bytes).2.length ≤ bytes.length := by
  induction n generalizing range value bytes with
  | zero => simp [continuation]
  | succ n ih =>
    cases bytes with
    | nil => simp [continuation]
    | cons b rest =>
      unfold continuation
      split
      · exact Nat.le_succ_of_le (ih _ _ _)
      · exact Nat.le_refl _

/-- The pieces of a byte list: decoded characters, and `none` for each run that is no character. -/
def units : List UInt8 → List (Option Char)
  | [] => []
  | first :: rest =>
    match following? first with
    | none => none :: units rest
    | some n =>
      let sequence := continuation (secondRange first) (leadBits first n) n rest
      sequence.1.map Char.ofNat :: units sequence.2
termination_by bytes => bytes.length
decreasing_by
  · simp
  · have := length_continuation_le (secondRange first) (leadBits first n) n rest
    simp only [List.length_cons]
    omega

/-- The text that the bytes encode, if every piece of them is a character. -/
def decode? (bytes : List UInt8) : Option String :=
  ((units bytes).mapM id).map String.ofList

/-- The text with the replacement character in place of what is no character. -/
def lossy (bytes : List UInt8) : String :=
  String.ofList ((units bytes).map fun unit ↦ unit.getD '\uFFFD')

end JobShell.Text.Utf8
